import Resilience.Proofs.Config.Reading
import Resilience.Proofs.Config.Validation

/-!
# A configuration survives saving and loading

A configuration is saved as a text and loaded from one by a writer and a reader of documents, a
`Toml.Codec`. Little is asked of them: that documents with integers of 64 bits can be written, and
that what was written is read, its entries in any order (`Toml.Codec.LawfulAt`). What is left to
show is that nothing is lost between configurations and documents. Fields are left out only where
they are not set (`OmitsUnset`), and what is written is read back, every entry in its section and
under its name (`ofDocument_toDocument`). With `ofDocument_of_arranged` for the order of entries,
and the checking of what was read, that is `load_save`.
-/

namespace Resilience

/-! ### Writers and readers of documents -/

namespace Toml

/-- What configurations consist of: strings, truth values, integers that a word of 64 bits holds,
with a sign or without, doubles that stand for numbers, and tables in which no key comes twice. -/
def IsPlain : Value → Prop
  | .string _ | .boolean _ => True
  | .integer n => -2 ^ 63 ≤ n ∧ n < 2 ^ 64
  | .float x => ∃ q, x.value? = some q
  | .table t => (t.map Prod.fst).Nodup
  | _ => False

/-- An integer, if a value is one, is one that a word of 64 bits with a sign holds. -/
def IsSigned : Value → Prop
  | .integer n => -2 ^ 63 ≤ n ∧ n < 2 ^ 63
  | _ => True

/-- What is relied upon when a document is written and its text is read. -/
structure Codec.LawfulAt (codec : Codec) (d : Table) : Prop where
  /-- Integers of 64 bits with a sign can be written. -/
  writes : Value.Throughout IsPlain (.table d) → Value.Throughout IsSigned (.table d) →
    ∃ text, codec.write d = some text
  /-- What was written is read, its entries in any order. -/
  reads : Value.Throughout IsPlain (.table d) → ∀ text, codec.write d = some text →
    ∃ d', codec.read text = some d' ∧ Arranged d d'

end Toml

namespace Config

open Toml (Value Table)

/-! ### What is written is read -/

variable {α : Type}

theorem readUInt32_natValue (n : UInt32) : readUInt32 (natValue n.toNat) = .ok n := by
  have hbound : (0 : Int) ≤ n.toNat ∧ (n.toNat : Int) < UInt32.size :=
    ⟨Int.natCast_nonneg _, Int.ofNat_lt.2 n.toNat_lt⟩
  rw [readUInt32, natValue, readBounded, if_pos hbound, Int.toNat_natCast]
  exact congrArg Except.ok (UInt32.ofNat_toNat)

theorem readUInt64_natValue (n : UInt64) : readUInt64 (natValue n.toNat) = .ok n := by
  have hbound : (0 : Int) ≤ n.toNat ∧ (n.toNat : Int) < UInt64.size :=
    ⟨Int.natCast_nonneg _, Int.ofNat_lt.2 n.toNat_lt⟩
  rw [readUInt64, natValue, readBounded, if_pos hbound, Int.toNat_natCast]
  exact congrArg Except.ok (UInt64.ofNat_toNat)

theorem readLevel_word (level : LogLevel) : readLevel (.string level.word) = .ok level := by
  cases level <;> rfl

/-- One entry is put in. -/
theorem putEntries_field {β : Type} {fields : List (Field α)} {key : String} {read : Reader β}
    {set : β → α → α} {v : Value} {x : β} {a : α} {rest : Table}
    (hfield : fieldOf fields key = field key read set) (hread : read v = .ok x) :
    putEntries fields a ((key, v) :: rest) = putEntries fields (set x a) rest := by
  have hput : (field key read set).put v a = .ok (set x a) := Except.map_eq_ok_iff.2 ⟨x, hread, rfl⟩
  rw [putEntries_cons, hfield, hput]
  rfl

/-- One entry is put in, if it is there. -/
theorem putEntries_optionalEntry {β : Type} {fields : List (Field α)} {key : String}
    {read : Reader β} {set : β → α → α} {write : β → Value} {a : α} {rest : Table}
    (hfield : fieldOf fields key = field key read set) (hread : ∀ b, read (write b) = .ok b)
    (value : Option β) : putEntries fields a (optionalEntry key write value ++ rest) =
      putEntries fields (value.elim a (set · a)) rest := by
  cases value with
  | none => rfl
  | some b => exact putEntries_field hfield (hread b)

theorem readLogging_loggingTable (s : LoggingSettings) :
    readLogging (.table (loggingTable s)) = .ok s := by
  obtain ⟨level, json, file⟩ := s
  have hjson : readBool (.boolean json) = .ok json := rfl
  have hfile : ∀ file, readString (.string file) = .ok file := fun _ ↦ rfl
  show putEntries loggingFields {} (("level", .string level.word) :: ("json", .boolean json) ::
    optionalEntry "file" .string file) = _
  rw [putEntries_field rfl (readLevel_word level), putEntries_field rfl hjson,
    ← List.append_nil (optionalEntry _ _ _), putEntries_optionalEntry rfl hfile]
  cases file <;> rfl

theorem readBreaker_breakerTable (s : BreakerSettings Binary64) :
    readBreaker (.table (breakerTable s)) = .ok s := by
  obtain ⟨threshold, percent, minRequests, periodMs, resetMs⟩ := s
  have hpercent : ∀ x, readDouble (.float x) = .ok x := fun _ ↦ rfl
  show putEntries breakerFields {} (breakerTable _) = _
  rw [breakerTable, List.append_assoc,
    putEntries_optionalEntry rfl fun n ↦ readUInt32_natValue n,
    putEntries_optionalEntry rfl hpercent,
    putEntries_field rfl (readUInt32_natValue minRequests),
    putEntries_field rfl (readUInt64_natValue periodMs),
    putEntries_field rfl (readUInt64_natValue resetMs)]
  cases threshold <;> cases percent <;> rfl

theorem readRegulator_regulatorTable (s : RegulatorSettings) :
    readRegulator (.table (regulatorTable s)) = .ok s := by
  have hrecord : readRecord regulatorFields {} (.table (regulatorTable s)) =
      .ok ⟨some s.maxRequests, s.periodMs⟩ := by
    show putEntries regulatorFields {} (regulatorTable s) = _
    rw [regulatorTable, putEntries_field rfl (readUInt32_natValue s.maxRequests),
      putEntries_field rfl (readUInt64_natValue s.periodMs)]
    rfl
  exact Except.bind_eq_ok_iff.2 ⟨_, hrecord, rfl⟩

theorem readMonitor_monitorTable (s : MonitorSettings) :
    readMonitor (.table (monitorTable s)) = .ok s := by
  show putEntries monitorFields {} (monitorTable s) = _
  rw [monitorTable, putEntries_field rfl (readUInt64_natValue s.latencyWindowMs),
    putEntries_field rfl (readUInt64_natValue s.percentileWindowMs)]
  rfl

/-- Named entries are read if each of them is. -/
theorem readCatalog_catalogTable {read : Reader α} {write : α → Table}
    (h : ∀ a, read (.table (write a)) = .ok a) (c : Catalog α) :
    readCatalog read (catalogTable write c) = .ok c := by
  refine readCatalog_eq_ok_iff.2 ⟨c.entries, ?_, Catalog.ofList_eq_of_perm (.refl _)⟩
  rw [List.forall₂_map_left_iff, List.forall₂_same]
  exact fun e _ ↦ ⟨rfl, h e.2⟩

/-- **What is written is read**: no entry is lost, none is put in the place of another, and what is
left out is the default. -/
theorem ofDocument_toDocument (c : Config Binary64) : ofDocument c.toDocument = .ok c := by
  rw [ofDocument, toDocument, putEntries_field rfl (readLogging_loggingTable c.logging),
    putEntries_field rfl (readCatalog_catalogTable readBreaker_breakerTable c.breakers),
    putEntries_field rfl (readCatalog_catalogTable readRegulator_regulatorTable c.regulators),
    putEntries_field rfl (readCatalog_catalogTable readMonitor_monitorTable c.monitors)]
  rfl

/-! ### What is left out -/

/-- A field is left out of a table. -/
def Omits (fields : List (Field α)) (t : Table) (key : String) : Prop :=
  key ∈ fields.map Field.key ∧ key ∉ t.map Prod.fst

theorem omits_loggingTable_iff {s : LoggingSettings} {key : String} :
    Omits loggingFields (loggingTable s) key ↔ key = "file" ∧ s.file = none := by
  obtain ⟨level, json, file⟩ := s
  cases file <;> simp [Omits, loggingFields, field, loggingTable, optionalEntry] <;> grind

theorem omits_breakerTable_iff {s : BreakerSettings Binary64} {key : String} :
    Omits breakerFields (breakerTable s) key ↔
      key = "threshold" ∧ s.threshold = none ∨
      key = "failure_rate_percent" ∧ s.percent = none := by
  obtain ⟨threshold, percent, minRequests, periodMs, resetMs⟩ := s
  cases threshold <;> cases percent <;>
    simp [Omits, breakerFields, field, breakerTable, optionalEntry] <;> grind

theorem not_omits_regulatorTable (s : RegulatorSettings) (key : String) :
    ¬ Omits regulatorFields (regulatorTable s) key :=
  fun h ↦ h.2 h.1

theorem not_omits_monitorTable (s : MonitorSettings) (key : String) :
    ¬ Omits monitorFields (monitorTable s) key :=
  fun h ↦ h.2 h.1

theorem not_omits_toDocument (c : Config Binary64) (key : String) :
    ¬ Omits sections c.toDocument key :=
  fun h ↦ h.2 h.1

/-- Just the fields are left out that are not set. -/
structure OmitsUnset (c : Config Binary64) : Prop where
  sections : ∀ key, ¬ Omits sections c.toDocument key
  logging : ∀ key, Omits loggingFields (loggingTable c.logging) key ↔
    key = "file" ∧ c.logging.file = none
  breakers : ∀ e ∈ c.breakers.entries, ∀ key, Omits breakerFields (breakerTable e.2) key ↔
    key = "threshold" ∧ e.2.threshold = none ∨
    key = "failure_rate_percent" ∧ e.2.percent = none
  regulators : ∀ e ∈ c.regulators.entries, ∀ key, ¬ Omits regulatorFields (regulatorTable e.2) key
  monitors : ∀ e ∈ c.monitors.entries, ∀ key, ¬ Omits monitorFields (monitorTable e.2) key

theorem omitsUnset (c : Config Binary64) : c.OmitsUnset where
  sections := not_omits_toDocument c
  logging _ := omits_loggingTable_iff
  breakers _ _ _ := omits_breakerTable_iff
  regulators e _ := not_omits_regulatorTable e.2
  monitors e _ := not_omits_monitorTable e.2

/-! ### What is written -/

section

variable {P : Value → Prop} {c : Config Binary64}

theorem forall_mem_optionalEntry_iff {β : Type} {key : String} {write : β → Value}
    {value : Option β} {Q : String × Value → Prop} :
    (∀ e ∈ optionalEntry key write value, Q e) ↔ ∀ b, value = some b → Q (key, write b) := by
  cases value with
  | none => exact iff_of_true nofun nofun
  | some b => simp [optionalEntry]

/-- A table without tables in it, in which no key comes twice. -/
structure IsRecord (t : Table) : Prop where
  nodup : (t.map Prod.fst).Nodup
  flat : ∀ e ∈ t, ∀ u, e.2 ≠ .table u

theorem isRecord_loggingTable (s : LoggingSettings) : IsRecord (loggingTable s) := by
  obtain ⟨level, json, file⟩ := s
  cases file <;> constructor <;> simp [loggingTable, optionalEntry]

theorem isRecord_breakerTable (s : BreakerSettings Binary64) : IsRecord (breakerTable s) := by
  obtain ⟨threshold, percent, minRequests, periodMs, resetMs⟩ := s
  cases threshold <;> cases percent <;> constructor <;>
    simp [breakerTable, optionalEntry, natValue]

theorem isRecord_regulatorTable (s : RegulatorSettings) : IsRecord (regulatorTable s) := by
  constructor <;> simp [regulatorTable, natValue]

theorem isRecord_monitorTable (s : MonitorSettings) : IsRecord (monitorTable s) := by
  constructor <;> simp [monitorTable, natValue]

theorem IsRecord.throughout {t : Table} (h : IsRecord t)
    (htable : ∀ t : Table, (t.map Prod.fst).Nodup → P (.table t)) (hentries : ∀ e ∈ t, P e.2) :
    Value.Throughout P (.table t) :=
  Value.throughout_table_iff.2 ⟨htable t h.nodup, fun e he ↦
    Value.throughout_of_not_table (h.flat e he) (hentries e he)⟩

theorem throughout_catalogTable {write : α → Table} {section_ : Catalog α}
    (htable : ∀ t : Table, (t.map Prod.fst).Nodup → P (.table t))
    (hrecord : ∀ a, IsRecord (write a)) (h : ∀ b ∈ section_.entries, ∀ e ∈ write b.2, P e.2) :
    Value.Throughout P (catalogTable write section_) := by
  refine Value.throughout_table_iff.2 ⟨htable _ ?_, fun e he ↦ ?_⟩
  · rw [List.map_map]
    exact section_.nodup_names
  · obtain ⟨b, hb, rfl⟩ := List.mem_map.1 he
    exact (hrecord b.2).throughout htable (h b hb)

/-- What holds of all tables in which no key comes twice, of strings, truth values and words of 32
bits, and of the other values of all entries, holds throughout a document that is written. -/
theorem throughout_toDocument (htable : ∀ t : Table, (t.map Prod.fst).Nodup → P (.table t))
    (hstring : ∀ s, P (.string s)) (hboolean : ∀ b, P (.boolean b))
    (hword : ∀ n : UInt32, P (natValue n.toNat))
    (hpercent : ∀ e ∈ c.breakers.entries, ∀ x, e.2.percent = some x → P (.float x))
    (hbreakers : ∀ e ∈ c.breakers.entries,
      P (natValue e.2.periodMs.toNat) ∧ P (natValue e.2.resetMs.toNat))
    (hregulators : ∀ e ∈ c.regulators.entries, P (natValue e.2.periodMs.toNat))
    (hmonitors : ∀ e ∈ c.monitors.entries,
      P (natValue e.2.latencyWindowMs.toNat) ∧ P (natValue e.2.percentileWindowMs.toNat)) :
    Value.Throughout P (.table c.toDocument) := by
  have hlogging : ∀ f ∈ loggingTable c.logging, P f.2 := by
    simp only [loggingTable, List.forall_mem_append, List.forall_mem_cons,
      forall_mem_optionalEntry_iff]
    exact ⟨⟨hstring _, hboolean _, nofun⟩, fun _ _ ↦ hstring _⟩
  have hbreaker : ∀ e ∈ c.breakers.entries, ∀ f ∈ breakerTable e.2, P f.2 := by
    intro e he
    simp only [breakerTable, List.forall_mem_append, List.forall_mem_cons,
      forall_mem_optionalEntry_iff]
    exact ⟨⟨fun n _ ↦ hword n, hpercent e he⟩, hword _, (hbreakers e he).1, (hbreakers e he).2,
      nofun⟩
  have hregulator : ∀ e ∈ c.regulators.entries, ∀ f ∈ regulatorTable e.2, P f.2 := by
    intro e he
    simp only [regulatorTable, List.forall_mem_cons]
    exact ⟨hword _, hregulators e he, nofun⟩
  have hmonitor : ∀ e ∈ c.monitors.entries, ∀ f ∈ monitorTable e.2, P f.2 := by
    intro e he
    simp only [monitorTable, List.forall_mem_cons]
    exact ⟨(hmonitors e he).1, (hmonitors e he).2, nofun⟩
  refine Value.throughout_table_iff.2 ⟨htable _ (by simp [toDocument]), ?_⟩
  simp only [toDocument, List.forall_mem_cons]
  exact ⟨(isRecord_loggingTable _).throughout htable hlogging,
    throughout_catalogTable htable isRecord_breakerTable hbreaker,
    throughout_catalogTable htable isRecord_regulatorTable hregulator,
    throughout_catalogTable htable isRecord_monitorTable hmonitor, nofun⟩

end

/-! ### What documents consist of -/

theorem hasDistinctKeys_of_isPlain {v : Value} (h : Toml.IsPlain v) : HasDistinctKeys v := by
  cases v with
  | table t => exact h
  | _ => trivial

theorem isPlain_natValue {n : ℕ} (h : n < 2 ^ 64) : Toml.IsPlain (natValue n) := by
  have hbound : (n : Int) < 2 ^ 64 := by exact_mod_cast h
  exact ⟨by omega, hbound⟩

theorem isSigned_natValue {n : ℕ} (h : n ≤ 2 ^ 63 - 1) : Toml.IsSigned (natValue n) := by
  have hlt : n < 2 ^ 63 := by omega
  have hbound : (n : Int) < 2 ^ 63 := by exact_mod_cast hlt
  exact ⟨by omega, hbound⟩

/-- The percentage of a valid entry is a number. -/
theorem exists_value?_of_validate {c : Config Binary64} (h : c.validate = .ok ())
    {e : String × BreakerSettings Binary64} (he : e ∈ c.breakers.entries) {x : Binary64}
    (hx : e.2.percent = some x) : ∃ q, x.value? = some q := by
  have hget : c.breakers.get? e.1 = some e.2 := Catalog.get?_eq_some_iff.2 he
  have hdeclared : c.Declares .breaker e.1 := Option.isSome_of_mem hget
  obtain ⟨w, hw⟩ := (validate_eq_ok_iff Unit).1 h .breaker e.1 hdeclared
  rcases build_eq_ok_iff.1 hw with @⟨_, _, b, hs, hb⟩
  obtain rfl := Option.some.inj (hget.symm.trans hs)
  have hpolicy := hb.policy
  generalize b.config.policy = policy at hpolicy
  cases hpolicy with
  | count _ hpercent => cases hx.symm.trans hpercent
  | rate _ hpercent hvalue =>
    obtain rfl := Option.some.inj (hx.symm.trans hpercent)
    exact ⟨_, hvalue⟩
  | standard _ hpercent => cases hx.symm.trans hpercent

/-- A valid configuration is written with plain values. -/
theorem isPlain_toDocument {c : Config Binary64} (h : c.validate = .ok ()) :
    Value.Throughout Toml.IsPlain (.table c.toDocument) :=
  throughout_toDocument (fun _ ht ↦ ht) (fun _ ↦ trivial) (fun _ ↦ trivial)
    (fun n ↦ isPlain_natValue (n.toNat_lt.trans (by decide)))
    (fun _ he _ hx ↦ exists_value?_of_validate h he hx)
    (fun e _ ↦ ⟨isPlain_natValue e.2.periodMs.toNat_lt, isPlain_natValue e.2.resetMs.toNat_lt⟩)
    (fun e _ ↦ isPlain_natValue e.2.periodMs.toNat_lt)
    (fun e _ ↦ ⟨isPlain_natValue e.2.latencyWindowMs.toNat_lt,
      isPlain_natValue e.2.percentileWindowMs.toNat_lt⟩)

/-- Every integer field fits into a word of 64 bits with a sign; those of 32 bits do anyway. -/
structure FitsSigned (c : Config Binary64) : Prop where
  breakers : ∀ e ∈ c.breakers.entries,
    e.2.periodMs.toNat ≤ 2 ^ 63 - 1 ∧ e.2.resetMs.toNat ≤ 2 ^ 63 - 1
  regulators : ∀ e ∈ c.regulators.entries, e.2.periodMs.toNat ≤ 2 ^ 63 - 1
  monitors : ∀ e ∈ c.monitors.entries,
    e.2.latencyWindowMs.toNat ≤ 2 ^ 63 - 1 ∧ e.2.percentileWindowMs.toNat ≤ 2 ^ 63 - 1

theorem isSigned_toDocument {c : Config Binary64} (h : c.FitsSigned) :
    Value.Throughout Toml.IsSigned (.table c.toDocument) :=
  throughout_toDocument (fun _ _ ↦ trivial) (fun _ ↦ trivial) (fun _ ↦ trivial)
    (fun n ↦ isSigned_natValue (n.toNat_lt.le.trans (by decide))) (fun _ _ _ _ ↦ trivial)
    (fun e he ↦ ⟨isSigned_natValue (h.breakers e he).1, isSigned_natValue (h.breakers e he).2⟩)
    (fun e he ↦ isSigned_natValue (h.regulators e he))
    (fun e he ↦ ⟨isSigned_natValue (h.monitors e he).1, isSigned_natValue (h.monitors e he).2⟩)

/-! ### Saving and loading -/

/-- **A configuration survives saving and loading.** A valid one that is saved loads again as what
it was, and it can be saved if its integers fit into words with a sign. For the mapping in between
loses nothing: what is left out is what is not set, what is written is read, and what is loaded is
valid, so that it survives as well. -/
theorem load_save (codec : Toml.Codec) (c : Config Binary64)
    (hcodec : codec.LawfulAt c.toDocument) (hvalid : c.validate = .ok ()) :
    (∀ text, save codec c = some text → load codec text = .ok c) ∧
    (c.FitsSigned → ∃ text, save codec c = some text) ∧
    c.OmitsUnset ∧ ofDocument c.toDocument = .ok c ∧
    ∀ text c', load codec text = .ok c' → c'.validate = .ok () := by
  have hplain := isPlain_toDocument hvalid
  refine ⟨fun text htext ↦ ?_, fun hfits ↦ hcodec.writes hplain (isSigned_toDocument hfits),
    omitsUnset c, ofDocument_toDocument c, fun text c' h ↦ (load_eq_ok_iff.1 h).2⟩
  obtain ⟨d, hd, harranged⟩ := hcodec.reads hplain text htext
  have hread : ofDocument d = .ok c := ofDocument_of_arranged
    (hplain.imp fun _ ↦ hasDistinctKeys_of_isPlain) harranged (ofDocument_toDocument c)
  exact load_eq_ok_iff.2 ⟨⟨d, hd, hread⟩, hvalid⟩

/-- A name that has to be quoted, in two sections, and settings that are left out. -/
def withOddName : Config Binary64 where
  logging := { level := .debug }
  breakers := .ofList [("größe \"m\"\n", { percent := some (.ofDecimal false 125 (-1)) })]
  regulators := .ofList [("größe \"m\"\n", { maxRequests := 0, periodMs := 9223372036854775807 })]

theorem load_save_odd_name :
    ∃ text, save .standard withOddName = some text ∧ load .standard text = .ok withOddName := by
  have hlawful : Toml.Codec.standard.LawfulAt withOddName.toDocument := by
    have hread : (Toml.readDocument (Toml.writeDocument withOddName.toDocument)).any
        (Toml.isArrangement withOddName.toDocument) = true := by decide +kernel
    obtain ⟨d, hd, harranged⟩ := (Option.any_eq_true _ _).1 hread
    refine ⟨fun _ _ ↦ ⟨_, rfl⟩, ?_⟩
    rintro _ text htext
    obtain rfl := Option.some.inj htext
    exact ⟨d, hd, Toml.arranged_of_isArrangement _ _ harranged⟩
  have hfits : withOddName.FitsSigned := ⟨by decide +kernel, by decide +kernel, by decide +kernel⟩
  obtain ⟨hloads, hsaves, -⟩ := load_save .standard withOddName hlawful (by decide +kernel)
  obtain ⟨text, htext⟩ := hsaves hfits
  exact ⟨text, htext, hloads text htext⟩

end Config

end Resilience
