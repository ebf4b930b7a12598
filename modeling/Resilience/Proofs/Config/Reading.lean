import Mathlib.Data.List.Pairwise
import Resilience.Config.Document
import Resilience.Proofs.Config.Catalog
import Resilience.Proofs.Results
import Resilience.Proofs.Toml.Arrangement

/-!
# What is read does not depend on the order of keys

A record is read by putting in the entries of its table one after another, each by the field with
its key. The fields of a record do not interfere, so the entries may come in any order
(`putEntries_perm`), as long as no key comes twice; and a catalog is sorted by names anyway. Hence
tables that are the same up to arrangement read as the same configuration
(`ofDocument_of_arranged`).
-/

namespace Resilience.Config

open Toml (Value Table Arranged Similar)

variable {α β ε : Type} {fields : List (Field α)} {start a b c : α} {e f : String × Value}
  {entries t t' u : Table}

/-! ### Fields that do not interfere -/

/-- Two fields can be put in in any order. -/
def Field.Commutes (f g : Field α) : Prop :=
  ∀ v w a c, (f.put v a >>= g.put w) = .ok c ↔ (g.put w a >>= f.put v) = .ok c

theorem Field.Commutes.symm {f g : Field α} (h : f.Commutes g) : g.Commutes f :=
  fun v w a c ↦ (h w v a c).symm

instance : Std.Symm (Field.Commutes : Field α → Field α → Prop) := ⟨fun _ _ ↦ .symm⟩

theorem Field.Commutes.exists_swap {f g : Field α} (h : f.Commutes g) {v w : Value}
    (hf : f.put v a = .ok b) (hg : g.put w b = .ok c) :
    ∃ b', g.put w a = .ok b' ∧ f.put v b' = .ok c :=
  Except.bind_eq_ok_iff.1 ((h v w a c).1 (Except.bind_eq_ok_iff.2 ⟨b, hf, hg⟩))

/-- Fields with setters that do not interfere. -/
theorem field_commutes {γ : Type} {key key' : String} {read : Reader β} {read' : Reader γ}
    {set : β → α → α} {set' : γ → α → α} (h : ∀ x y a, set' y (set x a) = set x (set' y a)) :
    (field key read set).Commutes (field key' read' set') := by
  intro v w a c
  show ((read v).map (set · a) >>= fun b ↦ (read' w).map (set' · b)) = _ ↔
    ((read' w).map (set' · a) >>= fun b ↦ (read v).map (set · b)) = _
  cases read v with
  | error fault => cases read' w <;> exact iff_of_false nofun nofun
  | ok x =>
    cases read' w with
    | error fault => exact iff_of_false nofun nofun
    | ok y =>
      show Except.ok (set' y (set x a)) = .ok c ↔ Except.ok (set x (set' y a)) = .ok c
      rw [h]

/-- A key that means nothing. -/
def ignored (key : String) : Field α := field key skip fun _ a ↦ a

theorem ignored_commutes (key : String) (g : Field α) : (ignored key).Commutes g := by
  intro v w a c
  show ((skip v).map (fun _ ↦ a) >>= g.put w) = _ ↔
    (g.put w a >>= fun b ↦ (skip v).map fun _ ↦ b) = _
  cases skip v with
  | error fault => cases g.put w a <;> exact iff_of_false nofun nofun
  | ok u =>
    show g.put w a = _ ↔ _
    cases g.put w a <;> exact Iff.rfl

/-- No two fields of a record interfere. -/
def Independent (fields : List (Field α)) : Prop := fields.Pairwise Field.Commutes

/-- The field that a key belongs to. -/
def fieldOf (fields : List (Field α)) (key : String) : Field α :=
  (fields.find? (·.key == key)).getD (ignored key)

theorem fieldOf_commutes (h : Independent fields) {key key' : String} (hne : key ≠ key') :
    (fieldOf fields key).Commutes (fieldOf fields key') := by
  rw [fieldOf, fieldOf]
  cases hf : fields.find? (·.key == key) with
  | none => exact ignored_commutes key _
  | some f =>
    cases hg : fields.find? (·.key == key') with
    | none => exact (ignored_commutes key' _).symm
    | some g =>
      have hkey : f.key = key := by simpa using List.find?_some hf
      have hkey' : g.key = key' := by simpa using List.find?_some hg
      have hfg : f ≠ g := by
        rintro rfl
        exact hne (hkey.symm.trans hkey')
      exact List.Pairwise.forall h (List.mem_of_find?_eq_some hf) (List.mem_of_find?_eq_some hg)
        hfg

/-! ### Entries in any order -/

theorem putEntries_cons (fields : List (Field α)) (start : α) (e : String × Value) (rest : Table) :
    putEntries fields start (e :: rest) =
      (fieldOf fields e.1).put e.2 start >>= fun a ↦ putEntries fields a rest := by
  obtain ⟨key, v⟩ := e
  rw [putEntries, List.foldlM_cons, fieldOf]
  cases hfield : fields.find? (·.key == key) with
  | none =>
    simp only [hfield, Option.getD_none, ignored, field]
    cases skip v <;> rfl
  | some f =>
    simp only [hfield, Option.getD_some]
    rfl

theorem putEntries_cons_eq_ok_iff {rest : Table} :
    putEntries fields start (e :: rest) = .ok c ↔
      ∃ a, (fieldOf fields e.1).put e.2 start = .ok a ∧ putEntries fields a rest = .ok c := by
  rw [putEntries_cons, Except.bind_eq_ok_iff]

/-- **Entries may be put in in any order**, if no key comes twice. -/
theorem putEntries_perm (hfields : Independent fields) (hperm : t.Perm t')
    (hnodup : (t.map Prod.fst).Nodup) (h : putEntries fields start t = .ok c) :
    putEntries fields start t' = .ok c := by
  induction hperm generalizing start with
  | nil => exact h
  | cons e _ ih =>
    obtain ⟨a, ha, hrest⟩ := putEntries_cons_eq_ok_iff.1 h
    exact putEntries_cons_eq_ok_iff.2 ⟨a, ha, ih (List.nodup_cons.1 hnodup).2 hrest⟩
  | swap e f rest =>
    obtain ⟨a, ha, hrest⟩ := putEntries_cons_eq_ok_iff.1 h
    obtain ⟨b, hb, hlast⟩ := putEntries_cons_eq_ok_iff.1 hrest
    have hne : f.1 ≠ e.1 := fun heq ↦
      (List.nodup_cons.1 hnodup).1 (heq ▸ List.mem_cons_self)
    obtain ⟨a', ha', hb'⟩ := (fieldOf_commutes hfields hne).exists_swap ha hb
    exact putEntries_cons_eq_ok_iff.2 ⟨a', ha', putEntries_cons_eq_ok_iff.2 ⟨b, hb', hlast⟩⟩
  | trans hperm _ ih ih' =>
    exact ih' ((hperm.map Prod.fst).nodup_iff.1 hnodup) (ih hnodup h)

/-! ### Readings that do not see the order -/

/-- No key comes twice, if a value is a table. -/
def HasDistinctKeys : Value → Prop
  | .table t => (t.map Prod.fst).Nodup
  | _ => True

/-- A reading that reads tables as the same that are the same up to arrangement. -/
def Steady (read : Reader α) : Prop :=
  ∀ t t' a, Value.Throughout HasDistinctKeys (.table t) → Arranged t t' →
    read (.table t) = .ok a → read (.table t') = .ok a

theorem Steady.of_similar {read : Reader α} (h : Steady read)
    (hkeys : Value.Throughout HasDistinctKeys e.2) (hsimilar : Similar e f)
    (hread : read e.2 = .ok a) : read f.2 = .ok a := by
  cases hsimilar with
  | same => exact hread
  | table key harranged => exact h _ _ _ hkeys harranged hread

/-- A reading that refuses tables. -/
theorem steady_of_refuses {read : Reader α} (h : ∀ t, ∃ fault, read (.table t) = .error fault) :
    Steady read := by
  intro t t' a _ _ hread
  obtain ⟨fault, hfault⟩ := h t
  rw [hfault] at hread
  cases hread

theorem areSkippableEntries_of_arranged (h : Arranged t t') :
    areSkippableEntries t = areSkippableEntries t' := by
  induction h with
  | nil => rfl
  | cons e _ ih => rw [areSkippableEntries, areSkippableEntries, ih]
  | table key _ _ ih ih' =>
    rw [areSkippableEntries, areSkippableEntries, isSkippable, isSkippable, ih, ih']
  | swap e f t =>
    simp only [areSkippableEntries]
    rw [Bool.and_left_comm]
  | trans _ _ ih ih' => rw [ih, ih']

theorem steady_skip : Steady skip := by
  intro t t' _ _ harranged h
  rwa [skip, isSkippable, ← areSkippableEntries_of_arranged harranged]

/-- A field that is read steadily. -/
def Field.IsSteady (f : Field α) : Prop := ∀ a, Steady fun v ↦ f.put v a

theorem isSteady_field {key : String} {read : Reader β} {set : β → α → α} (h : Steady read) :
    (field key read set).IsSteady := by
  intro a t t' b hkeys harranged hput
  obtain ⟨x, hx, rfl⟩ := Except.map_eq_ok_iff.1 hput
  exact Except.map_eq_ok_iff.2 ⟨x, h t t' x hkeys harranged hx, rfl⟩

theorem isSteady_fieldOf (h : ∀ f ∈ fields, f.IsSteady) (key : String) :
    (fieldOf fields key).IsSteady := by
  rw [fieldOf]
  cases hf : fields.find? (·.key == key) with
  | none => exact isSteady_field steady_skip
  | some f => exact h f (List.mem_of_find?_eq_some hf)

theorem putEntries_of_similar (hsteady : ∀ f ∈ fields, f.IsSteady)
    (hsimilar : List.Forall₂ Similar t u) (hkeys : ∀ e ∈ t, Value.Throughout HasDistinctKeys e.2)
    (h : putEntries fields start t = .ok c) : putEntries fields start u = .ok c := by
  induction hsimilar generalizing start with
  | nil => exact h
  | @cons e f t u hef _ ih =>
    rw [List.forall_mem_cons] at hkeys
    obtain ⟨a, ha, hrest⟩ := putEntries_cons_eq_ok_iff.1 h
    refine putEntries_cons_eq_ok_iff.2 ⟨a, ?_, ih hkeys.2 hrest⟩
    rw [← hef.fst_eq]
    exact (isSteady_fieldOf hsteady e.1 start).of_similar hkeys.1 hef ha

/-- **Entries may be arranged in any way**, in a record and in the tables in it. -/
theorem putEntries_of_arranged (hfields : Independent fields) (hsteady : ∀ f ∈ fields, f.IsSteady)
    (hkeys : Value.Throughout HasDistinctKeys (.table t)) (harranged : Arranged t t')
    (h : putEntries fields start t = .ok c) : putEntries fields start t' = .ok c := by
  obtain ⟨u, hsimilar, hperm⟩ := harranged.exists_perm
  obtain ⟨hnodup, hentries⟩ := Value.throughout_table_iff.1 hkeys
  exact putEntries_perm hfields hperm (Toml.map_fst_of_similar hsimilar ▸ hnodup)
    (putEntries_of_similar hsteady hsimilar hentries h)

theorem steady_readRecord (hfields : Independent fields) (hsteady : ∀ f ∈ fields, f.IsSteady)
    (start : α) : Steady (readRecord fields start) :=
  fun _ _ _ hkeys harranged h ↦ putEntries_of_arranged hfields hsteady hkeys harranged h

/-- The entries of a catalog are read one by one. -/
theorem readCatalog_eq_ok_iff {read : Reader α} {catalog : Catalog α} :
    readCatalog read (.table t) = .ok catalog ↔
      ∃ l, List.Forall₂ (fun e x ↦ e.1 = x.1 ∧ read e.2 = .ok x.2) t l ∧
        Catalog.ofList l = catalog := by
  have hentry : ∀ (e : String × Value) (x : String × α),
      (read e.2 >>= fun a ↦ Except.ok (e.1, a)) = .ok x ↔ e.1 = x.1 ∧ read e.2 = .ok x.2 := by
    rintro e ⟨name, a⟩
    rw [Except.bind_eq_ok_iff]
    constructor
    · rintro ⟨a', ha', heq⟩
      obtain ⟨rfl, rfl⟩ := Prod.mk.inj (Except.ok.inj heq)
      exact ⟨rfl, ha'⟩
    · rintro ⟨rfl, ha⟩
      exact ⟨a, ha, rfl⟩
  show ((t.mapM fun e ↦ read e.2 >>= fun a ↦ Except.ok (e.1, a)) >>= fun l ↦
    Except.ok (Catalog.ofList l)) = .ok catalog ↔ _
  rw [Except.bind_eq_ok_iff]
  refine exists_congr fun l ↦ ?_
  rw [Except.mapM_eq_ok_iff]
  simp only [hentry, Except.ok.injEq]

theorem map_fst_of_forall₂ {read : Reader α} {l : List (String × α)}
    (h : List.Forall₂ (fun e x ↦ e.1 = x.1 ∧ read e.2 = .ok x.2) t l) :
    t.map Prod.fst = l.map Prod.fst := by
  induction h with
  | nil => rfl
  | cons h _ ih => rw [List.map_cons, List.map_cons, h.1, ih]

theorem forall₂_of_similar {read : Reader α} (h : Steady read) {l : List (String × α)}
    (hkeys : ∀ e ∈ t, Value.Throughout HasDistinctKeys e.2) (hsimilar : List.Forall₂ Similar t u)
    (hl : List.Forall₂ (fun e x ↦ e.1 = x.1 ∧ read e.2 = .ok x.2) t l) :
    List.Forall₂ (fun e x ↦ e.1 = x.1 ∧ read e.2 = .ok x.2) u l := by
  induction hsimilar generalizing l with
  | nil => exact hl
  | cons hef _ ih =>
    cases hl with
    | cons hx hrest =>
      rw [List.forall_mem_cons] at hkeys
      exact .cons ⟨hef.fst_eq.symm.trans hx.1, h.of_similar hkeys.1 hef hx.2⟩ (ih hkeys.2 hrest)

/-- **A catalog may be arranged in any way**, since it is sorted by names. -/
theorem steady_readCatalog {read : Reader α} (h : Steady read) : Steady (readCatalog read) := by
  intro t t' catalog hkeys harranged hread
  obtain ⟨hnodup, hentries⟩ := Value.throughout_table_iff.1 hkeys
  obtain ⟨u, hsimilar, hperm⟩ := harranged.exists_perm
  obtain ⟨l, hl, rfl⟩ := readCatalog_eq_ok_iff.1 hread
  obtain ⟨l', hl', hll'⟩ := List.perm_comp_forall₂ hperm.symm
    (forall₂_of_similar h hentries hsimilar hl)
  have hnames : (l.map Prod.fst).Nodup := map_fst_of_forall₂ hl ▸ hnodup
  exact readCatalog_eq_ok_iff.2 ⟨l', hl', Catalog.ofList_perm hnames hll'.symm⟩

/-- A level is a word, or a table with one entry and nothing in it. -/
theorem steady_readLevel : Steady readLevel := by
  intro t t' level _ harranged hread
  obtain ⟨u, hsimilar, hperm⟩ := harranged.exists_perm
  match t, hread, hsimilar with
  | [(word, content)], hread, .cons hef .nil =>
    obtain rfl := List.perm_singleton.1 hperm.symm
    cases hef with
    | same => exact hread
    | @table _ v v' hv =>
      obtain ⟨level', hlevel, hcontent⟩ := Except.bind_eq_ok_iff.1 hread
      cases v with
      | nil =>
        rw [hv.eq_nil]
        exact hread
      | cons e v => cases hcontent

/-! ### Records -/

theorem steady_readBool : Steady readBool := steady_of_refuses fun _ ↦ ⟨_, rfl⟩

theorem steady_readString : Steady readString := steady_of_refuses fun _ ↦ ⟨_, rfl⟩

theorem steady_readDouble : Steady readDouble := steady_of_refuses fun _ ↦ ⟨_, rfl⟩

theorem steady_readUInt32 : Steady readUInt32 := steady_of_refuses fun _ ↦ ⟨_, rfl⟩

theorem steady_readUInt64 : Steady readUInt64 := steady_of_refuses fun _ ↦ ⟨_, rfl⟩

theorem forall_mem_nil_iff {P : Field α → Prop} : (∀ f ∈ ([] : List (Field α)), P f) ↔ True :=
  iff_true_intro nofun

theorem independent_nil : Independent ([] : List (Field α)) := .nil

theorem independent_cons_iff {f : Field α} :
    Independent (f :: fields) ↔ (∀ g ∈ fields, f.Commutes g) ∧ Independent fields :=
  List.pairwise_cons

theorem steady_readLogging : Steady readLogging := by
  refine steady_readRecord ?_ ?_ _
  · simp only [loggingFields, independent_cons_iff, List.forall_mem_cons, forall_mem_nil_iff,
      independent_nil, and_true]
    and_intros <;> exact field_commutes fun _ _ _ ↦ rfl
  · simp only [loggingFields, List.forall_mem_cons, forall_mem_nil_iff, and_true]
    exact ⟨isSteady_field steady_readLevel, isSteady_field steady_readBool,
      isSteady_field steady_readString⟩

theorem steady_readBreaker : Steady readBreaker := by
  refine steady_readRecord ?_ ?_ _
  · simp only [breakerFields, independent_cons_iff, List.forall_mem_cons, forall_mem_nil_iff,
      independent_nil, and_true]
    and_intros <;> exact field_commutes fun _ _ _ ↦ rfl
  · simp only [breakerFields, List.forall_mem_cons, forall_mem_nil_iff, and_true]
    exact ⟨isSteady_field steady_readUInt32, isSteady_field steady_readDouble,
      isSteady_field steady_readUInt32, isSteady_field steady_readUInt64,
      isSteady_field steady_readUInt64⟩

theorem steady_readRegulator : Steady readRegulator := by
  have hrecord : Steady (readRecord regulatorFields {}) := by
    refine steady_readRecord ?_ ?_ _
    · simp only [regulatorFields, independent_cons_iff, List.forall_mem_cons, forall_mem_nil_iff,
        independent_nil, and_true]
      exact field_commutes fun _ _ _ ↦ rfl
    · simp only [regulatorFields, List.forall_mem_cons, forall_mem_nil_iff, and_true]
      exact ⟨isSteady_field steady_readUInt32, isSteady_field steady_readUInt64⟩
  intro t t' settings hkeys harranged hread
  obtain ⟨s, hs, hsettings⟩ := Except.bind_eq_ok_iff.1 hread
  refine Except.bind_eq_ok_iff.2 ⟨s, hrecord t t' s hkeys harranged hs, ?_⟩
  -- whether the budget is missing does not depend on the table
  rcases hbudget : s.maxRequests with - | budget
  · rw [hbudget] at hsettings
    cases hsettings
  · rwa [hbudget] at hsettings

theorem steady_readMonitor : Steady readMonitor := by
  refine steady_readRecord ?_ ?_ _
  · simp only [monitorFields, independent_cons_iff, List.forall_mem_cons, forall_mem_nil_iff,
      independent_nil, and_true]
    exact field_commutes fun _ _ _ ↦ rfl
  · simp only [monitorFields, List.forall_mem_cons, forall_mem_nil_iff, and_true]
    exact ⟨isSteady_field steady_readUInt64, isSteady_field steady_readUInt64⟩

/-- **A configuration does not depend on how its document is arranged.** -/
theorem ofDocument_of_arranged {d d' : Table} {c : Config Binary64}
    (hkeys : Value.Throughout HasDistinctKeys (.table d)) (harranged : Arranged d d')
    (h : ofDocument d = .ok c) : ofDocument d' = .ok c := by
  refine putEntries_of_arranged ?_ ?_ hkeys harranged h
  · simp only [sections, independent_cons_iff, List.forall_mem_cons, forall_mem_nil_iff,
      independent_nil, and_true]
    and_intros <;> exact field_commutes fun _ _ _ ↦ rfl
  · simp only [sections, List.forall_mem_cons, forall_mem_nil_iff, and_true]
    exact ⟨isSteady_field steady_readLogging,
      isSteady_field (steady_readCatalog steady_readBreaker),
      isSteady_field (steady_readCatalog steady_readRegulator),
      isSteady_field (steady_readCatalog steady_readMonitor)⟩

end Resilience.Config
