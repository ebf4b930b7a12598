import Resilience.Proofs.Config.Catalog
import Resilience.Proofs.Config.Loading
import Resilience.Proofs.Number.Value
import Resilience.Proofs.Text.ByteOrder
import Resilience.Wrapper

/-!
# Validation and building agree

A configuration is validated over its sections, and its wrappers are built one by one, by name. Both
come to the same, because validation is building with nothing kept: it goes through the declared
names in order and stops at the first one that does not build (`Config.validate_eq_forM_build`). The
order is that of kinds and, within a kind, that of the bytes of the names (`pairwise_declared`).

What builds is told from the entry alone, field by field (`Config.build_eq_ok_iff`): a wrapper that
carries the name and the settings declared under it.
-/

namespace Resilience

/-! ### One section -/

namespace Config

section

variable {α β γ : Type} {kind : WrapperKind} {name : String}
  {build : α → String → Except SettingsFault β} {section_ : Catalog α}

theorem buildFrom_of_mem {settings : α} (h : (name, settings) ∈ section_.entries) :
    buildFrom kind build section_ name = blame kind name (build settings name) := by
  rw [buildFrom, Catalog.get?_eq_some_iff.2 h]

theorem buildFrom_eq_ok_iff {wrapper : β} :
    buildFrom kind build section_ name = .ok wrapper ↔
      ∃ settings, section_.get? name = some settings ∧ build settings name = .ok wrapper := by
  rw [buildFrom]
  cases section_.get? name with
  | none => exact iff_of_false nofun fun ⟨_, h, _⟩ ↦ nomatch h
  | some settings =>
    simp only [Option.some.injEq, exists_eq_left']
    rw [blame]
    cases build settings name with
    | error fault => exact iff_of_false nofun nofun
    | ok built => exact ⟨fun h ↦ congrArg _ (Except.ok.inj h), fun h ↦ congrArg _ (Except.ok.inj h)⟩

theorem map_buildFrom_eq_ok_iff {wrap : β → γ} {w : γ} :
    (buildFrom kind build section_ name).map wrap = .ok w ↔
      ∃ settings built, section_.get? name = some settings ∧ build settings name = .ok built ∧
        wrap built = w := by
  constructor
  · intro h
    obtain ⟨built, hbuilt, hwrap⟩ := Except.map_eq_ok_iff.1 h
    obtain ⟨settings, hsettings, hbuild⟩ := buildFrom_eq_ok_iff.1 hbuilt
    exact ⟨settings, built, hsettings, hbuild, hwrap⟩
  · rintro ⟨settings, built, hsettings, hbuild, hwrap⟩
    exact Except.map_eq_ok_iff.2
      ⟨built, buildFrom_eq_ok_iff.2 ⟨settings, hsettings, hbuild⟩, hwrap⟩

theorem buildFrom_of_none (h : section_.get? name = none) :
    buildFrom kind build section_ name = .error (.missing kind name) := by
  rw [buildFrom, h]

/-- Nothing is missing under a declared name. -/
theorem buildFrom_ne_missing (h : (section_.get? name).isSome) (kind' : WrapperKind)
    (name' : String) : buildFrom kind build section_ name ≠ .error (.missing kind' name') := by
  obtain ⟨settings, hsettings⟩ := Option.isSome_iff_exists.1 h
  rw [buildFrom, hsettings]
  show blame kind name (build settings name) ≠ _
  rw [blame]
  cases build settings name <;> nofun

/-- The names of a section. -/
def names (kind : WrapperKind) (section_ : Catalog α) : List (WrapperKind × String) :=
  section_.entries.map fun e ↦ (kind, e.1)

theorem mem_names_iff {kind' : WrapperKind} :
    (kind', name) ∈ names kind section_ ↔ kind' = kind ∧ (section_.get? name).isSome := by
  rw [Catalog.isSome_get?_iff, names, List.mem_map, List.mem_map]
  constructor
  · rintro ⟨e, he, h⟩
    obtain ⟨rfl, rfl⟩ := Prod.mk.inj h
    exact ⟨rfl, e, he, rfl⟩
  · rintro ⟨rfl, e, he, rfl⟩
    exact ⟨e, he, rfl⟩

/-- **To check a section is to build everything in it**, by whatever function builds its entries
among others. -/
theorem checkSection_eq_forM {check : α → Except SettingsFault Unit} {wrap : β → γ}
    (kind : WrapperKind) (section_ : Catalog α)
    (buildAny : WrapperKind × String → Except ConfigError γ)
    (hbuild : ∀ name, buildAny (kind, name) = (buildFrom kind build section_ name).map wrap)
    (hcheck : ∀ settings name, check settings = Except.void (build settings name)) :
    checkSection kind check section_ =
      (names kind section_).forM fun declared ↦ Except.void (buildAny declared) := by
  rw [names, List.forM_eq_forM, List.forM_map, ← List.forM_eq_forM, checkSection]
  refine Except.forM_congr fun ⟨name, settings⟩ hmem ↦ ?_
  show blame kind name (check settings) = Except.void (buildAny (kind, name))
  rw [hbuild, Except.void_map, buildFrom_of_mem hmem, hcheck settings name]
  cases build settings name <;> rfl

end

/-! ### All sections -/

variable {K : Type} {kind : WrapperKind} {name : String} {c : Config K}

/-- A name is declared in the section of a kind. -/
def Declares (c : Config K) : WrapperKind → String → Prop
  | .breaker, name => (c.breakers.get? name).isSome
  | .regulator, name => (c.regulators.get? name).isSome
  | .monitor, name => (c.monitors.get? name).isSome

/-- All that is declared, in the order in which it is checked. -/
def declared (c : Config K) : List (WrapperKind × String) :=
  names .breaker c.breakers ++ (names .regulator c.regulators ++ names .monitor c.monitors)

theorem mem_declared_iff : (kind, name) ∈ c.declared ↔ c.Declares kind name := by
  rw [declared, List.mem_append, List.mem_append, mem_names_iff, mem_names_iff, mem_names_iff]
  cases kind <;> simp [Declares]

variable [Quantity K]

/-- The wrapper of a kind that is declared under a name. -/
def build (ε : Type) (c : Config K) : WrapperKind → String → Except ConfigError (Wrapper K ε)
  | .breaker, name => (c.breaker name).map .breaker
  | .regulator, name => (c.regulator name).map .regulator
  | .monitor, name => (c.monitor name).map .monitor

/-- **To validate is to build everything that is declared**, in order, and to keep nothing. -/
theorem validate_eq_forM_build (ε : Type) (c : Config K) :
    c.validate = c.declared.forM fun d ↦ Except.void (c.build ε d.1 d.2) := by
  let buildAny : WrapperKind × String → Except ConfigError (Wrapper K ε) := fun d ↦
    c.build ε d.1 d.2
  have hbreakers : checkSection .breaker (fun s ↦ s.toConfig.map fun _ ↦ ()) c.breakers = _ :=
    checkSection_eq_forM .breaker c.breakers buildAny (fun _ ↦ rfl)
      fun s name ↦ (Except.void_map (Breaker.new name) s.toConfig).symm
  have hregulators : checkSection .regulator RegulatorSettings.check c.regulators = _ :=
    checkSection_eq_forM .regulator c.regulators buildAny (fun _ ↦ rfl) fun s name ↦ by
      rw [RegulatorSettings.build]
      cases s.check <;> rfl
  have hmonitors : checkSection .monitor MonitorSettings.check c.monitors = _ :=
    checkSection_eq_forM .monitor c.monitors buildAny (fun _ ↦ rfl) fun s name ↦ by
      rw [MonitorSettings.build]
      cases s.check <;> rfl
  rw [validate, hbreakers, hregulators, hmonitors, declared]
  simp only [List.forM_eq_forM, List.forM_append]
  rfl

theorem build_eq_missing_of_not_declares (ε : Type) (h : ¬ c.Declares kind name) :
    c.build ε kind name = .error (.missing kind name) := by
  cases kind <;> rw [Declares, Option.not_isSome_iff_eq_none] at h
  · rw [build, breaker, buildFrom_of_none h]
    rfl
  · rw [build, regulator, buildFrom_of_none h]
    rfl
  · rw [build, monitor, buildFrom_of_none h]
    rfl

theorem build_ne_missing (ε : Type) (h : c.Declares kind name) (kind' : WrapperKind)
    (name' : String) : c.build ε kind name ≠ .error (.missing kind' name') := by
  intro hmissing
  cases kind
  · exact buildFrom_ne_missing h kind' name' (Except.map_eq_error_iff.1 hmissing)
  · exact buildFrom_ne_missing h kind' name' (Except.map_eq_error_iff.1 hmissing)
  · exact buildFrom_ne_missing h kind' name' (Except.map_eq_error_iff.1 hmissing)

/-! ### The order of checking -/

end Config

/-- The place of a kind among the sections. -/
def WrapperKind.rank : WrapperKind → ℕ
  | .breaker => 0
  | .regulator => 1
  | .monitor => 2

namespace Config

/-- One entry is checked before another: its section is, or its name has the smaller bytes. -/
def Precedes (d d' : WrapperKind × String) : Prop :=
  d.1.rank < d'.1.rank ∨ d.1 = d'.1 ∧ Text.bytes d.2 < Text.bytes d'.2

theorem Precedes.asymm {d d' : WrapperKind × String} (h : Precedes d d') : ¬ Precedes d' d := by
  rintro (hrank | ⟨hkind, hname⟩) <;> rcases h with hrank' | ⟨hkind', hname'⟩
  · omega
  · rw [hkind'] at hrank
    omega
  · rw [hkind] at hrank'
    omega
  · exact List.lt_asymm hname hname'

theorem pairwise_names {α : Type} (kind : WrapperKind) (section_ : Catalog α) :
    (names kind section_).Pairwise Precedes :=
  List.pairwise_map.2 (section_.sorted.imp fun h ↦ .inr ⟨rfl, (Text.lt_iff_bytes_lt _ _).1 h⟩)

theorem fst_of_mem_names {α : Type} {kind : WrapperKind} {section_ : Catalog α}
    {d : WrapperKind × String} (h : d ∈ names kind section_) : d.1 = kind := by
  obtain ⟨e, -, rfl⟩ := List.mem_map.1 h
  rfl

/-- **Breakers come first, then regulators, then monitors, and names in the order of their bytes.**
-/
theorem pairwise_declared {K : Type} (c : Config K) : c.declared.Pairwise Precedes := by
  refine List.pairwise_append.2 ⟨pairwise_names _ _, List.pairwise_append.2
    ⟨pairwise_names _ _, pairwise_names _ _, fun d hd d' hd' ↦ .inl ?_⟩, fun d hd d' hd' ↦ .inl ?_⟩
  · rw [fst_of_mem_names hd, fst_of_mem_names hd']
    decide
  · rw [fst_of_mem_names hd]
    rcases List.mem_append.1 hd' with hd' | hd' <;> rw [fst_of_mem_names hd'] <;> decide

/-- The first of a sequence in order with a property is one before which nothing has it. -/
theorem exists_split_iff {P Q : WrapperKind × String → Prop} {items : List (WrapperKind × String)}
    (h : items.Pairwise Precedes) :
    (∃ before d after, items = before ++ d :: after ∧ P d ∧ ∀ d' ∈ before, Q d') ↔
      ∃ d ∈ items, P d ∧ ∀ d' ∈ items, Precedes d' d → Q d' := by
  constructor
  · rintro ⟨before, d, after, rfl, hd, hbefore⟩
    obtain ⟨-, htail, -⟩ := List.pairwise_append.1 h
    refine ⟨d, List.mem_append_right _ List.mem_cons_self, hd, fun d' hd' hprecedes ↦ ?_⟩
    rcases List.mem_append.1 hd' with hd' | hd'
    · exact hbefore d' hd'
    · -- what comes behind does not precede
      rcases List.mem_cons.1 hd' with rfl | hd'
      · exact absurd hprecedes hprecedes.asymm
      · exact absurd hprecedes (List.rel_of_pairwise_cons htail hd').asymm
  · rintro ⟨d, hmem, hd, hbefore⟩
    obtain ⟨before, after, rfl⟩ := List.append_of_mem hmem
    obtain ⟨-, -, hcross⟩ := List.pairwise_append.1 h
    exact ⟨before, d, after, rfl, hd, fun d' hd' ↦
      hbefore d' (List.mem_append_left _ hd') (hcross d' hd' d List.mem_cons_self)⟩

end Config

/-! ### What is built -/

/-- What an accepted entry for a breaker says about its policy. -/
inductive BreakerSettings.Prescribes (s : BreakerSettings Binary64) : TripPolicy Binary64 → Prop
  | count {threshold : UInt32} : s.threshold = some threshold → s.percent = none →
      1 ≤ threshold.toNat → Prescribes s (.count threshold.toNat)
  | rate {percent : Binary64} {q : ℚ} : s.threshold = none → s.percent = some percent →
      percent.value? = some q → 0 < q → q ≤ 100 →
      Prescribes s (.rate percent s.minRequests.toNat)
  | standard : s.threshold = none → s.percent = none → Prescribes s (.count 5)

theorem one_le_toNat_iff {n : UInt32} : 1 ≤ n.toNat ↔ n ≠ 0 := by
  rw [Nat.one_le_iff_ne_zero, ne_eq, ne_eq, ← UInt32.toNat_inj]
  rfl

theorem BreakerSettings.toConfig_eq_ok_iff {s : BreakerSettings Binary64}
    {config : BreakerConfig Binary64} :
    s.toConfig = .ok config ↔ s.periodMs ≠ 0 ∧ ∃ policy, s.Prescribes policy ∧
      config = ⟨policy, .ofMillis s.periodMs.toNat, .ofMillis s.resetMs.toNat⟩ := by
  constructor
  · intro h
    rw [toConfig] at h
    split at h
    · cases h
    next hperiod =>
    refine ⟨hperiod, ?_⟩
    split at h
    · cases h
    · next threshold hthreshold hpercent =>
      split at h
      · cases h
      next hzero =>
      exact ⟨_, .count hthreshold hpercent (one_le_toNat_iff.2 hzero), (Except.ok.inj h).symm⟩
    · next percent hthreshold hpercent =>
      split at h
      next hrange =>
        obtain ⟨q, hq, hpos, hle⟩ := (Binary64.isPercentage_iff percent).1 hrange
        exact ⟨_, .rate hthreshold hpercent hq hpos hle, (Except.ok.inj h).symm⟩
      · cases h
    · next hthreshold hpercent =>
      exact ⟨_, .standard hthreshold hpercent, (Except.ok.inj h).symm⟩
  · rintro ⟨hperiod, policy, hpolicy, rfl⟩
    cases hpolicy with
    | count hthreshold hpercent hpos =>
      simp [toConfig, hperiod, hthreshold, hpercent, one_le_toNat_iff.1 hpos]
    | rate hthreshold hpercent hq hpos hle =>
      simp [toConfig, hperiod, hthreshold, hpercent,
        (Binary64.isPercentage_iff _).2 ⟨_, hq, hpos, hle⟩]
    | standard hthreshold hpercent => simp [toConfig, hperiod, hthreshold, hpercent]

/-! ### Breakers -/

section

variable {ε : Type} {name : String}

/-- A breaker is the one that an accepted entry asks for under a name: it has the policy and, in
nanoseconds, the durations of the entry; it counts every failure and keeps to itself, and its
circuit is closed and has nothing on record. -/
structure BreakerSettings.Describes (s : BreakerSettings Binary64) (name : String)
    (b : Breaker Binary64 ε) : Prop where
  periodMs_ne_zero : s.periodMs ≠ 0
  name_eq : b.name = name
  policy : s.Prescribes b.config.policy
  period_eq : b.config.period = s.periodMs.toNat * 1000000
  reset_eq : b.config.reset = s.resetMs.toNat * 1000000
  counts_eq : ∀ e, b.counts e = true
  mapper_eq : b.mapper = none
  listened_eq : b.listened = false
  circuit_eq : b.circuit = {
    state := .closed
    openedAt := none
    forced := false
    outcomes := ⟨s.periodMs.toNat * 1000000, []⟩
    trips := 0
    lastTripped := none
    generation := 0 }

theorem BreakerSettings.build_eq_ok_iff {s : BreakerSettings Binary64} {b : Breaker Binary64 ε} :
    s.build name = .ok b ↔ s.Describes name b := by
  constructor
  · intro h
    obtain ⟨config, hconfig, rfl⟩ := Except.map_eq_ok_iff.1 h
    obtain ⟨hperiod, policy, hpolicy, rfl⟩ := toConfig_eq_ok_iff.1 hconfig
    exact ⟨hperiod, rfl, hpolicy, rfl, rfl, fun _ ↦ rfl, rfl, rfl, rfl⟩
  · intro h
    refine Except.map_eq_ok_iff.2
      ⟨_, toConfig_eq_ok_iff.2 ⟨h.periodMs_ne_zero, _, h.policy, rfl⟩, ?_⟩
    obtain ⟨_, ⟨policy, period, reset⟩, counts, mapper, listened, circuit⟩ := b
    obtain ⟨-, rfl, -, rfl, rfl, hcounts, rfl, rfl, rfl⟩ := h
    obtain rfl : counts = fun _ ↦ true := funext hcounts
    rfl

/-! ### Regulators -/

/-- A regulator is the one that an accepted entry asks for under a name: it has the budget and, in
nanoseconds, the period of the entry, and it has admitted nothing. -/
structure RegulatorSettings.Describes (s : RegulatorSettings) (name : String) (r : Regulator ε) :
    Prop where
  periodMs_ne_zero : s.periodMs ≠ 0
  name_eq : r.name = name
  maxRequests_eq : r.maxRequests = s.maxRequests.toNat
  period_eq : r.period = s.periodMs.toNat * 1000000
  mapper_eq : r.mapper = none
  admissions_eq : r.admissions =
    { windowStart := none, inWindow := 0, admitted := 0, rejected := 0 }

theorem RegulatorSettings.build_eq_ok_iff {s : RegulatorSettings} {r : Regulator ε} :
    s.build name = .ok r ↔ s.Describes name r := by
  rw [build, check]
  split
  next hperiod => exact iff_of_false nofun fun h ↦ h.periodMs_ne_zero hperiod
  next hperiod =>
    constructor
    · intro h
      obtain rfl := Except.ok.inj h
      exact ⟨hperiod, rfl, rfl, rfl, rfl, rfl⟩
    · intro h
      obtain ⟨_, _, _, _, _⟩ := r
      obtain ⟨-, rfl, rfl, rfl, rfl, rfl⟩ := h
      rfl

/-! ### Monitors -/

/-- A monitor is the one that an accepted entry asks for under a name: both averages and the
percentiles have, in nanoseconds, the windows of the entry, and it has seen no call. -/
structure MonitorSettings.Describes {K : Type} [Quantity K] (s : MonitorSettings) (name : String)
    (m : Monitor K) : Prop where
  latencyWindow_ne_zero : s.latencyWindowMs ≠ 0
  percentileWindow_ne_zero : s.percentileWindowMs ≠ 0
  name_eq : m.name = name
  successLatency_eq : m.successLatency =
    { window := s.latencyWindowMs.toNat * 1000000, average := Quantity.ofNat 0, lastUpdate := none }
  failureLatency_eq : m.failureLatency =
    { window := s.latencyWindowMs.toNat * 1000000, average := Quantity.ofNat 0, lastUpdate := none }
  observations_eq : m.latencies.observations =
    { window := s.percentileWindowMs.toNat * 1000000, samples := [] }
  counts_eq : m.counts = { total := 0, success := 0, failure := 0 }
  previous_eq : m.flow.previous = none
  lastSuccess_eq : m.lastSuccess = none
  lastFailure_eq : m.lastFailure = none

theorem MonitorSettings.build_eq_ok_iff {K : Type} [Quantity K] {s : MonitorSettings}
    {m : Monitor K} : s.build name = .ok m ↔ s.Describes name m := by
  rw [build, check]
  split
  next hlatency => exact iff_of_false nofun fun h ↦ h.latencyWindow_ne_zero hlatency
  next hlatency =>
    split
    next hpercentile => exact iff_of_false nofun fun h ↦ h.percentileWindow_ne_zero hpercentile
    next hpercentile =>
      constructor
      · intro h
        obtain rfl := Except.ok.inj h
        exact ⟨hlatency, hpercentile, rfl, rfl, rfl, rfl, rfl, rfl, rfl, rfl⟩
      · intro h
        obtain ⟨_, _, ⟨_⟩, _, _, ⟨_⟩, _, _⟩ := m
        obtain ⟨-, -, rfl, rfl, rfl, rfl, rfl, rfl, rfl, rfl⟩ := h
        rfl

end

/-! ### Declared wrappers -/

namespace Config

variable {ε : Type}

/-- A wrapper is the one that is declared under a name. -/
inductive Describes (c : Config Binary64) : WrapperKind → String → Wrapper Binary64 ε → Prop
  | breaker {name : String} {s : BreakerSettings Binary64} {b : Breaker Binary64 ε} :
      c.breakers.get? name = some s → s.Describes name b → Describes c .breaker name (.breaker b)
  | regulator {name : String} {s : RegulatorSettings} {r : Regulator ε} :
      c.regulators.get? name = some s → s.Describes name r →
      Describes c .regulator name (.regulator r)
  | monitor {name : String} {s : MonitorSettings} {m : Monitor Binary64} :
      c.monitors.get? name = some s → s.Describes name m → Describes c .monitor name (.monitor m)

/-- **What is built is what is declared**, and whatever an accepted entry declares is built. -/
theorem build_eq_ok_iff {c : Config Binary64} {kind : WrapperKind} {name : String}
    {w : Wrapper Binary64 ε} : c.build ε kind name = .ok w ↔ c.Describes kind name w := by
  cases kind with
  | breaker =>
    rw [build, breaker, map_buildFrom_eq_ok_iff]
    constructor
    · rintro ⟨s, b, hs, hb, rfl⟩
      exact .breaker hs (BreakerSettings.build_eq_ok_iff.1 hb)
    · rintro (⟨hs, hb⟩)
      exact ⟨_, _, hs, BreakerSettings.build_eq_ok_iff.2 hb, rfl⟩
  | regulator =>
    rw [build, regulator, map_buildFrom_eq_ok_iff]
    constructor
    · rintro ⟨s, r, hs, hr, rfl⟩
      exact .regulator hs (RegulatorSettings.build_eq_ok_iff.1 hr)
    · rintro (⟨⟩ | ⟨hs, hr⟩)
      exact ⟨_, _, hs, RegulatorSettings.build_eq_ok_iff.2 hr, rfl⟩
  | monitor =>
    rw [build, monitor, map_buildFrom_eq_ok_iff]
    constructor
    · rintro ⟨s, m, hs, hm, rfl⟩
      exact .monitor hs (MonitorSettings.build_eq_ok_iff.1 hm)
    · rintro (⟨⟩ | ⟨⟩ | ⟨hs, hm⟩)
      exact ⟨_, _, hs, MonitorSettings.build_eq_ok_iff.2 hm, rfl⟩

/-! ### Agreement -/

theorem validate_eq_ok_iff (ε : Type) {K : Type} [Quantity K] {c : Config K} :
    c.validate = .ok () ↔
      ∀ kind name, c.Declares kind name → ∃ w, c.build ε kind name = .ok w := by
  rw [validate_eq_forM_build ε, Except.forM_eq_ok_iff]
  constructor
  · exact fun h kind name hdeclared ↦
      Except.void_eq_ok_iff.1 (h (kind, name) (mem_declared_iff.2 hdeclared))
  · exact fun h d hd ↦ Except.void_eq_ok_iff.2 (h d.1 d.2 (mem_declared_iff.1 hd))

theorem validate_eq_error_iff (ε : Type) {K : Type} [Quantity K] {c : Config K}
    {e : ConfigError} : c.validate = .error e ↔ ∃ kind name, c.Declares kind name ∧
      c.build ε kind name = .error e ∧
      ∀ kind' name', c.Declares kind' name' → Precedes (kind', name') (kind, name) →
        ∃ w, c.build ε kind' name' = .ok w := by
  rw [validate_eq_forM_build ε, Except.forM_eq_error_iff, exists_split_iff (pairwise_declared c)]
  constructor
  · rintro ⟨⟨kind, name⟩, hd, he, hbefore⟩
    exact ⟨kind, name, mem_declared_iff.1 hd, Except.map_eq_error_iff.1 he,
      fun kind' name' hd' hprecedes ↦ Except.void_eq_ok_iff.1
        (hbefore (kind', name') (mem_declared_iff.2 hd') hprecedes)⟩
  · rintro ⟨kind, name, hd, he, hbefore⟩
    exact ⟨(kind, name), mem_declared_iff.2 hd, Except.map_eq_error_iff.2 he,
      fun d' hd' hprecedes ↦ Except.void_eq_ok_iff.2
        (hbefore d'.1 d'.2 (mem_declared_iff.1 hd') hprecedes)⟩

/-- **Validation and building agree**, for every configuration. It is valid exactly if a wrapper is
built under every declared name, and what it is refused for is what the first entry that does not
build is refused for, in the order of the sections and the bytes of the names. Only a name that is
not declared is missing. What is built carries its name and the declared settings, durations in
milliseconds, and is as good as new. So everything builds in a configuration that was loaded, by
whatever reader. -/
theorem validate_agrees_with_build (ε : Type) (c : Config Binary64) :
    (c.validate = .ok () ↔
      ∀ kind name, c.Declares kind name → ∃ w, c.build ε kind name = .ok w) ∧
    (∀ e, c.validate = .error e ↔ ∃ kind name, c.Declares kind name ∧
      c.build ε kind name = .error e ∧
      ∀ kind' name', c.Declares kind' name' → Precedes (kind', name') (kind, name) →
        ∃ w, c.build ε kind' name' = .ok w) ∧
    (∀ kind name, ((∃ kind' name', c.build ε kind name = .error (.missing kind' name')) ↔
        ¬ c.Declares kind name) ∧
      (¬ c.Declares kind name → c.build ε kind name = .error (.missing kind name))) ∧
    (∀ kind name w, c.build ε kind name = .ok w ↔ c.Describes kind name w) ∧
    ∀ (codec : Toml.Codec) (text : String), load codec text = .ok c →
      ∀ kind name, c.Declares kind name → ∃ w, c.build ε kind name = .ok w := by
  refine ⟨validate_eq_ok_iff ε, fun e ↦ validate_eq_error_iff ε, fun kind name ↦ ⟨⟨?_, ?_⟩, ?_⟩,
    fun kind name w ↦ build_eq_ok_iff,
    fun codec text h ↦ (validate_eq_ok_iff ε).1 (load_eq_ok_iff.1 h).2⟩
  · rintro ⟨kind', name', hmissing⟩ hdeclared
    exact build_ne_missing ε hdeclared kind' name' hmissing
  · exact fun h ↦ ⟨kind, name, build_eq_missing_of_not_declares ε h⟩
  · exact build_eq_missing_of_not_declares ε

/-- Three entries that do not build, and one that does. -/
def withThreeFaults : Config Binary64 where
  breakers := .ofList [("a", { percent := some (.nan false) }), ("A", {}),
    ("B", { threshold := some 3, percent := some (.ofNat 5) })]
  regulators := .ofList [("A", { maxRequests := 0, periodMs := 0 })]

/-- Three entries under one name. -/
def withSharedName : Config Binary64 where
  breakers := .ofList [("db", { threshold := some 3 })]
  regulators := .ofList [("db", { maxRequests := 0 })]
  monitors := .ofList [("db", {})]

/-- The entry to blame is the one whose section and name come first: upper-case letters come before
lower-case ones. And in a configuration that was loaded, all entries under a shared name build, the
breaker with its own threshold and the standard durations. -/
theorem validate_agrees_with_build_first_fault :
    (∃ kind name, withThreeFaults.Declares kind name ∧
      withThreeFaults.build Unit kind name = .error (.invalid .breaker "B" .twoPolicies)) ∧
    (∀ kind name, withSharedName.Declares kind name →
      ∃ w, withSharedName.build Unit kind name = .ok w) ∧
    ∃ b, withSharedName.build Unit .breaker "db" = .ok (.breaker b) ∧ b.name = "db" ∧
      b.config.policy = .count 3 ∧ b.config.period = 60000000000 ∧
      b.config.reset = 30000000000 := by
  obtain ⟨-, hfault, -⟩ := validate_agrees_with_build Unit withThreeFaults
  obtain ⟨kind, name, hdeclared, hbuild, -⟩ :=
    (hfault (.invalid .breaker "B" .twoPolicies)).1 (by decide +kernel)
  obtain ⟨-, -, -, hdescribes, hloaded⟩ := validate_agrees_with_build Unit withSharedName
  have hbuilds := hloaded .standard
    ("[flow_regulators.db]\nmax_requests = 0\n[performance_monitors.db]\n" ++
      "[circuit_breakers.db]\nthreshold = 3\n") (by decide +kernel)
  refine ⟨⟨kind, name, hdeclared, hbuild⟩, hbuilds, ?_⟩
  have hentry : withSharedName.breakers.get? "db" = some { threshold := some 3 } := by
    decide +kernel
  have hpolicy : ∀ policy : TripPolicy Binary64,
      BreakerSettings.Prescribes { threshold := some 3 } policy → policy = .count 3 := by
    rintro policy (⟨hthreshold⟩ | ⟨⟨⟩⟩ | ⟨⟨⟩⟩)
    obtain rfl := Option.some.inj hthreshold
    rfl
  obtain ⟨w, hw⟩ := hbuilds .breaker "db" (Option.isSome_of_mem hentry)
  obtain ⟨hget, hb⟩ := (hdescribes .breaker "db" w).1 hw
  obtain rfl := Option.some.inj (hentry.symm.trans hget)
  exact ⟨_, hw, hb.name_eq, hpolicy _ hb.policy, hb.period_eq, hb.reset_eq⟩

end Config

end Resilience
