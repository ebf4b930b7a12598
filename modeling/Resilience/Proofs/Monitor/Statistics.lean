import Resilience.Proofs.Meter.Conservation
import Resilience.Proofs.Meter.Consistency
import Resilience.Proofs.Monitor.Run
import Resilience.Proofs.Stats.Interpolation
import Resilience.Proofs.Stats.Median

/-!
# The statistics of completed calls

A monitor keeps six things up to date: a counter, two averages, the latencies of the recent past and
the instants of the last success and the last failure. Calls overlap, and readings come in between
and drop what is too old. All six are nevertheless functions of one list, the calls completed so far
(`Monitor.statistics_of_completions`).

The invariant is `Keeps`: each part is what the completed calls make of it, taken by outcome. A call
that is completed joins the list in every part at once (`Keeps.complete`). A reading changes the
meter and drops latencies, but none that any later reading would see (`Keeps.evict`).

There are percentiles whenever a call is recent, and however many calls are: it is the median that
is always there (`percentileOf_fifty_eq_none_iff`).
-/

namespace Resilience.Monitor

open SlidingWindow (recent Past)

variable {K : Type}

/-! ### Statistics by outcome -/

/-- The completed calls that ended well, or those that failed. -/
def ended (succeeded : Bool) (done : List Completion) : List Completion :=
  done.filter fun c ↦ c.succeeded == succeeded

/-- The completed calls of at most one window ago. -/
def completedSince (window : Duration) (now : Instant) (done : List Completion) :
    List Completion :=
  done.filter fun c ↦ decide (now ≤ c.finished + window)

theorem ended_concat (succeeded : Bool) (done : List Completion) (c : Completion) :
    ended succeeded (done ++ [c]) =
      if c.succeeded = succeeded then ended succeeded done ++ [c] else ended succeeded done := by
  rw [ended, List.filter_append]
  by_cases h : c.succeeded = succeeded
  · rw [if_pos h, List.filter_cons_of_pos (by simpa using h)]
    rfl
  · rw [if_neg h, List.filter_cons_of_neg (by simpa using h), List.filter_nil, List.append_nil]
    rfl

theorem length_ended_add (done : List Completion) :
    done.length = (ended true done).length + (ended false done).length := by
  induction done with
  | nil => rfl
  | cons c rest ih =>
    rw [List.length_cons, ih, ended, ended, ended, ended]
    cases hc : c.succeeded <;> simp [hc] <;> omega

/-- How many calls ended well, or failed. -/
def countOf (m : Monitor K) : Bool → ℕ
  | true => m.counts.success
  | false => m.counts.failure

/-- The average latency of the calls that ended well, or of those that failed. -/
def averageOf (m : Monitor K) : Bool → MovingAverage K
  | true => m.successLatency
  | false => m.failureLatency

/-- When the last call ended well, or failed. -/
def lastOf (m : Monitor K) : Bool → Option Instant
  | true => m.lastSuccess
  | false => m.lastFailure

variable [Quantity K]

/-- The average latency of completed calls, taken in one after another. -/
def averaged (window : Duration) (done : List Completion) : MovingAverage K :=
  done.foldl (fun a c ↦ a.update c.latency c.finished) (.empty window)

/-- A completed call as an observation. -/
def Completion.sample (c : Completion) : Sample K := ⟨c.finished, c.latency⟩

theorem recent_map_sample (window : Duration) (now : Instant) (done : List Completion) :
    recent window now (done.map (Completion.sample : Completion → Sample K)) =
      (completedSince window now done).map Completion.sample :=
  List.filter_map ..

/-! ### One more call -/

section

variable (c : Completion) (m : Monitor K) (outcome : Bool)

theorem countOf_complete : (m.complete c).countOf outcome =
    if c.succeeded = outcome then m.countOf outcome + 1 else m.countOf outcome := by
  obtain ⟨succeeded, started, finished⟩ := c
  cases succeeded <;> cases outcome <;> rfl

theorem averageOf_complete : (m.complete c).averageOf outcome =
    if c.succeeded = outcome then (m.averageOf outcome).update c.latency c.finished
    else m.averageOf outcome := by
  obtain ⟨succeeded, started, finished⟩ := c
  cases succeeded <;> cases outcome <;> rfl

theorem lastOf_complete : (m.complete c).lastOf outcome =
    if c.succeeded = outcome then some c.finished else m.lastOf outcome := by
  obtain ⟨succeeded, started, finished⟩ := c
  cases succeeded <;> cases outcome <;> rfl

theorem total_complete : (m.complete c).counts.total = m.counts.total + 1 := by
  obtain ⟨succeeded, started, finished⟩ := c
  cases succeeded <;> rfl

theorem observations_complete : (m.complete c).latencies.observations =
    m.latencies.observations.update c.latency c.finished := by
  obtain ⟨succeeded, started, finished⟩ := c
  cases succeeded <;> rfl

end

/-! ### What a monitor keeps -/

/-- What a monitor knows of completed calls. -/
structure Keeps (config : MonitorConfig) (done : List Completion) (clock : Instant)
    (m : Monitor K) : Prop where
  total : m.counts.total = done.length
  count : ∀ outcome, m.countOf outcome = (ended outcome done).length
  average : ∀ outcome, m.averageOf outcome = averaged config.latencyWindow (ended outcome done)
  last : ∀ outcome, m.lastOf outcome = (ended outcome done).getLast?.map Completion.finished
  lastUpdate : ∀ outcome, (m.averageOf outcome).lastUpdate = m.lastOf outcome
  /-- The calls started before they finished, and nothing is in the future. -/
  started_le : ∀ c ∈ done, c.started ≤ c.finished ∧ c.finished ≤ clock
  ordered : done.Pairwise fun c d ↦ c.finished ≤ d.finished
  window : m.latencies.observations.window = config.percentileWindow
  past : Past clock m.latencies.observations.samples
  /-- No latency of the recent past is forgotten. -/
  recent_eq : ∀ now, clock ≤ now →
    recent config.percentileWindow now m.latencies.observations.samples =
      recent config.percentileWindow now (done.map Completion.sample)

namespace Keeps

variable {config : MonitorConfig} {done : List Completion} {clock now : Instant} {m : Monitor K}

theorem new (name : String) (config : MonitorConfig) (clock : Instant) :
    Keeps config [] clock (.new name config : Monitor K) where
  total := rfl
  count outcome := by cases outcome <;> rfl
  average outcome := by cases outcome <;> rfl
  last outcome := by cases outcome <;> rfl
  lastUpdate outcome := by cases outcome <;> rfl
  started_le := nofun
  ordered := .nil
  window := rfl
  past := .nil _
  recent_eq _ _ := rfl

theorem later (h : Keeps config done clock m) (hle : clock ≤ now) : Keeps config done now m :=
  { h with
    started_le := fun c hc ↦ ⟨(h.started_le c hc).1, (h.started_le c hc).2.trans hle⟩
    past := h.past.mono hle
    recent_eq := fun _ hnow ↦ h.recent_eq _ (hle.trans hnow) }

/-- The last call of an outcome was not in the future. -/
theorem le_of_last (h : Keeps config done clock m) {outcome : Bool} {time : Instant}
    (hlast : m.lastOf outcome = some time) : time ≤ clock := by
  rw [h.last, Option.map_eq_some_iff] at hlast
  obtain ⟨c, hc, rfl⟩ := hlast
  exact (h.started_le c (List.mem_of_mem_filter (List.mem_of_getLast? hc))).2

/-- **A call that is completed now joins the completed calls.** -/
theorem complete {c : Completion} (h : Keeps config done c.finished m)
    (hstarted : c.started ≤ c.finished) :
    Keeps config (done ++ [c]) c.finished (m.complete c) where
  total := by rw [total_complete, h.total, List.length_append, List.length_singleton]
  count outcome := by
    rw [countOf_complete, ended_concat, h.count]
    split
    · rw [List.length_append, List.length_singleton]
    · rfl
  average outcome := by
    rw [averageOf_complete, ended_concat, h.average]
    split
    · rw [averaged, averaged, List.foldl_append]
      rfl
    · rfl
  last outcome := by
    rw [lastOf_complete, ended_concat, h.last]
    split
    · rw [List.getLast?_concat, Option.map_some]
    · rfl
  lastUpdate outcome := by
    rw [averageOf_complete, lastOf_complete]
    split
    · rw [MovingAverage.update, MovingAverage.updateBy]
      cases hlast : (m.averageOf outcome).lastUpdate with
      | none => rfl
      | some time =>
        have hle : time ≤ c.finished := h.le_of_last ((h.lastUpdate outcome).symm.trans hlast)
        exact congrArg some (max_eq_right hle)
    · exact h.lastUpdate outcome
  started_le d hd := by
    rcases List.mem_append.1 hd with hd | hd
    · exact h.started_le d hd
    · obtain rfl := List.mem_singleton.1 hd
      exact ⟨hstarted, le_rfl⟩
  ordered := List.pairwise_append.2 ⟨h.ordered, List.pairwise_singleton _ _, fun d hd d' hd' ↦ by
    obtain rfl := List.mem_singleton.1 hd'
    exact (h.started_le d hd).2⟩
  window := by rw [observations_complete]; exact h.window
  past := by
    rw [observations_complete, SlidingWindow.samples_update h.past]
    exact (h.past.recent _ _).concat _
  recent_eq now hnow := by
    rw [observations_complete, SlidingWindow.samples_update h.past, h.window,
      SlidingWindow.recent_append, SlidingWindow.recent_recent hnow, h.recent_eq now hnow,
      List.map_append, SlidingWindow.recent_append]
    rfl

/-- Looking at the latencies drops only what is too old by then. -/
theorem evict (h : Keeps config done clock m) :
    Keeps config done clock { m with latencies := m.latencies.evict clock } :=
  { h with
    window := h.window
    past := by
      show Past clock (m.latencies.observations.evict clock).samples
      rw [SlidingWindow.samples_evict h.past.sorted]
      exact h.past.recent _ _
    recent_eq := fun now hnow ↦ by
      show recent _ now (m.latencies.observations.evict clock).samples = _
      rw [SlidingWindow.samples_evict h.past.sorted, h.window, SlidingWindow.recent_recent hnow,
        h.recent_eq now hnow] }

/-- The meter does not matter. -/
theorem withFlow (h : Keeps config done clock m) (flow : FlowMeter) :
    Keeps config done clock { m with flow } :=
  ⟨h.total, h.count, h.average, h.last, h.lastUpdate, h.started_le, h.ordered, h.window, h.past,
    h.recent_eq⟩

theorem turn {completed : List Completion} {m' : Monitor K} (h : Keeps config done clock m)
    (hturn : Situation.Turn clock m completed m') : Keeps config (done ++ completed) clock m' := by
  cases hturn with
  | idle => rwa [List.append_nil]
  | complete hstarted hfinished =>
    subst hfinished
    exact h.complete hstarted
  | flowRates =>
    rw [List.append_nil]
    exact h.withFlow _
  | percentile p =>
    rw [List.append_nil]
    exact h.evict
  | snapshot =>
    rw [List.append_nil]
    exact h.evict.withFlow _

theorem run (name : String) (config : MonitorConfig) (clock : Instant) (actions : List (Action K)) :
    let start : Situation K := .opening name config clock
    Keeps config (start.completions actions) (start.run actions).clock
      (start.run actions).monitor :=
  Situation.run_induction (Keeps config) (fun _ _ _ _ _ ↦ turn) (fun _ _ _ _ ↦ later)
    (Situation.begun_opening name config clock) [] (new name config clock) actions

/-- The latencies that are looked at now are those of the recent past. -/
theorem values_evict (h : Keeps config done clock m) :
    (m.latencies.evict clock).observations.values =
      (completedSince config.percentileWindow clock done).map Completion.latency := by
  show (m.latencies.observations.evict clock).values = _
  rw [SlidingWindow.values, SlidingWindow.samples_evict h.past.sorted, h.window,
    h.recent_eq clock le_rfl, recent_map_sample, List.map_map]
  rfl

end Keeps

/-! ### Rates -/

/-- What an action is to the counter and the meter. -/
theorem Situation.Turn.metered {clock : Instant} {m m' : Monitor K} {completed : List Completion}
    (h : Turn clock m completed m') :
    m'.metered = m.metered ∨ ∃ a, .reset ≠ a ∧ m'.metered = m.metered.next K a := by
  cases h with
  | idle => exact .inl rfl
  | complete hstarted hfinished => exact .inr ⟨.count _, nofun, metered_record ..⟩
  | flowRates => exact .inr ⟨.sample clock, nofun, rfl⟩
  | percentile p => exact .inl rfl
  | snapshot => exact .inr ⟨.sample clock, nofun, rfl⟩

section

variable {F : Type} {exp : F → F} [Field F] [LinearOrder F] [IsStrictOrderedRing F]
  [FloorSemiring F]

/-- The counter of a monitor is never set back, and its total is the sum of its parts. -/
theorem metered_run (name : String) (config : MonitorConfig) (clock : Instant)
    (actions : List (Action (Exact F exp))) :
    let m := ((Situation.opening name config clock).run actions).monitor
    m.metered.Grown ∧ m.metered.Balanced := by
  refine Situation.run_induction (fun _ _ m ↦ m.metered.Grown ∧ m.metered.Balanced)
    (fun done clock m completed m' h hturn ↦ ?_) (fun _ _ _ _ h _ ↦ h)
    (Situation.begun_opening name config clock) [] ⟨nofun, rfl, nofun⟩ actions
  rcases hturn.metered with heq | ⟨a, ha, heq⟩
  · rwa [heq]
  · rw [heq]
    exact ⟨h.1.next (Ne.symm ha), h.2.next a⟩

/-- **The rates of a monitor add up.** -/
theorem totalRate_eq_add {m : Monitor (Exact F exp)} (hgrown : m.metered.Grown)
    (hbalanced : m.metered.Balanced) (now : Instant) :
    let rates := (m.flowRates now).1
    rates.total.value = rates.success.value + rates.failure.value := by
  have haddsUp : (m.metered.reading (Exact F exp) now).AddsUp :=
    (Metered.sound_reading now m.metered).addsUp hbalanced.counts hbalanced.previous
  refine haddsUp.total_eq_iff.2 ?_
  rintro ⟨-, old, last, hprevious, hopposed⟩
  exact Counts.not_opposed_of_le (hgrown old last hprevious) hopposed

end

/-! ### Percentiles -/

/-- A percentile is one of the latencies of the calls completed in the last window. -/
theorem Keeps.latencyPercentile_eq {config : MonitorConfig} {done : List Completion}
    {clock : Instant} {m : Monitor K} (h : Keeps config done clock m) (p : K) :
    (m.latencyPercentile p clock).1 = percentileOf p
      ((completedSince config.percentileWindow clock done).map Completion.latency) := by
  rw [← h.values_evict]
  rfl

/-- The percentiles of a snapshot, each beside its percentage. -/
theorem percentiles_snapshot (now : Instant) (m : Monitor K) :
    (m.snapshot now).1.percentiles =
      snapshotPercentiles.filterMap fun p ↦ (m.latencyPercentile p now).1.map (p, ·) :=
  rfl

theorem percentiles_snapshot_eq_nil_iff {now : Instant} {m : Monitor K} {values : List K}
    (hpercentile : ∀ p, (m.latencyPercentile p now).1 = percentileOf p values)
    (hmedian : percentileOf (Quantity.ofNat 50) values = none → values = []) :
    (m.snapshot now).1.percentiles = [] ↔ values = [] := by
  simp only [percentiles_snapshot, hpercentile, List.filterMap_eq_nil_iff, Option.map_eq_none_iff]
  constructor
  · exact fun h ↦ hmedian (h _ List.mem_cons_self)
  · rintro rfl
    exact fun p _ ↦ percentileOf_nil p

/-- **The percentiles of a snapshot rise.** -/
theorem percentiles_snapshot_of_ne_nil {F : Type} {exp : F → F} [Field F] [LinearOrder F]
    [IsStrictOrderedRing F] [FloorSemiring F] {now : Instant} {m : Monitor (Exact F exp)}
    {values : List (Exact F exp)}
    (hpercentile : ∀ p, (m.latencyPercentile p now).1 = percentileOf p values)
    (hvalues : values ≠ []) :
    ∃ a b c : Exact F exp, (m.snapshot now).1.percentiles =
      [(Quantity.ofNat 50, a), (Quantity.ofNat 95, b), (Quantity.ofNat 99, c)] ∧
        a.value ≤ b.value ∧ b.value ≤ c.value := by
  have hsome : ∀ p, ∃ a, percentileOf p values = some a := fun p ↦
    Option.ne_none_iff_exists'.1 (mt (Exact.percentileOf_eq_none_iff p).1 hvalues)
  obtain ⟨a, ha⟩ := hsome (Quantity.ofNat 50)
  obtain ⟨b, hb⟩ := hsome (Quantity.ofNat 95)
  obtain ⟨c, hc⟩ := hsome (Quantity.ofNat 99)
  have hmono : ∀ n k : ℕ, n ≤ k → (Quantity.ofNat n : Exact F exp).value ≤
      (Quantity.ofNat k : Exact F exp).value := fun n k ↦ Nat.cast_le.2
  refine ⟨a, b, c, ?_, Exact.percentileOf_mono (hmono 50 95 (by decide)) ha hb,
    Exact.percentileOf_mono (hmono 95 99 (by decide)) hb hc⟩
  simp [percentiles_snapshot, snapshotPercentiles, hpercentile, ha, hb, hc]

/-! ### The statistics of completed calls -/

/-- A monitor tells of completed calls: all of its statistics are theirs. -/
structure Tells (config : MonitorConfig) (done : List Completion) (clock : Instant)
    (m : Monitor K) : Prop where
  /-- Each call started before it finished, and they finished in this order. -/
  started_le : ∀ c ∈ done, c.started ≤ c.finished ∧ c.finished ≤ clock
  ordered : done.Pairwise fun c d ↦ c.finished ≤ d.finished
  total_eq : m.counts.total = done.length
  total_eq_add : m.counts.total = m.counts.success + m.counts.failure
  count_eq : ∀ outcome, m.countOf outcome = (ended outcome done).length
  /-- The last call of an outcome is the one that was completed last, -/
  last_eq : ∀ outcome, m.lastOf outcome = (ended outcome done).getLast?.map Completion.finished
  last_eq_none_iff : ∀ outcome, m.lastOf outcome = none ↔ m.countOf outcome = 0
  /-- and the last one that the average has taken in. -/
  lastUpdate_eq : ∀ outcome, (m.averageOf outcome).lastUpdate = m.lastOf outcome
  average_eq : ∀ outcome, m.averageOf outcome = averaged config.latencyWindow (ended outcome done)
  /-- Percentiles are those of the latencies of the calls completed in the last window. -/
  percentile_eq : ∀ p, (m.latencyPercentile p clock).1 = percentileOf p
    ((completedSince config.percentileWindow clock done).map Completion.latency)

theorem Keeps.tells {config : MonitorConfig} {done : List Completion} {clock : Instant}
    {m : Monitor K} (h : Keeps config done clock m) : Tells config done clock m where
  started_le := h.started_le
  ordered := h.ordered
  total_eq := h.total
  total_eq_add := by
    have htrue := h.count true
    have hfalse := h.count false
    rw [h.total, length_ended_add, ← htrue, ← hfalse]
    rfl
  count_eq := h.count
  last_eq := h.last
  last_eq_none_iff outcome := by
    rw [h.last, h.count, Option.map_eq_none_iff, List.getLast?_eq_none_iff, List.length_eq_zero_iff]
  lastUpdate_eq := h.lastUpdate
  average_eq := h.average
  percentile_eq := h.latencyPercentile_eq

variable {F : Type} {exp : F → F} [Field F] [LinearOrder F] [IsStrictOrderedRing F]
  [FloorSemiring F]

/-- The latency of a call is the time from its own start to its end, of which a millisecond has a
million nanoseconds. -/
theorem Completion.value_latency {c : Completion} (h : c.started ≤ c.finished) :
    (c.latency : Exact F exp).value = ((c.finished : F) - c.started) / 1000000 := by
  have hscale : (1000000000 : F) = 1000000 * 1000 := by norm_num
  have hne : (1000 : F) ≠ 0 := by positivity
  rw [latency, Exact.value_millis, Nat.cast_sub h, hscale, div_mul_eq_mul_div,
    mul_div_mul_right _ _ hne]

/-- **A monitor's statistics are one function of its completed calls**, whatever happens to it and
however the calls overlap. Counts, last instants and averages are those of the calls that ended well
and of those that failed, in the order of their completion, and a percentile is that of the
latencies of the calls completed in the last window. A snapshot has no percentiles exactly if no
call was completed in the last window, also when it is computed with doubles. In exact arithmetic
the latency of a call is the time from its own start to its end, the percentiles of a snapshot rise,
and its rates add up. -/
theorem statistics_of_completions (name : String) (config : MonitorConfig) (clock : Instant) :
    (∀ (K : Type) [Quantity K] (actions : List (Action K)),
      let start : Situation K := .opening name config clock
      let s := start.run actions
      Tells config (start.completions actions) s.clock s.monitor) ∧
    (∀ actions : List (Action Binary64),
      let start : Situation Binary64 := .opening name config clock
      let s := start.run actions
      (s.monitor.snapshot s.clock).1.percentiles = [] ↔
        completedSince config.percentileWindow s.clock (start.completions actions) = []) ∧
    ∀ actions : List (Action (Exact F exp)),
      let start : Situation (Exact F exp) := .opening name config clock
      let s := start.run actions
      let seen := (s.monitor.snapshot s.clock).1
      let latest := completedSince config.percentileWindow s.clock (start.completions actions)
      (∀ c ∈ start.completions actions,
        (c.latency : Exact F exp).value = ((c.finished : F) - c.started) / 1000000) ∧
      (seen.percentiles = [] ↔ latest = []) ∧
      (latest ≠ [] → ∃ a b c : Exact F exp, seen.percentiles =
        [(Quantity.ofNat 50, a), (Quantity.ofNat 95, b), (Quantity.ofNat 99, c)] ∧
          a.value ≤ b.value ∧ b.value ≤ c.value) ∧
      seen.rates.total.value = seen.rates.success.value + seen.rates.failure.value := by
  refine ⟨fun K _ actions ↦ (Keeps.run name config clock actions).tells, fun actions ↦ ?_,
    fun actions ↦ ⟨fun c hc ↦ ?_, ?_, fun hlatest ↦ ?_, ?_⟩⟩
  · have hpercentile := (Keeps.run name config clock actions).latencyPercentile_eq
    exact (percentiles_snapshot_eq_nil_iff hpercentile percentileOf_fifty_eq_none_iff.1).trans
      List.map_eq_nil_iff
  · exact Completion.value_latency ((Keeps.run name config clock actions).started_le c hc).1
  · have hpercentile := (Keeps.run name config clock actions).latencyPercentile_eq
    exact (percentiles_snapshot_eq_nil_iff hpercentile (Exact.percentileOf_eq_none_iff _).1).trans
      List.map_eq_nil_iff
  · have hpercentile := (Keeps.run name config clock actions).latencyPercentile_eq
    exact percentiles_snapshot_of_ne_nil hpercentile (mt List.map_eq_nil_iff.1 hlatest)
  · obtain ⟨hgrown, hbalanced⟩ := metered_run name config clock actions
    exact totalRate_eq_add hgrown hbalanced _

/-- Two calls of which the second one to arrive is the first to end, a third one that is given up,
and readings in between. -/
def overlapping {K : Type} : List (Action K) :=
  [.arrive, .advance 5000000, .arrive, .arrive, .advance 3000000, .finish 1 false, .snapshot,
    .giveUp 2, .advance 12000000, .finish 0 true, .flowRates, .finish 2 true]

/-- Each call has its own start: one took three milliseconds, the other twenty. -/
theorem statistics_of_completions_overlapping :
    let start : Situation (Exact ℚ id) := .opening "db" {} 0
    let s := start.run overlapping
    let failed : Completion := ⟨false, 5000000, 8000000⟩
    let succeeded : Completion := ⟨true, 0, 20000000⟩
    Tells {} [failed, succeeded] s.clock s.monitor ∧
      (failed.latency : Exact ℚ id).value = 3 ∧ (succeeded.latency : Exact ℚ id).value = 20 ∧
      ∃ a b c : Exact ℚ id, (s.monitor.snapshot s.clock).1.percentiles =
        [(Quantity.ofNat 50, a), (Quantity.ofNat 95, b), (Quantity.ofNat 99, c)] ∧
          a.value ≤ b.value ∧ b.value ≤ c.value := by
  intro start s failed succeeded
  have hcompletions : start.completions overlapping = [failed, succeeded] := by decide +kernel
  obtain ⟨htells, -, hexact⟩ := @statistics_of_completions ℚ id _ _ _ _ "db" {} 0
  obtain ⟨hlatency, -, hpercentiles, -⟩ := hexact overlapping
  rw [hcompletions] at hlatency
  refine ⟨?_, ?_, ?_, hpercentiles ?_⟩
  · rw [← hcompletions]
    exact htells _ overlapping
  · rw [hlatency failed List.mem_cons_self]
    norm_num [failed]
  · rw [hlatency succeeded (List.mem_cons_of_mem _ List.mem_cons_self)]
    norm_num [succeeded]
  · decide +kernel

end Resilience.Monitor
