import Mathlib.Data.Rat.Floor
import Resilience.Monitor
import Resilience.Proofs.Meter.Readings

/-!
# Rates conserve what was counted

A rate is what was counted since the last effective reading, divided by the time since then. So rate
times time gives the count back, and along the effective readings of a run these products add up to
what was counted between the first and the last of them (`Reading.accounted_of_isChain`): no call is
left out and none is in two intervals, even if the meter is read at one moment many times, or with a
clock that goes back. The reason is that what is not effective is not remembered either, so that the
next effective reading compares with the last one (`Metered.isChain_readings_of_previous`). What was
counted is the number of calls that ended in between (`Metered.rate_mul_eq_counted`).

A monitor has one meter for its rates and for its snapshots, over a counter that nobody can set
back: it is a metered counter (`Monitor.readings_eq`), and the same holds of it.
-/

namespace Resilience

variable {F : Type} {exp : F → F} [Field F]

/-! ### Intervals -/

namespace Reading

/-- The seconds from one reading to another. -/
def secondsTo (r later : Reading (Exact F exp)) : F := ((later.time - r.time : ℕ) : F) / 1000000000

/-- An effective reading and the next one: it is the one that the meter remembers by then, time has
passed, and each rate times this time is what was counted in between. -/
structure Covers (r later : Reading (Exact F exp)) : Prop where
  previous : later.before.previous = some (r.counts, r.time)
  lt : r.time < later.time
  rate_mul : ∀ part, (later.rates.part part).value * r.secondsTo later =
    later.counts.part part - r.counts.part part

/-- What the rates of readings account for: each rate times the seconds since the reading before. -/
def accounted (part : Counts.Part) : List (Reading (Exact F exp)) → F
  | r :: later :: rest =>
    (later.rates.part part).value * r.secondsTo later + accounted part (later :: rest)
  | _ => 0

/-- **The intervals add up** to all that was counted from the first reading to the last. -/
theorem accounted_of_isChain {r last : Reading (Exact F exp)} {rest : List (Reading (Exact F exp))}
    (h : (r :: rest).IsChain Covers) (hlast : (r :: rest).getLast? = some last)
    (part : Counts.Part) :
    accounted part (r :: rest) = last.counts.part part - r.counts.part part := by
  induction rest generalizing r with
  | nil =>
    obtain rfl : r = last := by simpa using hlast
    exact (sub_self _).symm
  | cons later rest ih =>
    rw [List.isChain_cons_cons] at h
    rw [List.getLast?_cons_cons] at hlast
    rw [accounted, ih h.2 hlast, h.1.rate_mul]
    ring

end Reading

variable [LinearOrder F] [FloorSemiring F]

/-- Readings of one meter, one after another, that conserve what was counted. -/
structure Conserving (readings : List (Reading (Exact F exp))) : Prop where
  /-- No rate is negative and no division is by zero; what is not effective gives zero rates and
  changes nothing. -/
  sound : ∀ r ∈ readings, r.Sound
  /-- From each effective reading to the next one the rates give back what was counted, -/
  covers : (readings.filter Reading.isEffective).IsChain Reading.Covers
  /-- and together what was counted from the first one to the last. -/
  accounted : ∀ part first last,
    (readings.filter Reading.isEffective).head? = some first →
    (readings.filter Reading.isEffective).getLast? = some last →
      Reading.accounted part (readings.filter Reading.isEffective) =
        last.counts.part part - first.counts.part part

theorem conserving_of_isChain {readings : List (Reading (Exact F exp))}
    (hsound : ∀ r ∈ readings, r.Sound)
    (hchain : (readings.filter Reading.isEffective).IsChain Reading.Covers) :
    Conserving readings where
  sound := hsound
  covers := hchain
  accounted part first last hfirst hlast := by
    rcases heffective : readings.filter Reading.isEffective with - | ⟨r, rest⟩
    · rw [heffective] at hfirst
      cases hfirst
    · rw [heffective] at hfirst hlast hchain
      obtain rfl : r = first := by simpa using hfirst
      exact Reading.accounted_of_isChain hchain hlast part

/-! ### Metered counters -/

variable [IsStrictOrderedRing F]

namespace Metered

variable {s : Metered}

theorem sound_of_mem_readings {r : Reading (Exact F exp)} {actions : List Action}
    (h : r ∈ s.readings (Exact F exp) actions) : r.Sound := by
  induction actions generalizing s with
  | nil => cases h
  | cons a rest ih =>
    rw [readings, List.mem_append] at h
    rcases h with h | h
    · cases a with
      | sample now =>
        obtain rfl : r = s.reading _ now := by simpa [reading?] using h
        exact sound_reading now s
      | _ => cases h
    · exact ih h

/-- An effective reading that is not the first covers what was counted since the one that the meter
remembers. -/
theorem covers_reading {r : Reading (Exact F exp)} {now : Instant} (hgrown : s.Grown)
    (hprevious : s.meter.previous = some (r.counts, r.time)) (hlt : r.time < now) :
    r.Covers (s.reading (Exact F exp) now) where
  previous := hprevious
  lt := hlt
  rate_mul part := by
    have hrate := (FlowMeter.read_later exp hprevious hlt s.counts).2.1 part
    show ((s.meter.read s.counts now : Reading (Exact F exp)).rates.part part).value * _ = _
    rw [hrate]
    exact (perSecond_mul_seconds _ _ (Nat.sub_ne_zero_of_lt hlt)).trans
      (Nat.cast_sub (hgrown _ _ hprevious part))

/-- **Each effective reading goes on from the one before it.** As long as the counter is not set
back, what the meter remembers is the last effective reading, and the counter has grown since. -/
theorem isChain_readings_of_previous {r : Reading (Exact F exp)} {actions : List Action}
    (hactions : .reset ∉ actions) (hgrown : s.Grown)
    (hprevious : s.meter.previous = some (r.counts, r.time)) :
    (r :: (s.readings (Exact F exp) actions).filter Reading.isEffective).IsChain
      Reading.Covers := by
  induction actions generalizing s r with
  | nil => exact List.isChain_singleton r
  | cons a rest ih =>
    rw [List.mem_cons, not_or] at hactions
    have hnext : (s.next (Exact F exp) a).Grown := hgrown.next (Ne.symm hactions.1)
    cases a with
    | reset => exact absurd rfl hactions.1
    | count succeeded => exact ih hactions.2 hnext hprevious
    | sample now =>
      rw [readings_sample]
      cases heffective : (s.reading (Exact F exp) now).isEffective with
      | true =>
        rw [List.filter_cons_of_pos heffective, List.isChain_cons_cons]
        have hlt : r.time < now := (Reading.isEffective_iff hprevious).1 heffective
        exact ⟨covers_reading hgrown hprevious hlt,
          ih hactions.2 hnext (previous_next_of_effective heffective)⟩
      | false =>
        rw [List.filter_cons_of_neg (by simp [heffective]), next_sample_of_idle heffective]
        exact ih hactions.2 hgrown hprevious

/-- A new meter begins with its first reading. -/
theorem isChain_readings {actions : List Action} (hactions : .reset ∉ actions)
    (hprevious : s.meter.previous = none) :
    ((s.readings (Exact F exp) actions).filter Reading.isEffective).IsChain Reading.Covers := by
  induction actions generalizing s with
  | nil => exact List.isChain_nil
  | cons a rest ih =>
    rw [List.mem_cons, not_or] at hactions
    have hgrown : s.Grown := fun old last h ↦ by rw [hprevious] at h; cases h
    cases a with
    | reset => exact absurd rfl hactions.1
    | count succeeded => exact ih hactions.2 hprevious
    | sample now =>
      have heffective : (s.reading (Exact F exp) now).isEffective = true :=
        Reading.isEffective_of_none hprevious
      rw [readings_sample, List.filter_cons_of_pos heffective]
      exact isChain_readings_of_previous hactions.2 (hgrown.next (Ne.symm hactions.1))
        (previous_next_of_effective heffective)

/-! ### What was counted in between -/

/-- Readings that are not effective leave the meter as it is. -/
theorem meter_run_of_idle {actions : List Action}
    (hidle : ∀ r ∈ s.readings (Exact F exp) actions, r.isEffective = false) :
    (s.run (Exact F exp) actions).meter = s.meter := by
  induction actions generalizing s with
  | nil => rfl
  | cons a rest ih =>
    rw [readings] at hidle
    have hnext : (s.next (Exact F exp) a).meter = s.meter := by
      cases a with
      | sample now =>
        have hr : (s.reading (Exact F exp) now).isEffective = false :=
          hidle _ (List.mem_append_left _ List.mem_cons_self)
        rw [next_sample_of_idle hr]
      | _ => rfl
    exact (ih fun r hr ↦ hidle r (List.mem_append_right _ hr)).trans hnext

/-- **The rates of an interval are those of the calls that end in it**, from an effective reading to
the next one. -/
theorem rate_mul_eq_counted {t u : Instant} {between : List Action} (hbetween : .reset ∉ between)
    (hfirst : (s.reading (Exact F exp) t).isEffective = true)
    (hidle : ∀ r ∈ (s.next (Exact F exp) (.sample t)).readings (Exact F exp) between,
      r.isEffective = false)
    (hlast : (((s.next (Exact F exp) (.sample t)).run (Exact F exp) between).reading
      (Exact F exp) u).isEffective = true) (part : Counts.Part) :
    let r := s.reading (Exact F exp) t
    let later := ((s.next (Exact F exp) (.sample t)).run (Exact F exp) between).reading
      (Exact F exp) u
    (later.rates.part part).value * r.secondsTo later = counted part between := by
  intro r later
  have hprevious := previous_next_of_effective hfirst
  have hmeter := meter_run_of_idle hidle
  rw [← hmeter] at hprevious
  have hlt : t < u := (Reading.isEffective_iff hprevious).1 hlast
  have hcounts : ∀ part, later.counts.part part = r.counts.part part + counted part between :=
    part_run (Exact F exp) hbetween
  have hgrown : ((s.next (Exact F exp) (.sample t)).run (Exact F exp) between).Grown := by
    intro old last h part
    rw [hprevious, Option.some.injEq, Prod.mk.injEq] at h
    rw [← h.1]
    exact (hcounts part).symm ▸ Nat.le_add_right _ _
  have hcovers : r.Covers later := covers_reading hgrown hprevious hlt
  rw [hcovers.rate_mul, hcounts, Nat.cast_add, add_sub_cancel_left]

variable (exp) in
/-- The readings of a run report every call that was counted, once. -/
structure Reports (s : Metered) (actions : List Action) : Prop where
  /-- A reading finds what was counted before it. -/
  counts_eq : ∀ seen now rest, actions = seen ++ .sample now :: rest →
    ∃ r others, s.readings (Exact F exp) actions = s.readings (Exact F exp) seen ++ r :: others ∧
      r.time = now ∧ ∀ part, r.counts.part part = s.counts.part part + counted part seen
  /-- From an effective reading at `t` to the next one at `u`, each rate times the seconds is the
  number of the calls that end in between. -/
  rate_mul : ∀ seen t between u rest,
    actions = seen ++ .sample t :: (between ++ .sample u :: rest) →
    let before := s.run (Exact F exp) seen
    let after := before.next (Exact F exp) (.sample t)
    let r := before.reading (Exact F exp) t
    let later := (after.run (Exact F exp) between).reading (Exact F exp) u
    r.isEffective = true → later.isEffective = true →
      (∀ q ∈ after.readings (Exact F exp) between, q.isEffective = false) →
        ∀ part, (later.rates.part part).value * r.secondsTo later = counted part between

theorem reports {actions : List Action} (hactions : .reset ∉ actions) : s.Reports exp actions where
  counts_eq seen now rest h := by
    obtain rfl := h
    have hsplit := readings_append (Exact F exp) s seen (.sample now :: rest)
    rw [readings_sample] at hsplit
    exact ⟨_, _, hsplit, rfl, part_run (Exact F exp) (mt (List.mem_append_left _) hactions)⟩
  rate_mul seen t between u rest h := by
    obtain rfl := h
    intro before after r later hfirst hlast hidle
    refine rate_mul_eq_counted (fun hreset ↦ hactions ?_) hfirst hidle hlast
    exact List.mem_append_right _ (List.mem_cons_of_mem _ (List.mem_append_left _ hreset))

theorem conserving_readings {actions : List Action} (hactions : .reset ∉ actions)
    (hprevious : s.meter.previous = none) :
    Conserving (s.readings (Exact F exp) actions) :=
  conserving_of_isChain (fun _ ↦ sound_of_mem_readings) (isChain_readings hactions hprevious)

end Metered

/-! ### Monitors -/

namespace Monitor

/-- What can happen to a monitor. -/
inductive Op (K : Type) where
  /-- A call has ended. -/
  | record (succeeded : Bool) (started finished : Instant)
  /-- The rates are read. -/
  | flowRates (now : Instant)
  /-- Everything is read at once. -/
  | snapshot (now : Instant)
  /-- A percentile of the latencies is read. -/
  | percentile (p : K) (now : Instant)

/-- What an operation is to the counter and the meter of a monitor. -/
def Op.metering {K : Type} : Op K → Option Metered.Action
  | .record succeeded _ _ => some (.count succeeded)
  | .flowRates now => some (.sample now)
  | .snapshot now => some (.sample now)
  | .percentile _ _ => none

theorem Op.reset_notMem {K : Type} (ops : List (Op K)) : .reset ∉ ops.filterMap metering := by
  intro hmem
  obtain ⟨op, -, hop⟩ := List.mem_filterMap.1 hmem
  cases op <;> cases hop

section

variable {K : Type} [Quantity K]

/-- The counter and the meter of a monitor. -/
def metered (m : Monitor K) : Metered := ⟨m.counts, m.flow⟩

/-- The monitor after an operation. -/
def next (op : Op K) (m : Monitor K) : Monitor K :=
  match op with
  | .record succeeded started finished => m.record succeeded started finished
  | .flowRates now => (m.flowRates now).2
  | .snapshot now => (m.snapshot now).2
  | .percentile p now => (m.latencyPercentile p now).2

/-- The reading of the meter that an operation takes, as far as the monitor shows it. -/
def reading? (op : Op K) (m : Monitor K) : Option (Reading K) :=
  match op with
  | .flowRates now => some ⟨now, m.counts, m.flow, (m.flowRates now).1, (m.flowRates now).2.flow⟩
  | .snapshot now =>
    let (seen, after) := m.snapshot now
    some ⟨now, seen.counts, m.flow, seen.rates, after.flow⟩
  | _ => none

/-- The readings that are taken in the course of operations. -/
def readings (m : Monitor K) : List (Op K) → List (Reading K)
  | [] => []
  | op :: rest => (m.reading? op).toList ++ (m.next op).readings rest

theorem metered_record (succeeded : Bool) (started finished : Instant) (m : Monitor K) :
    (m.record succeeded started finished).metered = m.metered.next K (.count succeeded) := by
  cases succeeded <;> rfl

/-- **A monitor is a metered counter**: its rates and its snapshots are readings of one meter. -/
theorem readings_eq (m : Monitor K) (ops : List (Op K)) :
    m.readings ops = m.metered.readings K (ops.filterMap Op.metering) := by
  induction ops generalizing m with
  | nil => rfl
  | cons op rest ih =>
    rw [readings, ih]
    cases op with
    | record succeeded started finished =>
      show (m.record succeeded started finished).metered.readings K _ = _
      rw [metered_record]
      rfl
    | _ => rfl

end

end Monitor

/-! ### Conservation -/

/-- **Rates conserve what was counted.** A new meter is read at any times, while calls are counted
and nobody sets the counter back. A reading that is not effective gives zero rates and changes
nothing. Over the effective readings, each count's rates times the seconds since the effective
reading before add up to what was counted between the first one and the last, interval by interval;
no rate is negative and no division is by zero. What was counted are the calls that ended: each is
in the one interval that it ended in. The same holds of all readings of the rates and of snapshots
of a monitor, for which the calls that it records are counted. -/
theorem rates_conserve :
    (∀ (counts : Counts) (actions : List Metered.Action), .reset ∉ actions →
      Conserving ((Metered.opening counts).readings (Exact F exp) actions) ∧
      (Metered.opening counts).Reports exp actions) ∧
    ∀ (name : String) (config : MonitorConfig) (ops : List (Monitor.Op (Exact F exp))),
      let actions := ops.filterMap Monitor.Op.metering
      Conserving ((Monitor.new name config).readings ops) ∧
      (Monitor.new name config).readings ops = (Metered.opening {}).readings (Exact F exp) actions ∧
      (Metered.opening {}).Reports exp actions := by
  refine ⟨fun counts actions hactions ↦
    ⟨Metered.conserving_readings hactions rfl, Metered.reports hactions⟩,
    fun name config ops ↦ ?_⟩
  intro actions
  have hactions : .reset ∉ actions := Monitor.Op.reset_notMem ops
  have hreadings : (Monitor.new name config).readings ops =
      (Metered.opening {}).readings (Exact F exp) actions :=
    Monitor.readings_eq (Monitor.new name config) ops
  refine ⟨?_, hreadings, Metered.reports hactions⟩
  rw [hreadings]
  exact Metered.conserving_readings hactions rfl

/-- A call, a reading, another call, two readings with no time passed (one at the same time, one
before it), a failure, and a reading two seconds after the first. -/
def stalled : List Metered.Action :=
  [.count true, .sample 5, .count true, .sample 5, .sample 3, .count false, .sample 2000000005]

/-- The calls between the idle readings show in the last rate: one failure out of two. -/
theorem rates_conserve_stalled :
    let readings := (Metered.opening {}).readings (Exact ℚ id) stalled
    let before := (Metered.opening {}).run (Exact ℚ id) [.count true]
    let last := ((Metered.opening {}).run (Exact ℚ id) (stalled.take 6)).reading
      (Exact ℚ id) 2000000005
    .reset ∉ stalled ∧
      (readings.filter Reading.isEffective).map Reading.time = [5, 2000000005] ∧
      Reading.accounted .total (readings.filter Reading.isEffective) = 2 ∧
      (last.rates.part .failure).value * (before.reading (Exact ℚ id) 5).secondsTo last = 1 := by
  obtain ⟨hconserving, hreports⟩ := (@rates_conserve ℚ id _ _ _ _).1 {} stalled (by decide)
  refine ⟨by decide, by decide +kernel, ?_, ?_⟩
  · exact (hconserving.accounted .total _ _ (by rfl) (by rfl)).trans (by decide +kernel)
  · have hrate := hreports.rate_mul [.count true] 5
      [.count true, .sample 5, .sample 3, .count false] 2000000005 [] rfl (by decide +kernel)
      (by decide +kernel) (by decide +kernel) .failure
    exact hrate.trans (by decide +kernel)

end Resilience
