import Resilience.Number.Binary64
import Resilience.Proofs.Stats.History
import Resilience.Stats.Percentile

/-!
# What a percentile tracker sees

A tracker evicts when it is asked, and observations may come late. What it answers is nevertheless a
function of the observations alone, as long as no question is asked earlier than something before it
(`PercentileTracker.fst_ask_run`).

Two facts carry this. No update and no question of the past drops what is still recent
(`recent_survivors`), so the window that a question sees holds the true one (`values_evict_perm`).
And sorting forgets the arrangement, because only equals sort as equals (`sorted_eq_of_perm`).
-/

namespace Resilience

variable {K : Type}

/-! ### Sorting -/

section

variable [Quantity K] {values vs : List K}

/-- The order that lists are sorted by is a linear one: only equals sort as equals. -/
class LawfulSorting (K : Type) [Quantity K] : Prop where
  trans : ∀ x y z : K, Quantity.sortsBefore x y = true → Quantity.sortsBefore y z = true →
    Quantity.sortsBefore x z = true
  total : ∀ x y : K, (Quantity.sortsBefore x y || Quantity.sortsBefore y x) = true
  antisymm : ∀ x y : K, Quantity.sortsBefore x y = true → Quantity.sortsBefore y x = true → x = y

/-- Of doubles too, be they signed zeros or NaNs. -/
instance : LawfulSorting Binary64 where
  trans _ _ _ hxy hyz :=
    decide_eq_true (Int.le_trans (of_decide_eq_true hxy) (of_decide_eq_true hyz))
  total x y := by
    rw [Bool.or_eq_true]
    exact (Int.le_total x.orderKey y.orderKey).imp decide_eq_true decide_eq_true
  antisymm _ _ hxy hyx :=
    Binary64.orderKey_injective (Int.le_antisymm (of_decide_eq_true hxy) (of_decide_eq_true hyx))

theorem sorted_perm (values : List K) : (sorted values).Perm values := List.mergeSort_perm _ _

/-- **Sorting forgets the arrangement.** -/
theorem sorted_eq_of_perm [LawfulSorting K] (h : values.Perm vs) : sorted values = sorted vs :=
  ((sorted_perm values).trans (h.trans (sorted_perm vs).symm)).eq_of_pairwise
    (fun x y _ _ ↦ LawfulSorting.antisymm x y)
    (List.pairwise_mergeSort LawfulSorting.trans LawfulSorting.total values)
    (List.pairwise_mergeSort LawfulSorting.trans LawfulSorting.total vs)

theorem percentileOf_eq_of_perm [LawfulSorting K] (p : K) (h : values.Perm vs) :
    percentileOf p values = percentileOf p vs := by
  rw [percentileOf, sorted_eq_of_perm h, percentileOf]

end

/-! ### What is done to a tracker -/

namespace PercentileTracker

/-- A question about the window. -/
inductive Query (K : Type)
  | percentile (p : K)
  | snapshot (ps : List K)
  | count

/-- What is done to a tracker: an observation at any time, or a question. -/
inductive Op (K : Type)
  | update (value : K) (time : Instant)
  | query (query : Query K) (now : Instant)

/-- An answer about the window. -/
inductive Answer (K : Type)
  | percentile (value : Option K)
  | snapshot (values : List (K × K))
  | count (n : ℕ)

namespace Op

/-- The time that an operation gives. -/
def time : Op K → Instant
  | update _ time => time
  | query _ now => now

/-- True of an observation. -/
def isUpdate : Op K → Bool
  | update _ _ => true
  | query _ _ => false

/-- What an operation does to the window of observations: a question evicts. -/
def onWindow : Op K → SlidingWindow.Op K
  | update value time => .update value time
  | query _ now => .evict now

end Op

/-- All that was ever observed, in the order of arrival. -/
def observed (ops : List (Op K)) : List (Sample K) := ops.flatMap fun op ↦ op.onWindow.recorded

/-- The values of the true window at `now`: of all that was observed, what is recent. -/
def windowValues (window : Duration) (now : Instant) (ops : List (Op K)) : List K :=
  (SlidingWindow.recent window now (observed ops)).map Sample.value

/-! ### The true window -/

theorem observed_cons (op : Op K) (later : List (Op K)) :
    observed (op :: later) = op.onWindow.recorded ++ observed later :=
  List.flatMap_cons ..

theorem observed_filter_isUpdate (ops : List (Op K)) :
    observed (ops.filter Op.isUpdate) = observed ops := by
  induction ops with
  | nil => rfl
  | cons op later ih =>
    cases op with
    | update value time =>
      rw [List.filter_cons_of_pos rfl, observed_cons, ih, observed_cons]
    | query q now =>
      rw [List.filter_cons_of_neg Bool.false_ne_true, ih, observed_cons]
      rfl

theorem windowValues_perm {window : Duration} {now : Instant} {ops others : List (Op K)}
    (h : (observed others).Perm (observed ops)) :
    (windowValues window now others).Perm (windowValues window now ops) :=
  (h.filter _).map _

theorem Op.lt_time_of_drops {window : Duration} {op : Op K} {s : Sample K}
    (h : op.onWindow.drops window s = true) : s.time + window < op.time := by
  have hdrops : (SlidingWindow.Op.evict op.time).drops window s = true := by
    cases op <;> exact h
  have hold := SlidingWindow.not_drops_evict window s op.time
  rw [hdrops] at hold
  exact Nat.lt_of_not_le (of_decide_eq_false hold.symm)

/-- **No operation of the past has dropped what is still recent.** -/
theorem recent_survivors {window : Duration} {now : Instant} {ops : List (Op K)}
    (hpast : ∀ op ∈ ops, op.time ≤ now) :
    SlidingWindow.recent window now (SlidingWindow.survivors window (ops.map Op.onWindow)) =
      SlidingWindow.recent window now (observed ops) := by
  induction ops with
  | nil => rfl
  | cons op later ih =>
    have hkept : SlidingWindow.recent window now (op.onWindow.recorded.filter fun s ↦
        !((op :: later).map Op.onWindow).any (·.drops window s)) =
          SlidingWindow.recent window now op.onWindow.recorded := by
      rw [SlidingWindow.recent, List.filter_filter]
      refine List.filter_congr fun s _ ↦ Bool.and_eq_left_iff_imp.2 fun hrecent ↦ ?_
      rw [Bool.not_eq_true', List.any_eq_false]
      intro _ hmem hdrops
      obtain ⟨op', hop', rfl⟩ := List.mem_map.1 hmem
      exact Nat.not_lt.2 (of_decide_eq_true hrecent)
        (Nat.lt_of_lt_of_le (Op.lt_time_of_drops hdrops) (hpast op' hop'))
    have hlater := ih fun op' hop' ↦ hpast op' (List.mem_cons_of_mem _ hop')
    rw [List.map_cons, SlidingWindow.survivors, ← List.map_cons, SlidingWindow.recent_append, hkept,
      hlater, observed_cons, SlidingWindow.recent_append]

/-! ### Questions -/

variable [Quantity K]

namespace Query

/-- The answer to a question, and the tracker without what was too old. -/
def ask (now : Instant) (t : PercentileTracker K) : Query K → Answer K × PercentileTracker K
  | percentile p => (t.percentile p now).map .percentile id
  | snapshot ps => (t.snapshot ps now).map .snapshot id
  | count => (t.count now).map .count id

/-- The answer that values give. -/
def answerOf (vs : List K) : Query K → Answer K
  | percentile p => .percentile (percentileOf p vs)
  | snapshot ps => .snapshot (ps.filterMap fun p ↦ (percentileOf p vs).map (p, ·))
  | count => .count vs.length

theorem snd_ask (q : Query K) (now : Instant) (t : PercentileTracker K) :
    (q.ask now t).2 = t.evict now := by
  cases q <;> rfl

/-- An answer does not depend on the arrangement of what is in the window. -/
theorem fst_ask_of_perm [LawfulSorting K] {now : Instant} {t : PercentileTracker K} {vs : List K}
    (h : (t.evict now).observations.values.Perm vs) (q : Query K) :
    (q.ask now t).1 = q.answerOf vs := by
  cases q with
  | percentile p => exact congrArg Answer.percentile (percentileOf_eq_of_perm p h)
  | snapshot ps =>
    simp only [answerOf, percentileOf, ← sorted_eq_of_perm h]
    rfl
  | count => exact congrArg Answer.count ((List.length_map _).symm.trans h.length_eq)

end Query

/-- What an operation does to the tracker. -/
def Op.act : Op K → PercentileTracker K → PercentileTracker K
  | update value time, t => t.update value time
  | query q now, t => (q.ask now t).2

/-- Operations in turn. -/
def run (t : PercentileTracker K) (ops : List (Op K)) : PercentileTracker K :=
  ops.foldl (fun t op ↦ op.act t) t

theorem Op.observations_act (op : Op K) (t : PercentileTracker K) :
    (op.act t).observations = op.onWindow.act t.observations := by
  cases op with
  | update value time => rfl
  | query q now =>
    rw [act, Query.snd_ask]
    rfl

theorem observations_run (t : PercentileTracker K) (ops : List (Op K)) :
    (run t ops).observations = SlidingWindow.run t.observations (ops.map Op.onWindow) := by
  induction ops generalizing t with
  | nil => rfl
  | cons op later ih =>
    calc
      (run (op.act t) later).observations =
          SlidingWindow.run (op.act t).observations (later.map Op.onWindow) := ih _
      _ = SlidingWindow.run t.observations ((op :: later).map Op.onWindow) := by
        rw [op.observations_act]
        rfl

/-- The window that a question sees holds the values of the true window. -/
theorem values_evict_perm {window : Duration} {now : Instant} {ops : List (Op K)}
    (hpast : ∀ op ∈ ops, op.time ≤ now) :
    ((run (empty window) ops).evict now).observations.values.Perm
      (windowValues window now ops) := by
  have htimeline := SlidingWindow.isTimeline_run (α := K) window (ops.map Op.onWindow)
  have hseen : ((run (empty window) ops).evict now).observations.samples =
      SlidingWindow.recent window now
        (SlidingWindow.run (.empty window) (ops.map Op.onWindow)).samples := by
    rw [evict, observations_run]
    exact (SlidingWindow.samples_evict htimeline.sorted now).trans
      (by rw [SlidingWindow.window_run]; rfl)
  rw [SlidingWindow.values, hseen, windowValues, ← recent_survivors hpast]
  exact (htimeline.perm.filter _).map _

/-- **An answer is a function of the true window**, in any arrangement of its values. -/
theorem fst_ask_run [LawfulSorting K] {window : Duration} {now : Instant} {ops : List (Op K)}
    {vs : List K} (hpast : ∀ op ∈ ops, op.time ≤ now) (hvs : vs.Perm (windowValues window now ops))
    (q : Query K) : (q.ask now (run (empty window) ops)).1 = q.answerOf vs :=
  Query.fst_ask_of_perm ((values_evict_perm hpast).trans hvs.symm) q

end PercentileTracker

end Resilience
