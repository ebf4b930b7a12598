import Mathlib.Data.List.Basic
import Mathlib.Data.List.Induction
import Mathlib.Order.Nat
import Resilience.Proofs.Stats.SlidingWindow

/-!
# What a sliding window has been through

A window is updated, evicted and cleared in any order and at times that may go back. Its samples can
be read off what was done to it: those that were recorded and that no operation dropped since
(`survivors`), in the order of time (`timeline`).

An eviction at an early time may come after one at a late time, and a late sample is put among those
that are there. Looking at the front of the window is enough nevertheless, because its samples are
sorted at every moment. This is part of the invariant `IsTimeline`: the samples are sorted, and
those of each instant are in the order in which they were recorded. Only one list of samples is like
that (`IsTimeline.unique`).
-/

namespace Resilience.SlidingWindow

variable {α : Type} {w : SlidingWindow α} {s : Sample α}
  {samples others history : List (Sample α)} {window : Duration} {now : Instant}

/-! ### Timelines -/

/-- Whether a sample comes before another one or at the same instant. -/
def notLater (r s : Sample α) : Bool := decide (r.time ≤ s.time)

theorem notLater_iff {r s : Sample α} : notLater r s = true ↔ r.time ≤ s.time :=
  decide_eq_true_iff

theorem notLater_trans (r s t : Sample α) (hrs : notLater r s = true)
    (hst : notLater s t = true) : notLater r t = true :=
  notLater_iff.2 ((notLater_iff.1 hrs).trans (notLater_iff.1 hst))

theorem notLater_total (r s : Sample α) : (notLater r s || notLater s r) = true := by
  rw [Bool.or_eq_true, notLater_iff, notLater_iff]
  exact Nat.le_total _ _

/-- Samples in the order of time, those of one instant in the order given. -/
def timeline (history : List (Sample α)) : List (Sample α) := history.mergeSort notLater

/-- The samples are those recorded, in the order of time. -/
structure IsTimeline (history samples : List (Sample α)) : Prop where
  sorted : Sorted samples
  /-- Those of one instant are in the order in which they were recorded. -/
  filter_eq : ∀ time, samples.filter (·.time = time) = history.filter (·.time = time)

theorem isTimeline_nil : IsTimeline ([] : List (Sample α)) [] :=
  ⟨List.Pairwise.nil, fun _ ↦ rfl⟩

/-- Sorting by time gives the timeline: the sorting is stable. -/
theorem isTimeline_timeline (history : List (Sample α)) :
    IsTimeline history (timeline history) where
  sorted :=
    (List.pairwise_mergeSort notLater_trans notLater_total history).imp fun h ↦ notLater_iff.1 h
  filter_eq time := by
    -- the samples of one instant are sorted as they are, so the sorting leaves their order alone
    have hsimultaneous : (history.filter (·.time = time)).Pairwise (notLater · ·) := by
      refine List.pairwise_of_forall_mem_list fun r hr s hs ↦ ?_
      rw [List.mem_filter, decide_eq_true_iff] at hr hs
      exact notLater_iff.2 (hr.2.trans hs.2.symm).le
    have hsublist : (history.filter (·.time = time)).Sublist (timeline history) :=
      List.sublist_mergeSort notLater_trans notLater_total hsimultaneous List.filter_sublist
    have hfiltered := hsublist.filter fun r ↦ decide (r.time = time)
    rw [List.filter_filter] at hfiltered
    simp only [Bool.and_self] at hfiltered
    have hperm : (timeline history).Perm history := List.mergeSort_perm history notLater
    exact (hfiltered.eq_of_length (hperm.filter _).length_eq.symm).symm

theorem IsTimeline.mem_iff (h : IsTimeline history samples) : s ∈ samples ↔ s ∈ history := by
  have hinstant : ∀ l : List (Sample α), s ∈ l ↔ s ∈ l.filter (·.time = s.time) := by
    simp [List.mem_filter]
  rw [hinstant samples, h.filter_eq, ← hinstant history]

theorem IsTimeline.eq_nil (h : IsTimeline history []) (h' : IsTimeline history samples) :
    samples = [] := by
  rw [List.eq_nil_iff_forall_not_mem]
  intro s hs
  exact List.not_mem_nil (h.mem_iff.2 (h'.mem_iff.1 hs))

/-- **There is only one timeline.** -/
theorem IsTimeline.unique (h : IsTimeline history samples) (h' : IsTimeline history others) :
    samples = others := by
  induction samples generalizing history others with
  | nil => exact (h.eq_nil h').symm
  | cons r rest ih =>
    cases others with
    | nil => exact h'.eq_nil h
    | cons s rest' =>
      have hrest : Sorted rest := (List.pairwise_cons.1 h.sorted).2
      have hrest' : Sorted rest' := (List.pairwise_cons.1 h'.sorted).2
      have hfilter : ∀ time, (r :: rest).filter (·.time = time) =
          (s :: rest').filter (·.time = time) := fun time ↦
        (h.filter_eq time).trans (h'.filter_eq time).symm
      -- both lists begin with the earliest instant there is
      have hsr : s.time ≤ r.time :=
        h'.sorted.head_le (h'.mem_iff.2 (h.mem_iff.1 List.mem_cons_self))
      have hrs : r.time ≤ s.time :=
        h.sorted.head_le (h.mem_iff.2 (h'.mem_iff.1 List.mem_cons_self))
      have htime : s.time = r.time := hsr.antisymm hrs
      -- so their first samples are the first ones of that instant
      have hfirst := hfilter r.time
      rw [List.filter_cons_of_pos (by simp), List.filter_cons_of_pos (by simpa using htime)]
        at hfirst
      obtain ⟨rfl, -⟩ := List.cons.inj hfirst
      have hbehind : ∀ time, rest.filter (·.time = time) = rest'.filter (·.time = time) := by
        intro time
        by_cases hr : r.time = time
        · have h := hfilter time
          rw [List.filter_cons_of_pos (by simpa using hr),
            List.filter_cons_of_pos (by simpa using hr)] at h
          exact (List.cons.inj h).2
        · have h := hfilter time
          rwa [List.filter_cons_of_neg (by simpa using hr),
            List.filter_cons_of_neg (by simpa using hr)] at h
      rw [ih ⟨hrest, hbehind⟩ ⟨hrest', fun _ ↦ rfl⟩]

theorem IsTimeline.eq_timeline (h : IsTimeline history samples) : samples = timeline history :=
  h.unique (isTimeline_timeline history)

theorem IsTimeline.perm (h : IsTimeline history samples) : samples.Perm history := by
  rw [h.eq_timeline]
  exact List.mergeSort_perm _ _

/-- What is kept of a timeline is kept in order. -/
theorem IsTimeline.filter (h : IsTimeline history samples) (p : Sample α → Bool) :
    IsTimeline (history.filter p) (samples.filter p) where
  sorted := List.Pairwise.filter p h.sorted
  filter_eq time := by
    rw [List.filter_comm, h.filter_eq, List.filter_comm]

/-! ### Insertion -/

theorem takeWhile_eq_filter (h : Sorted samples) (time : Instant) :
    samples.takeWhile (fun r ↦ decide (r.time ≤ time)) =
      samples.filter fun r ↦ decide (r.time ≤ time) := by
  induction samples with
  | nil => rfl
  | cons r rest ih =>
    obtain ⟨hr, hrest⟩ := List.pairwise_cons.1 h
    by_cases hle : r.time ≤ time
    · rw [List.takeWhile_cons_of_pos (by simpa using hle),
        List.filter_cons_of_pos (by simpa using hle), ih hrest]
    · -- everything behind a later sample is later
      have hnone : ∀ t ∈ rest, ¬ t.time ≤ time := fun t ht hle' ↦ hle ((hr t ht).trans hle')
      rw [List.takeWhile_cons_of_neg (by simpa using hle),
        List.filter_cons_of_neg (by simpa using hle), eq_comm, List.filter_eq_nil_iff]
      simpa using hnone

theorem dropWhile_le_eq_filter (h : Sorted samples) (time : Instant) :
    samples.dropWhile (fun r ↦ decide (r.time ≤ time)) =
      samples.filter fun r ↦ decide (time < r.time) := by
  simpa only [Nat.lt_succ_iff, Nat.succ_le_iff] using dropWhile_eq_filter h (time + 1)

theorem Sorted.insert (h : Sorted samples) (s : Sample α) : Sorted (insert s samples) := by
  rw [SlidingWindow.insert, takeWhile_eq_filter h, dropWhile_le_eq_filter h]
  refine List.pairwise_append.2 ⟨List.Pairwise.filter _ h,
    List.pairwise_cons.2 ⟨fun t ht ↦ ?_, List.Pairwise.filter _ h⟩, fun r hr t ht ↦ ?_⟩
  · exact (of_decide_eq_true (List.mem_filter.1 ht).2).le
  · have hrs : r.time ≤ s.time := of_decide_eq_true (List.mem_filter.1 hr).2
    rcases List.mem_cons.1 ht with rfl | ht
    · exact hrs
    · exact hrs.trans (of_decide_eq_true (List.mem_filter.1 ht).2).le

/-- **An insertion puts the sample behind those of its instant**, and all others stay in order. -/
theorem IsTimeline.insert (h : IsTimeline history samples) (s : Sample α) :
    IsTimeline (history ++ [s]) (insert s samples) := by
  refine ⟨h.sorted.insert s, fun time ↦ ?_⟩
  have hwhole := congrArg (List.filter fun r ↦ decide (r.time = time))
    (List.takeWhile_append_dropWhile (p := fun r ↦ decide (r.time ≤ s.time)) (l := samples))
  rw [List.filter_append, h.filter_eq] at hwhole
  rw [SlidingWindow.insert, List.filter_append, List.filter_append, ← hwhole]
  by_cases htime : s.time = time
  · -- nothing of the sample's own instant is behind it
    have hlater : (samples.dropWhile fun r ↦ decide (r.time ≤ s.time)).filter (·.time = time) =
        [] := by
      rw [dropWhile_le_eq_filter h.sorted, List.filter_filter, List.filter_eq_nil_iff]
      intro r _
      simpa [htime] using fun h : r.time = time ↦ h.le
    rw [hlater, List.filter_cons_of_pos (by simpa using htime), hlater,
      List.filter_cons_of_pos (by simpa using htime), List.filter_nil, List.append_nil]
  · rw [List.filter_cons_of_neg (by simpa using htime),
      List.filter_cons_of_neg (by simpa using htime), List.filter_nil, List.append_nil]

/-- The insertion by position: at the end if the last sample is not later, and otherwise in front of
the first one that is. -/
def place (s : Sample α) (samples : List (Sample α)) : List (Sample α) :=
  if samples.getLast?.any fun last ↦ decide (s.time < last.time) then
    samples.insertIdx (samples.findIdx fun r ↦ decide (s.time < r.time)) s
  else samples ++ [s]

theorem insertIdx_findIdx (s : Sample α) (samples : List (Sample α)) :
    samples.insertIdx (samples.findIdx fun r ↦ decide (s.time < r.time)) s = insert s samples := by
  induction samples with
  | nil => rfl
  | cons r rest ih =>
    by_cases hlater : s.time < r.time
    · simp [insert, List.findIdx_cons, hlater, hlater.not_ge]
    · simpa [insert, List.findIdx_cons, hlater, Nat.not_lt.1 hlater] using ih

/-- On a sorted past the last sample tells whether one is later at all. -/
theorem place_eq_insert (h : Sorted samples) (s : Sample α) :
    place s samples = insert s samples := by
  rw [place]
  split
  next => exact insertIdx_findIdx s samples
  next hlast =>
    refine (insert_of_forall_le fun r hr ↦ ?_).symm
    obtain ⟨before, last, rfl⟩ := samples.eq_nil_or_concat'.resolve_left (List.ne_nil_of_mem hr)
    have hle : last.time ≤ s.time := by simpa using hlast
    exact (h.le_last hr).trans hle

/-! ### What is done to a window -/

/-- What is done to a window. -/
inductive Op (α : Type)
  | update (value : α) (now : Instant)
  | evict (now : Instant)
  | clear
deriving DecidableEq

namespace Op

/-- What an operation does to the window. -/
def act : Op α → SlidingWindow α → SlidingWindow α
  | update value now, w => w.update value now
  | evict now, w => w.evict now
  | clear, w => w.clear

/-- The sample that an operation records. -/
def recorded : Op α → List (Sample α)
  | update value now => [⟨now, value⟩]
  | evict _ | clear => []

/-- Whether an operation drops a sample of the window: an update and an eviction drop what is
earlier than one window before them, unless that is before the clock's origin. -/
def drops (window : Duration) (s : Sample α) : Op α → Bool
  | update _ now | evict now => decide (window ≤ now) && decide (s.time < now - window)
  | clear => true

end Op

/-- Operations in turn. -/
def run (w : SlidingWindow α) (ops : List (Op α)) : SlidingWindow α :=
  ops.foldl (fun w op ↦ op.act w) w

/-- The samples that the operations record, in their order, without those that an operation drops
since. -/
def survivors (window : Duration) : List (Op α) → List (Sample α)
  | [] => []
  | op :: later =>
    (op.recorded.filter fun s ↦ !(op :: later).any (·.drops window s)) ++ survivors window later

@[simp] theorem window_act (op : Op α) (w : SlidingWindow α) : (op.act w).window = w.window := by
  cases op <;> rfl

@[simp] theorem window_run (w : SlidingWindow α) (ops : List (Op α)) :
    (run w ops).window = w.window := by
  induction ops generalizing w with
  | nil => rfl
  | cons op later ih => exact (ih _).trans (window_act op w)

theorem run_concat (w : SlidingWindow α) (ops : List (Op α)) (op : Op α) :
    run w (ops ++ [op]) = op.act (run w ops) := by
  rw [run, List.foldl_append]
  rfl

/-- One more operation records its sample last, and what it drops is gone. -/
theorem survivors_concat (window : Duration) (ops : List (Op α)) (op : Op α) :
    survivors window (ops ++ [op]) =
      (survivors window ops ++ op.recorded).filter fun s ↦ !op.drops window s := by
  induction ops with
  | nil => simp [survivors]
  | cons first later ih =>
    have hfirst :
        (first.recorded.filter fun s ↦ !(first :: (later ++ [op])).any (·.drops window s)) =
          (first.recorded.filter fun s ↦ !(first :: later).any (·.drops window s)).filter fun s ↦
            !op.drops window s := by
      rw [List.filter_filter]
      refine List.filter_congr fun s _ ↦ ?_
      simp only [List.any_cons, List.any_append, List.any_nil, Bool.or_false, Bool.not_or]
      rw [← Bool.and_assoc, Bool.and_comm]
    rw [List.cons_append, survivors, ih, hfirst, survivors, List.append_assoc, ← List.filter_append]

/-- What an update or an eviction does not drop is recent. -/
theorem not_drops_evict (window : Duration) (s : Sample α) (now : Instant) :
    (!(Op.evict now).drops window s) = decide (now ≤ s.time + window) := by
  have hold : window ≤ now ∧ s.time < now - window ↔ ¬ now ≤ s.time + window := by
    rw [Nat.lt_sub_iff_add_lt, Nat.not_le]
    exact and_iff_right_of_imp fun h ↦ (Nat.le_add_left _ _).trans h.le
  rw [Op.drops, ← Bool.decide_and, decide_eq_decide.2 hold, decide_not, Bool.not_not]

theorem samples_evict_eq_not_drops (h : Sorted w.samples) (now : Instant) :
    (w.evict now).samples = w.samples.filter fun s ↦ !(Op.evict now).drops w.window s := by
  rw [samples_evict h, recent]
  simp only [not_drops_evict]

theorem IsTimeline.evict (h : IsTimeline history w.samples) (now : Instant) :
    IsTimeline (history.filter fun s ↦ !(Op.evict now).drops w.window s) (w.evict now).samples := by
  rw [samples_evict_eq_not_drops h.sorted]
  exact h.filter _

/-- **What one operation does to a timeline**: its sample is put in order, and what it drops is
gone. -/
theorem IsTimeline.act (h : IsTimeline history w.samples) (op : Op α) :
    IsTimeline ((history ++ op.recorded).filter fun s ↦ !op.drops w.window s)
      (op.act w).samples := by
  cases op with
  | update value now =>
    exact IsTimeline.evict (w := { w with samples := SlidingWindow.insert ⟨now, value⟩ w.samples })
      (h.insert ⟨now, value⟩) now
  | evict now =>
    rw [Op.recorded, List.append_nil]
    exact h.evict now
  | clear =>
    have hnone : (history ++ Op.clear.recorded).filter (fun s ↦ !Op.clear.drops w.window s) = [] :=
      List.filter_eq_nil_iff.2 fun _ _ ↦ Bool.false_ne_true
    rw [hnone]
    exact isTimeline_nil

/-- **A window is the timeline of what survives.** -/
theorem isTimeline_run (window : Duration) (ops : List (Op α)) :
    IsTimeline (survivors window ops) (run (empty window) ops).samples := by
  induction ops using List.reverseRecOn with
  | nil => exact isTimeline_nil
  | append_singleton ops op ih =>
    have hact := ih.act op
    rw [window_run] at hact
    rw [survivors_concat, run_concat]
    exact hact

/-! ### The contents of a window -/

/-- A sorted past ends with its newest sample. -/
theorem Sorted.newest?_eq_max? (h : Sorted w.samples) :
    w.newest? = (w.samples.map Sample.time).max? := by
  rw [newest?]
  rcases w.samples.eq_nil_or_concat' with hnil | ⟨before, last, hsamples⟩
  · rw [hnil]
    rfl
  · rw [hsamples] at h ⊢
    rw [List.getLast?_concat, eq_comm, Option.map_some, List.max?_eq_some_iff]
    refine ⟨List.mem_map_of_mem List.mem_concat_self, fun time htime ↦ ?_⟩
    obtain ⟨r, hr, rfl⟩ := List.mem_map.1 htime
    exact h.le_last hr

/-- **The contents of a window are what its history says**, after operations of any kind and at any
times: every sample recorded that no operation dropped since, each as often as it was recorded, in
the order of time and those of one instant in the order in which they were recorded. The end of the
window is then its newest sample, an eviction drops all that is too old and nothing else, a sample
whose age is exactly the window stays, of two evictions only the later one counts, and a sample is
put in order whether its position is looked for or it is put at the end. -/
theorem contents_from_history (window : Duration) (ops : List (Op α)) :
    let w := run (empty window) ops
    let history := survivors window ops
    w.window = window ∧
    w.samples = timeline history ∧
    Sorted w.samples ∧
    w.samples.Perm history ∧
    (∀ time, w.samples.filter (·.time = time) = history.filter (·.time = time)) ∧
    w.newest? = (w.samples.map Sample.time).max? ∧
    (∀ now, (w.evict now).samples =
      w.samples.filter fun s ↦ !(Op.evict now).drops window s) ∧
    (∀ s ∈ w.samples, s ∈ (w.evict (s.time + window)).samples) ∧
    (∀ a b, (w.evict a).evict b = w.evict (max a b)) ∧
    ∀ s, insert s w.samples = place s w.samples := by
  intro w history
  have hwindow : w.window = window := window_run _ ops
  have htimeline : IsTimeline history w.samples := isTimeline_run window ops
  have hsorted := htimeline.sorted
  refine ⟨hwindow, htimeline.eq_timeline, hsorted, htimeline.perm, htimeline.filter_eq,
    hsorted.newest?_eq_max?, fun now ↦ ?_, fun s hs ↦ ?_, evict_evict_max hsorted,
    fun s ↦ (place_eq_insert hsorted s).symm⟩
  · rw [samples_evict_eq_not_drops hsorted, hwindow]
  · rw [samples_evict hsorted, recent, List.mem_filter, hwindow]
    exact ⟨hs, decide_eq_true Nat.le.refl⟩

/-- A late sample is put in order, and an operation at an early time drops what is too old by
then. -/
example : (run (empty 5) [.update 'a' 20, .update 'b' 3, .update 'c' 20, .update 'd' 9]).values =
    ['d', 'a', 'c'] := by
  decide

end Resilience.SlidingWindow
