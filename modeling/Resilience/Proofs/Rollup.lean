import Mathlib.Data.Nat.Notation
import Mathlib.Order.MinMax
import Mathlib.Tactic.Tauto
import Resilience.Rollup

/-!
# What the status of a rollup says about its components

The status of a tree is computed from one level to the next, with a cap on what noncritical members
can do at each. `RollupTree.status_le_iff` says what this comes to over all levels: a bound holds of
the root exactly if it holds of every component that is reached through critical members only, and
of every other component as far as it can degrade. All else is read off from that: when the root is
down, when it is up, and that neither the arrangement of the members nor what hangs below a
noncritical one has more influence than it should.
-/

namespace Resilience

/-! ### Severity as an order -/

namespace Status

theorem severity_injective : Function.Injective severity := by
  intro a b h
  cases a <;> cases b <;> first | rfl | cases h

/-- Statuses in the order of severity. -/
instance : LinearOrder Status := LinearOrder.lift' severity severity_injective

theorem worst_eq_max (a b : Status) : a.worst b = max b a := by
  cases a <;> cases b <;> rfl

theorem up_le (s : Status) : up ≤ s :=
  Nat.zero_le s.severity

theorem le_down (s : Status) : s ≤ down := by
  cases s <;> decide

theorem le_up_iff {s : Status} : s ≤ up ↔ s = up :=
  ⟨fun h ↦ h.antisymm (up_le s), fun h ↦ h.le⟩

theorem le_degraded_iff {s : Status} : s ≤ degraded ↔ s ≠ down := by
  cases s <;> decide

theorem eq_up_of_not_degraded_le {s : Status} (h : ¬ degraded ≤ s) : s = up := by
  cases s with
  | up => rfl
  | degraded => exact absurd le_rfl h
  | down => exact absurd (le_down _) h

end Status

namespace RollupTree

variable {ι : Type} {health : ι → Status} {t u : RollupTree ι} {i j : ι}
  {critical noncritical : List (RollupTree ι)} {s : Status}

/-- **Induction over trees**: what a rollup takes over from all its members holds of every tree. -/
@[elab_as_elim]
theorem induction {P : RollupTree ι → Prop} (component : ∀ i, P (.component i))
    (rollup : ∀ critical noncritical, (∀ member ∈ critical, P member) →
      (∀ member ∈ noncritical, P member) → P (.rollup critical noncritical))
    (t : RollupTree ι) : P t :=
  RollupTree.rec (motive_1 := P) (motive_2 := fun members ↦ ∀ member ∈ members, P member)
    component rollup nofun
    (fun _ _ hhead htail _ hmember ↦ by
      rcases List.mem_cons.1 hmember with rfl | hmember
      · exact hhead
      · exact htail _ hmember)
    t

/-! ### One level -/

theorem allUp_iff {members : List (RollupTree ι)} :
    allUp health members = true ↔ ∀ member ∈ members, member.status health = .up := by
  induction members with
  | nil => simp [allUp]
  | cons member rest ih => simp [allUp, ih]

theorem worstOf_le_iff {found : Status} {members : List (RollupTree ι)} :
    worstOf health found members ≤ s ↔
      found ≤ s ∧ ∀ member ∈ members, member.status health ≤ s := by
  induction members generalizing found with
  | nil => simp [worstOf]
  | cons member rest ih =>
    rw [worstOf, ih, Status.worst_eq_max, max_le_iff, List.forall_mem_cons, and_assoc]

/-- The status of a rollup is bounded by what bounds its critical members, and its noncritical ones
as far as they can degrade it. -/
theorem status_rollup_le_iff :
    (rollup critical noncritical).status health ≤ s ↔
      (∀ member ∈ critical, member.status health ≤ s) ∧
        ∀ member ∈ noncritical, min (member.status health) .degraded ≤ s := by
  rw [status, worstOf_le_iff, and_comm]
  refine and_congr_right' ?_
  by_cases hs : .degraded ≤ s
  · have hbound : (if allUp health noncritical then .up else .degraded : Status) ≤ s := by
      split
      · exact Status.up_le s
      · exact hs
    exact iff_of_true hbound fun _ _ ↦ min_le_of_right_le hs
  · obtain rfl := Status.eq_up_of_not_degraded_le hs
    simp only [min_le_iff, hs, or_false, Status.le_up_iff, ← allUp_iff]
    cases allUp health noncritical <;> simp

/-! ### Components -/

/-- A component is in the tree. -/
inductive Reaches (i : ι) : RollupTree ι → Prop
  | component : Reaches i (.component i)
  | critical {member : RollupTree ι} {critical noncritical : List (RollupTree ι)} :
      member ∈ critical → Reaches i member → Reaches i (.rollup critical noncritical)
  | noncritical {member : RollupTree ι} {critical noncritical : List (RollupTree ι)} :
      member ∈ noncritical → Reaches i member → Reaches i (.rollup critical noncritical)

/-- A component is reached from the root through critical members only. -/
inductive ReachesCritically (i : ι) : RollupTree ι → Prop
  | component : ReachesCritically i (.component i)
  | critical {member : RollupTree ι} {critical noncritical : List (RollupTree ι)} :
      member ∈ critical → ReachesCritically i member →
        ReachesCritically i (.rollup critical noncritical)

theorem reaches_component_iff : (component j).Reaches i ↔ i = j := by
  constructor
  · rintro ⟨⟩
    rfl
  · rintro rfl
    exact .component

theorem reaches_rollup_iff :
    (rollup critical noncritical).Reaches i ↔
      (∃ member ∈ critical, member.Reaches i) ∨ ∃ member ∈ noncritical, member.Reaches i := by
  constructor
  · rintro (_ | ⟨hmember, h⟩ | ⟨hmember, h⟩)
    · exact .inl ⟨_, hmember, h⟩
    · exact .inr ⟨_, hmember, h⟩
  · rintro (⟨member, hmember, h⟩ | ⟨member, hmember, h⟩)
    · exact .critical hmember h
    · exact .noncritical hmember h

theorem reachesCritically_component_iff : (component j).ReachesCritically i ↔ i = j := by
  constructor
  · rintro ⟨⟩
    rfl
  · rintro rfl
    exact .component

theorem reachesCritically_rollup_iff :
    (rollup critical noncritical).ReachesCritically i ↔
      ∃ member ∈ critical, member.ReachesCritically i := by
  constructor
  · rintro ⟨⟩
    exact ⟨_, ‹_›, ‹_›⟩
  · rintro ⟨member, hmember, h⟩
    exact .critical hmember h

theorem ReachesCritically.reaches (h : t.ReachesCritically i) : t.Reaches i := by
  induction h with
  | component => exact .component
  | critical hmember _ ih => exact .critical hmember ih

/-- **The status over all levels**: it is bounded by what bounds the health of every component that
is reached through critical members, and of every component as far as it can degrade. -/
theorem status_le_iff :
    t.status health ≤ s ↔
      (∀ i, t.ReachesCritically i → health i ≤ s) ∧
        ∀ i, t.Reaches i → min (health i) .degraded ≤ s := by
  induction t using induction with
  | component i =>
    simp only [status, reachesCritically_component_iff, reaches_component_iff, forall_eq]
    exact (and_iff_left_of_imp min_le_of_left_le).symm
  | rollup critical noncritical ihcritical ihnoncritical =>
    rw [status_rollup_le_iff]
    by_cases hs : .degraded ≤ s
    · -- nothing that can only degrade exceeds the bound, at this level or further down
      have hcap : ∀ a : Status, min a .degraded ≤ s := fun _ ↦ min_le_of_right_le hs
      simp only [hcap, implies_true, and_true] at ihcritical ⊢
      simp only [reachesCritically_rollup_iff]
      constructor
      · rintro h i ⟨member, hmember, hi⟩
        exact (ihcritical member hmember).1 (h member hmember) i hi
      · intro h member hmember
        exact (ihcritical member hmember).2 fun i hi ↦ h i ⟨member, hmember, hi⟩
    · -- a bound that nothing degraded meets: all components count alike
      have hcap : ∀ a : Status, min a .degraded ≤ s ↔ a ≤ s := fun _ ↦
        min_le_iff.trans (or_iff_left hs)
      have hall : ∀ u : RollupTree ι, ((∀ i, u.ReachesCritically i → health i ≤ s) ∧
          ∀ i, u.Reaches i → health i ≤ s) ↔ ∀ i, u.Reaches i → health i ≤ s := fun _ ↦
        and_iff_right_of_imp fun h i hi ↦ h i hi.reaches
      simp only [hcap, hall] at ihcritical ihnoncritical ⊢
      simp only [reaches_rollup_iff]
      constructor
      · rintro ⟨hcritical, hnoncritical⟩ i (⟨member, hmember, hi⟩ | ⟨member, hmember, hi⟩)
        · exact (ihcritical member hmember).1 (hcritical member hmember) i hi
        · exact (ihnoncritical member hmember).1 (hnoncritical member hmember) i hi
      · intro h
        exact ⟨fun member hmember ↦ (ihcritical member hmember).2
            fun i hi ↦ h i (.inl ⟨member, hmember, hi⟩),
          fun member hmember ↦ (ihnoncritical member hmember).2
            fun i hi ↦ h i (.inr ⟨member, hmember, hi⟩)⟩

theorem status_eq_down_iff :
    t.status health = .down ↔ ∃ i, t.ReachesCritically i ∧ health i = .down := by
  have hbound : t.status health ≤ .degraded ↔
      ∀ i, t.ReachesCritically i → health i ≤ .degraded :=
    status_le_iff.trans (and_iff_left fun _ _ ↦ min_le_right _ _)
  rw [Status.le_degraded_iff] at hbound
  rw [← not_iff_not, ← ne_eq, hbound]
  simp only [Status.le_degraded_iff, ne_eq, not_exists, not_and]

theorem status_eq_up_iff :
    t.status health = .up ↔ ∀ i, t.Reaches i → health i = .up := by
  have hcap : ∀ a : Status, min a .degraded ≤ .up ↔ a = .up := fun _ ↦
    min_le_iff.trans ((or_iff_left (by decide)).trans Status.le_up_iff)
  rw [← Status.le_up_iff, status_le_iff]
  simp only [hcap, Status.le_up_iff]
  exact and_iff_right_of_imp fun h i hi ↦ h i hi.reaches

/-- **Worse components never make a better whole.** -/
theorem status_mono {other : ι → Status} (h : ∀ i, t.Reaches i → health i ≤ other i) :
    t.status health ≤ t.status other := by
  obtain ⟨hcritical, hall⟩ := status_le_iff.1 (le_refl (t.status other))
  refine status_le_iff.2 ⟨fun i hi ↦ ?_, fun i hi ↦ ?_⟩
  · exact (h i hi.reaches).trans (hcritical i hi)
  · exact (min_le_min_right _ (h i hi)).trans (hall i hi)

/-! ### Arrangement -/

/-- The trees differ only in how often members are listed and in which order, at any nodes. -/
inductive Rearranged : RollupTree ι → RollupTree ι → Prop
  | members {critical critical' noncritical noncritical' : List (RollupTree ι)} :
      (∀ member, member ∈ critical ↔ member ∈ critical') →
      (∀ member, member ∈ noncritical ↔ member ∈ noncritical') →
      Rearranged (.rollup critical noncritical) (.rollup critical' noncritical')
  | critical {member member' : RollupTree ι} (before after noncritical : List (RollupTree ι)) :
      Rearranged member member' → Rearranged (.rollup (before ++ member :: after) noncritical)
        (.rollup (before ++ member' :: after) noncritical)
  | noncritical {member member' : RollupTree ι} (critical before after : List (RollupTree ι)) :
      Rearranged member member' → Rearranged (.rollup critical (before ++ member :: after))
        (.rollup critical (before ++ member' :: after))
  | trans {t u v : RollupTree ι} : Rearranged t u → Rearranged u v → Rearranged t v

theorem Rearranged.status_eq (h : t.Rearranged u) : u.status health = t.status health := by
  induction h with
  | members hcritical hnoncritical =>
    refine eq_of_forall_ge_iff fun s ↦ ?_
    simp only [status_rollup_le_iff, hcritical, hnoncritical]
  | critical before after noncritical _ ih =>
    refine eq_of_forall_ge_iff fun s ↦ ?_
    simp only [status_rollup_le_iff, List.forall_mem_append, List.forall_mem_cons, ih]
  | noncritical critical before after _ ih =>
    refine eq_of_forall_ge_iff fun s ↦ ?_
    simp only [status_rollup_le_iff, List.forall_mem_append, List.forall_mem_cons, ih]
  | trans _ _ iht ihu => exact ihu.trans iht

/-! ### Without noncritical members -/

mutual

/-- The tree without the noncritical members of its root and of all that is left below. -/
def criticalPart : RollupTree ι → RollupTree ι
  | .component i => .component i
  | .rollup critical _ => .rollup (criticalParts critical) []

/-- Several trees without noncritical members. -/
def criticalParts : List (RollupTree ι) → List (RollupTree ι)
  | [] => []
  | member :: rest => criticalPart member :: criticalParts rest

end

theorem criticalParts_eq_map (members : List (RollupTree ι)) :
    criticalParts members = members.map criticalPart := by
  induction members with
  | nil => rfl
  | cons member rest ih => rw [criticalParts, ih, List.map_cons]

theorem status_criticalPart_le_iff :
    t.criticalPart.status health ≤ s ↔ ∀ i, t.ReachesCritically i → health i ≤ s := by
  induction t using induction with
  | component i =>
    simp only [criticalPart, status, reachesCritically_component_iff, forall_eq]
  | rollup critical noncritical ih _ =>
    rw [criticalPart, criticalParts_eq_map, status_rollup_le_iff]
    simp only [List.forall_mem_map, List.not_mem_nil, false_imp_iff, implies_true, and_true,
      reachesCritically_rollup_iff]
    constructor
    · rintro h i ⟨member, hmember, hi⟩
      exact (ih member hmember).1 (h member hmember) i hi
    · intro h member hmember
      exact (ih member hmember).2 fun i hi ↦ h i ⟨member, hmember, hi⟩

/-- Noncritical members never improve the whole. -/
theorem status_criticalPart_le : t.criticalPart.status health ≤ t.status health :=
  status_criticalPart_le_iff.2 (status_le_iff.1 le_rfl).1

/-- **Noncritical members at most degrade the whole.** -/
theorem status_le_max_criticalPart :
    t.status health ≤ max (t.criticalPart.status health) .degraded := by
  refine status_le_iff.2 ⟨fun i hi ↦ ?_, fun i _ ↦ ?_⟩
  · exact (status_criticalPart_le_iff.1 le_rfl i hi).trans (le_max_left _ _)
  · exact (min_le_right _ _).trans (le_max_right _ _)

/-! ### The meaning of a tree -/

/-- **What the status of a tree means.** Of a tree of any depth and width, whatever the health of
its components, the status is down exactly if a component is down that is reached through critical
members only; it is up exactly if all components are up; and it is degraded in all other cases. So
the order of members and how often they are listed does not matter, at any node; worse components
never make a better whole; and all that hangs below noncritical members, in comparison with the tree
without it, makes the whole no better and at most degrades it. -/
theorem status_from_components (health : ι → Status) (t : RollupTree ι) :
    (t.status health = .down ↔ ∃ i, t.ReachesCritically i ∧ health i = .down) ∧
    (t.status health = .up ↔ ∀ i, t.Reaches i → health i = .up) ∧
    (t.status health = .degraded ↔ (¬ ∃ i, t.ReachesCritically i ∧ health i = .down) ∧
      ¬ ∀ i, t.Reaches i → health i = .up) ∧
    (∀ u, t.Rearranged u → u.status health = t.status health) ∧
    (∀ other : ι → Status, (∀ i, t.Reaches i → health i ≤ other i) →
      t.status health ≤ t.status other) ∧
    t.criticalPart.status health ≤ t.status health ∧
    t.status health ≤ max (t.criticalPart.status health) .degraded := by
  refine ⟨status_eq_down_iff, status_eq_up_iff, ?_, fun u h ↦ h.status_eq, fun other h ↦
    status_mono h, status_criticalPart_le, status_le_max_criticalPart⟩
  rw [← status_eq_down_iff, ← status_eq_up_iff]
  cases t.status health <;> decide

/-- A component that is down below a noncritical member, and one that is down below a critical
member of a noncritical one: the whole is degraded, also with its members in another order and
listed twice, and down only when a component fails that nothing shields. -/
theorem status_from_components_nested :
    let store : RollupTree ℕ := .rollup [.component 1] [.component 2]
    let reports : RollupTree ℕ := .rollup [.component 3] []
    let t := rollup [.component 0, store] [reports]
    let u := rollup [store, .component 0, store] [reports, reports]
    let health := fun i ↦ if i = 2 ∨ i = 3 then Status.down else .up
    let worse := fun i ↦ if i = 1 then Status.down else health i
    t.Rearranged u ∧ (∀ i, t.Reaches i → health i ≤ worse i) ∧
      u.status health = .degraded ∧ .degraded ≤ t.status worse ∧ t.status worse = .down := by
  intro store reports t u health worse
  have hrearranged : t.Rearranged u := by
    refine .members (fun member ↦ ?_) (fun member ↦ ?_)
    · simp only [List.mem_cons, List.not_mem_nil, or_false]
      tauto
    · simp only [List.mem_cons, List.not_mem_nil, or_false, or_self]
  have hworse : ∀ i, health i ≤ worse i := fun i ↦ by
    rw [show worse i = if i = 1 then Status.down else health i from rfl]
    split
    · exact Status.le_down _
    · exact le_rfl
  have hstatus : t.status health = .degraded := by decide
  obtain ⟨-, -, -, harranged, hmono, -⟩ := status_from_components health t
  refine ⟨hrearranged, fun i _ ↦ hworse i, (harranged u hrearranged).trans hstatus, ?_, by decide⟩
  rw [← hstatus]
  exact hmono worse fun i _ ↦ hworse i

end RollupTree

end Resilience
