import Mathlib.Data.List.Forall2

/-!
# Results

A result is a value or an error. `Except.void` forgets the value. Done for one item after another,
what fails is the first that fails (`Except.forM_eq_error_iff`), and what comes out comes out item
by item (`Except.mapM_eq_ok_iff`).
-/

namespace Resilience.Except

variable {α β γ ε : Type} {e : ε} {items : List α}

/-! ### One result -/

theorem map_eq_error_iff {g : α → β} {r : Except ε α} : r.map g = .error e ↔ r = .error e := by
  cases r with
  | error e' =>
    exact ⟨fun h ↦ congrArg _ (Except.error.inj h), fun h ↦ congrArg _ (Except.error.inj h)⟩
  | ok a => exact iff_of_false nofun nofun

theorem map_eq_ok_iff {g : α → β} {r : Except ε α} {b : β} :
    r.map g = .ok b ↔ ∃ a, r = .ok a ∧ g a = b := by
  cases r with
  | error e => exact iff_of_false nofun fun ⟨_, h, _⟩ ↦ nomatch h
  | ok a =>
    constructor
    · exact fun h ↦ ⟨a, rfl, Except.ok.inj h⟩
    · rintro ⟨a', h, rfl⟩
      rw [Except.ok.inj h]
      rfl

theorem mapError_eq_ok_iff {ε' : Type} {g : ε → ε'} {r : Except ε α} {a : α} :
    r.mapError g = .ok a ↔ r = .ok a := by
  cases r with
  | error e => exact iff_of_false nofun nofun
  | ok a' => exact ⟨fun h ↦ congrArg _ (Except.ok.inj h), fun h ↦ congrArg _ (Except.ok.inj h)⟩

theorem bind_eq_ok_iff {r : Except ε α} {g : α → Except ε β} {b : β} :
    (r >>= g) = .ok b ↔ ∃ a, r = .ok a ∧ g a = .ok b := by
  cases r with
  | error e => exact iff_of_false nofun fun ⟨_, h, _⟩ ↦ nomatch h
  | ok a =>
    constructor
    · exact fun h ↦ ⟨a, rfl, h⟩
    · rintro ⟨a', h, hg⟩
      rwa [← Except.ok.inj h] at hg

/-- Whether something comes out, without what. -/
def void (r : Except ε α) : Except ε Unit := r.map fun _ ↦ ()

theorem void_map (g : α → β) (r : Except ε α) : void (r.map g) = void r := by
  cases r <;> rfl

theorem void_eq_ok_iff {r : Except ε α} : void r = .ok () ↔ ∃ a, r = .ok a :=
  map_eq_ok_iff.trans (exists_congr fun _ ↦ and_iff_left rfl)

/-! ### One after another -/

variable {f : α → Except ε Unit}

theorem forM_eq_ok_iff : items.forM f = .ok () ↔ ∀ a ∈ items, f a = .ok () := by
  induction items with
  | nil => exact iff_of_true rfl nofun
  | cons a rest ih =>
    rw [List.forM_eq_forM, List.forM_cons, ← List.forM_eq_forM, List.forall_mem_cons, ← ih]
    cases f a with
    | error e => exact iff_of_false nofun fun h ↦ nomatch h.1
    | ok u => exact (and_iff_right rfl).symm

/-- The first item with a property is the head, or it is the first one behind the head. -/
theorem exists_split_cons_iff {P Q : α → Prop} {a : α} {rest : List α} :
    (∃ before b after, a :: rest = before ++ b :: after ∧ P b ∧ ∀ c ∈ before, Q c) ↔
      P a ∨ Q a ∧ ∃ before b after, rest = before ++ b :: after ∧ P b ∧ ∀ c ∈ before, Q c := by
  constructor
  · rintro ⟨before, b, after, h, hb, hbefore⟩
    cases before with
    | nil =>
      obtain ⟨rfl, -⟩ := List.cons.inj h
      exact .inl hb
    | cons c before =>
      obtain ⟨rfl, rfl⟩ := List.cons.inj h
      rw [List.forall_mem_cons] at hbefore
      exact .inr ⟨hbefore.1, before, b, after, rfl, hb, hbefore.2⟩
  · rintro (ha | ⟨ha, before, b, after, rfl, hb, hbefore⟩)
    · exact ⟨[], a, rest, rfl, ha, nofun⟩
    · exact ⟨a :: before, b, after, rfl, hb, List.forall_mem_cons.2 ⟨ha, hbefore⟩⟩

/-- What fails is the first that fails. -/
theorem forM_eq_error_iff :
    items.forM f = .error e ↔ ∃ before a after, items = before ++ a :: after ∧
      f a = .error e ∧ ∀ b ∈ before, f b = .ok () := by
  induction items with
  | nil =>
    refine iff_of_false nofun ?_
    rintro ⟨before, a, after, h, -⟩
    exact List.append_ne_nil_of_right_ne_nil before (List.cons_ne_nil a after) h.symm
  | cons a rest ih =>
    rw [List.forM_eq_forM, List.forM_cons, ← List.forM_eq_forM, exists_split_cons_iff, ← ih]
    cases f a with
    | error e' => exact ⟨.inl, fun h ↦ h.resolve_right fun hok ↦ nomatch hok.1⟩
    | ok u => exact ⟨fun h ↦ .inr ⟨rfl, h⟩, fun h ↦ (h.resolve_left nofun).2⟩

theorem forM_congr {g : α → Except ε Unit} (h : ∀ a ∈ items, f a = g a) :
    items.forM f = items.forM g := by
  rw [List.forM_eq_forM]
  induction items with
  | nil => rfl
  | cons a rest ih =>
    rw [List.forall_mem_cons] at h
    rw [List.forM_cons, List.forM_cons, h.1, ih h.2]

theorem mapM_eq_ok_iff {f : α → Except ε β} {results : List β} :
    items.mapM f = .ok results ↔ List.Forall₂ (fun a b ↦ f a = .ok b) items results := by
  induction items generalizing results with
  | nil =>
    rw [List.mapM_nil, List.forall₂_nil_left_iff]
    exact ⟨fun h ↦ (Except.ok.inj h).symm, fun h ↦ congrArg _ h.symm⟩
  | cons a rest ih =>
    rw [List.mapM_cons, List.forall₂_cons_left_iff, bind_eq_ok_iff]
    constructor
    · rintro ⟨b, hb, h⟩
      obtain ⟨others, hothers, hresults⟩ := bind_eq_ok_iff.1 h
      exact ⟨b, others, hb, ih.1 hothers, (Except.ok.inj hresults).symm⟩
    · rintro ⟨b, others, hb, hothers, rfl⟩
      exact ⟨b, hb, bind_eq_ok_iff.2 ⟨others, ih.2 hothers, rfl⟩⟩

end Resilience.Except
