import Mathlib.Data.List.Perm.Basic
import Resilience.Toml.Value

/-!
# Documents in any order

The entries of a table have no order of their own. Two tables are the same up to arrangement if one
becomes the other by exchanging entries, in it and in the tables in it (`Arranged`): then the
entries of one, in some order, are similar to those of the other (`Arranged.exists_perm`).

`Value.Throughout` says something of a value and of all the values in it.
-/

namespace Resilience.Toml

variable {t t' u u' : Table} {v v' : Value} {key : String}

/-! ### The values in a value -/

/-- Something holds of a value and of all the values in it. -/
inductive Value.Throughout (P : Value → Prop) : Value → Prop
  | mk {v : Value} : P v → (∀ t, v = .table t → ∀ e ∈ t, Throughout P e.2) → Throughout P v

namespace Value

variable {P Q : Value → Prop}

theorem throughout_table_iff :
    Throughout P (.table t) ↔ P (.table t) ∧ ∀ e ∈ t, Throughout P e.2 := by
  constructor
  · rintro ⟨h, hentries⟩
    exact ⟨h, hentries t rfl⟩
  · rintro ⟨h, hentries⟩
    refine ⟨h, fun u hu ↦ ?_⟩
    obtain rfl := Value.table.inj hu
    exact hentries

theorem throughout_of_not_table (hv : ∀ t, v ≠ .table t) (h : P v) : Throughout P v :=
  ⟨h, fun t ht ↦ absurd ht (hv t)⟩

theorem Throughout.imp (himp : ∀ v, P v → Q v) (h : Throughout P v) : Throughout Q v := by
  induction h with
  | mk hv _ ih => exact ⟨himp _ hv, ih⟩

end Value

/-! ### The same up to arrangement -/

/-- The same up to the order of entries, in a table and in the tables in it. -/
inductive Arranged : Table → Table → Prop
  | nil : Arranged [] []
  | cons (e : String × Value) {t t' : Table} : Arranged t t' → Arranged (e :: t) (e :: t')
  | table (key : String) {u u' t t' : Table} : Arranged u u' → Arranged t t' →
      Arranged ((key, .table u) :: t) ((key, .table u') :: t')
  | swap (e f : String × Value) (t : Table) : Arranged (f :: e :: t) (e :: f :: t)
  | trans {t u v : Table} : Arranged t u → Arranged u v → Arranged t v

theorem Arranged.of_perm (h : t.Perm t') : Arranged t t' := by
  induction h with
  | nil => exact .nil
  | cons e _ ih => exact .cons e ih
  | swap e f t => exact .swap e f t
  | trans _ _ ih ih' => exact .trans ih ih'

/-- The same entry, up to the order of entries in a table. -/
inductive Similar : String × Value → String × Value → Prop
  | same (e : String × Value) : Similar e e
  | table (key : String) {u u' : Table} : Arranged u u' → Similar (key, .table u) (key, .table u')

theorem Similar.fst_eq {e e' : String × Value} (h : Similar e e') : e.1 = e'.1 := by
  cases h <;> rfl

theorem Similar.trans {e e' e'' : String × Value} (h : Similar e e') (h' : Similar e' e'') :
    Similar e e'' := by
  cases h with
  | same => exact h'
  | table key h =>
    cases h' with
    | same => exact .table key h
    | table _ h' => exact .table key (.trans h h')

theorem forall₂_similar_trans {w : Table} (h : List.Forall₂ Similar t u)
    (h' : List.Forall₂ Similar u w) : List.Forall₂ Similar t w := by
  induction h generalizing w with
  | nil => exact h'
  | cons he _ ih =>
    cases h' with
    | cons he' hrest => exact .cons (he.trans he') (ih hrest)

theorem map_fst_of_similar (h : List.Forall₂ Similar t u) : t.map Prod.fst = u.map Prod.fst := by
  induction h with
  | nil => rfl
  | cons he _ ih => rw [List.map_cons, List.map_cons, he.fst_eq, ih]

/-- **What is the same up to arrangement has similar entries in some order.** -/
theorem Arranged.exists_perm (h : Arranged t t') :
    ∃ u, List.Forall₂ Similar t u ∧ u.Perm t' := by
  induction h with
  | nil => exact ⟨[], .nil, .nil⟩
  | cons e _ ih =>
    obtain ⟨u, hu, hperm⟩ := ih
    exact ⟨e :: u, .cons (.same e) hu, hperm.cons e⟩
  | table key h _ _ ih =>
    obtain ⟨u, hu, hperm⟩ := ih
    exact ⟨(key, .table _) :: u, .cons (.table key h) hu, hperm.cons _⟩
  | swap e f t =>
    exact ⟨f :: e :: t, List.forall₂_same.2 fun x _ ↦ .same x, .swap e f t⟩
  | trans _ _ ih ih' =>
    obtain ⟨u, hu, hperm⟩ := ih
    obtain ⟨w, hw, hperm'⟩ := ih'
    -- the order is changed after the tables in the entries, not in between
    obtain ⟨x, hx, hperm''⟩ := List.perm_comp_forall₂ hperm hw
    exact ⟨x, forall₂_similar_trans hu hx, hperm''.trans hperm'⟩

theorem Arranged.eq_nil (h : Arranged [] t) : t = [] := by
  obtain ⟨u, hu, hperm⟩ := h.exists_perm
  cases hu
  exact List.nil_perm.1 hperm

/-! ### Telling whether a table is another one, arranged -/

/-- Takes the first entry under a key out of a table. -/
def takeKey (key : String) : Table → Option (Value × Table)
  | [] => none
  | (k, v) :: rest =>
    if k = key then some (v, rest)
    else (takeKey key rest).map fun (v', rest') ↦ (v', (k, v) :: rest')

theorem perm_of_takeKey (h : takeKey key t = some (v, u)) : ((key, v) :: u).Perm t := by
  induction t generalizing u with
  | nil => cases h
  | cons e rest ih =>
    obtain ⟨k, w⟩ := e
    rw [takeKey] at h
    split at h
    next hkey =>
      obtain ⟨rfl, rfl⟩ := Prod.mk.inj (Option.some.inj h)
      rw [hkey]
    next =>
      obtain ⟨⟨v', rest'⟩, hrest, heq⟩ := Option.map_eq_some_iff.1 h
      obtain ⟨rfl, rfl⟩ := Prod.mk.inj heq
      exact (List.Perm.swap _ _ _).trans ((ih hrest).cons _)

mutual

/-- Whether a value is another one, as far as that can be told without looking into arrays. -/
def isSameValue : Value → Value → Bool
  | .string s, .string s' => s == s'
  | .integer n, .integer n' => n == n'
  | .float x, .float x' => decide (x = x')
  | .boolean b, .boolean b' => b == b'
  | .table t, .table t' => isArrangement t t'
  | _, _ => false

/-- Whether a table is another one up to the order of entries. -/
def isArrangement : Table → Table → Bool
  | [], t' => t'.isEmpty
  | (key, v) :: rest, t' =>
    match takeKey key t' with
    | some (v', rest') => isSameValue v v' && isArrangement rest rest'
    | none => false

end

mutual

theorem similar_of_isSameValue (key : String) : ∀ v v' : Value, isSameValue v v' = true →
    Similar (key, v) (key, v')
  | .string s, .string s', h => by
    obtain rfl : s = s' := beq_iff_eq.1 h
    exact .same _
  | .integer n, .integer n', h => by
    obtain rfl : n = n' := beq_iff_eq.1 h
    exact .same _
  | .float x, .float x', h => by
    obtain rfl : x = x' := of_decide_eq_true h
    exact .same _
  | .boolean b, .boolean b', h => by
    obtain rfl : b = b' := beq_iff_eq.1 h
    exact .same _
  | .table t, .table t', h => .table key (arranged_of_isArrangement t t' h)

theorem arranged_of_isArrangement : ∀ t t' : Table, isArrangement t t' = true → Arranged t t'
  | [], t', h => by
    rw [isArrangement, List.isEmpty_iff] at h
    rw [h]
    exact .nil
  | (key, v) :: rest, t', h => by
    rw [isArrangement] at h
    split at h
    next v' rest' htake =>
      rw [Bool.and_eq_true] at h
      have hrest := arranged_of_isArrangement rest rest' h.2
      refine .trans ?_ (.of_perm (perm_of_takeKey htake))
      cases similar_of_isSameValue key v v' h.1 with
      | same => exact .cons _ hrest
      | table _ hv => exact .table key hv hrest
    next => cases h

end

example : isArrangement [("b", .table [("x", .integer 1), ("y", .boolean true)]), ("a", .string "")]
    [("a", .string ""), ("b", .table [("y", .boolean true), ("x", .integer 1)])] = true := by
  decide

end Resilience.Toml
