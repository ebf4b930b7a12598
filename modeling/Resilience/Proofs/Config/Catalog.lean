import Mathlib.Data.List.Nodup
import Mathlib.Data.List.Perm.Basic
import Resilience.Config.Catalog

/-!
# Entries in the order of names

The order of a catalog is part of it, and there is one order for entries under distinct names. So a
catalog is what is in it: looking up a name finds the entry under it (`get?_eq_some_iff`), and in
whatever order the entries are put in, the same catalog comes out (`ofList_eq_of_perm`).
-/

namespace Resilience.Catalog

variable {α : Type} {c d : Catalog α} {name : String} {value : α} {entries : List (String × α)}

theorem nodup_names (c : Catalog α) : (c.entries.map Prod.fst).Nodup :=
  List.Pairwise.nodup (r := (· < ·)) (List.pairwise_map.2 c.sorted)

/-- **To look up a name is to find its entry.** -/
theorem get?_eq_some_iff : c.get? name = some value ↔ (name, value) ∈ c.entries := by
  have hnodup := c.nodup_names
  rw [get?]
  generalize c.entries = entries at hnodup ⊢
  induction entries with
  | nil => simp
  | cons head rest ih =>
    obtain ⟨n, v⟩ := head
    rw [List.map_cons, List.nodup_cons] at hnodup
    by_cases hname : name = n
    · subst hname
      -- no further entry has the name
      have hrest : (name, value) ∉ rest := fun hmem ↦
        hnodup.1 (List.mem_map.2 ⟨_, hmem, rfl⟩)
      simp [hrest, eq_comm]
    · rw [List.lookup_cons, beq_eq_false_iff_ne.2 hname, List.mem_cons, Prod.mk.injEq,
        or_iff_right fun h ↦ hname h.1]
      exact ih hnodup.2

theorem isSome_get?_iff : (c.get? name).isSome ↔ name ∈ c.entries.map Prod.fst := by
  rw [Option.isSome_iff_exists, List.mem_map]
  constructor
  · rintro ⟨value, h⟩
    exact ⟨(name, value), get?_eq_some_iff.1 h, rfl⟩
  · rintro ⟨⟨name, value⟩, h, rfl⟩
    exact ⟨value, get?_eq_some_iff.2 h⟩

/-! ### Putting entries in -/

theorem insertSorted_perm (h : name ∉ entries.map Prod.fst) :
    (insertSorted name value entries).Perm ((name, value) :: entries) := by
  induction entries with
  | nil => exact .refl _
  | cons head rest ih =>
    obtain ⟨n, v⟩ := head
    rw [List.map_cons, List.mem_cons, not_or] at h
    rw [insertSorted, if_neg h.1]
    split
    · exact .refl _
    · exact ((ih h.2).cons _).trans (.swap _ _ _)

theorem foldl_insert_perm (c : Catalog α) (h : ((c.entries ++ entries).map Prod.fst).Nodup) :
    (entries.foldl (fun c e ↦ c.insert e.1 e.2) c).entries.Perm (c.entries ++ entries) := by
  induction entries generalizing c with
  | nil =>
    rw [List.append_nil]
    exact .refl _
  | cons e rest ih =>
    have hmiddle : (c.entries ++ e :: rest).Perm (e :: (c.entries ++ rest)) := List.perm_middle
    have hnodup := (hmiddle.map Prod.fst).nodup_iff.1 h
    have hnew : e.1 ∉ c.entries.map Prod.fst := fun hmem ↦ by
      rw [List.map_cons, List.nodup_cons, List.map_append] at hnodup
      exact hnodup.1 (List.mem_append_left _ hmem)
    have hinsert : ((c.insert e.1 e.2).entries ++ rest).Perm (e :: (c.entries ++ rest)) :=
      (insertSorted_perm hnew).append_right rest
    exact (ih _ ((hinsert.map Prod.fst).nodup_iff.2 hnodup)).trans (hinsert.trans hmiddle.symm)

/-- **There is one catalog of given entries.** -/
theorem eq_of_perm (h : c.entries.Perm d.entries) : c = d := by
  refine ext (h.eq_of_pairwise (fun a b _ _ hab hba ↦ ?_) c.sorted d.sorted)
  exact absurd hab (String.lt_asymm hba)

/-- **Entries may be put in in any order.** -/
theorem ofList_eq_of_perm (h : entries.Perm c.entries) : ofList entries = c := by
  have hnodup : (entries.map Prod.fst).Nodup := (h.map Prod.fst).nodup_iff.2 c.nodup_names
  exact eq_of_perm ((foldl_insert_perm empty hnodup).trans h)

theorem ofList_perm {others : List (String × α)} (hnodup : (entries.map Prod.fst).Nodup)
    (h : entries.Perm others) : ofList others = ofList entries :=
  ofList_eq_of_perm (h.symm.trans (foldl_insert_perm empty hnodup).symm)

end Resilience.Catalog
