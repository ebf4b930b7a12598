/-!
# Entries by name

A catalog keeps entries under distinct names, in the byte order of the names: comparing strings by
code points is comparing their UTF-8 encodings byte by byte. The order is part of the type, so two
catalogs with the same entries are equal.
-/

namespace Resilience

namespace Catalog

variable {α : Type}

/-- Puts an entry in its place, over an entry of the same name. -/
def insertSorted (name : String) (value : α) : List (String × α) → List (String × α)
  | [] => [(name, value)]
  | (n, v) :: rest =>
    if name < n then (name, value) :: (n, v) :: rest
    else if name = n then (name, value) :: rest
    else (n, v) :: insertSorted name value rest

theorem mem_insertSorted {name : String} {value : α} {entries : List (String × α)}
    {e : String × α} (h : e ∈ insertSorted name value entries) :
    e = (name, value) ∨ e ∈ entries := by
  induction entries with
  | nil => simpa [insertSorted] using h
  | cons head rest ih =>
    obtain ⟨n, v⟩ := head
    simp only [insertSorted] at h
    split at h
    · simpa using h
    · split at h <;> grind

theorem pairwise_insertSorted {name : String} {value : α} {entries : List (String × α)}
    (h : entries.Pairwise fun a b ↦ a.1 < b.1) :
    (insertSorted name value entries).Pairwise fun a b ↦ a.1 < b.1 := by
  induction entries with
  | nil => simp [insertSorted]
  | cons head rest ih =>
    obtain ⟨n, v⟩ := head
    rw [List.pairwise_cons] at h
    simp only [insertSorted]
    split
    · rename_i hlt
      refine List.pairwise_cons.2 ⟨?_, List.pairwise_cons.2 h⟩
      intro e he
      rcases List.mem_cons.1 he with rfl | he
      · exact hlt
      · exact String.lt_trans hlt (h.1 e he)
    · split
      · rename_i heq
        subst heq
        exact List.pairwise_cons.2 h
      · rename_i hlt hne
        refine List.pairwise_cons.2 ⟨?_, ih h.2⟩
        intro e he
        rcases mem_insertSorted he with rfl | he
        · exact Classical.not_not.1 fun hle ↦
            hne (String.le_antisymm (String.not_lt.1 hle) (String.not_lt.1 hlt))
        · exact h.1 e he

end Catalog

/-- Entries under distinct names, in the order of the names. -/
structure Catalog (α : Type) where
  entries : List (String × α)
  sorted : entries.Pairwise fun a b ↦ a.1 < b.1

namespace Catalog

variable {α : Type}

/-- No entries. -/
def empty : Catalog α := ⟨[], .nil⟩

instance : Inhabited (Catalog α) := ⟨empty⟩

/-- Puts an entry under a name, over what was there. -/
def insert (name : String) (value : α) (c : Catalog α) : Catalog α :=
  ⟨insertSorted name value c.entries, pairwise_insertSorted c.sorted⟩

/-- The catalog of a list of entries; of entries with one name the last one stays. -/
def ofList (entries : List (String × α)) : Catalog α :=
  entries.foldl (fun c e ↦ c.insert e.1 e.2) empty

/-- The entry under a name. -/
def get? (name : String) (c : Catalog α) : Option α := c.entries.lookup name

@[ext]
theorem ext {a b : Catalog α} (h : a.entries = b.entries) : a = b := by
  cases a; cases b; cases h; rfl

instance [DecidableEq α] : DecidableEq (Catalog α) := fun a b ↦
  if h : a.entries = b.entries then .isTrue (ext h)
  else .isFalse fun e ↦ h (congrArg entries e)

end Catalog

end Resilience
