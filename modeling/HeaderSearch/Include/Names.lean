/-
# Sets of include names

What a project includes is a set of short names. It is kept in increasing order of code points,
which is the order in which names are looked up, listed and reported.
-/

import HeaderSearch.Ordered

namespace HeaderSearch

/-- A set of include names, listed in strictly increasing order. -/
structure IncludeNames where
  toList : List String
  sorted : toList.Pairwise (· < ·)

namespace IncludeNames

def empty : IncludeNames := ⟨[], .nil⟩

instance : EmptyCollection IncludeNames := ⟨empty⟩

def insert (names : IncludeNames) (name : String) : IncludeNames :=
  ⟨insertByKey id name names.toList, pairwise_insertByKey String.lt_trans name names.sorted⟩

def ofList (names : List String) : IncludeNames := names.foldl insert ∅

instance : Membership String IncludeNames := ⟨fun names name => name ∈ names.toList⟩

instance (name : String) (names : IncludeNames) : Decidable (name ∈ names) :=
  inferInstanceAs (Decidable (name ∈ names.toList))

theorem not_mem_empty (name : String) : name ∉ (∅ : IncludeNames) := List.not_mem_nil

theorem mem_insert {names : IncludeNames} {a b : String} :
    b ∈ names.insert a ↔ b = a ∨ b ∈ names :=
  mem_insertByKey fun hxy hyx => String.le_antisymm (String.not_lt.1 hyx) (String.not_lt.1 hxy)

/-- The set of a list has the members of the list. -/
theorem mem_ofList {names : List String} {name : String} :
    name ∈ ofList names ↔ name ∈ names := by
  have fold (start : IncludeNames) :
      name ∈ names.foldl insert start ↔ name ∈ start ∨ name ∈ names := by
    induction names generalizing start with
    | nil => simp
    | cons first rest ih => simp [ih, mem_insert, or_assoc, or_left_comm]
  simpa [ofList, not_mem_empty] using fold ∅

end IncludeNames

end HeaderSearch
