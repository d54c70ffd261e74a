/-
# Lists in any order

Two ways to read a list without regard to its order. What a look-up finds is the first entry of a
key; if no key is repeated there is only one, and a look-up finds an entry exactly if it is in the
list. And sorting forgets the order, provided that members which rank alike are the same.
-/

import Mathlib.Data.List.Nodup

namespace HeaderSearch

section Lookup

variable {κ α : Type} [BEq κ] [LawfulBEq κ] {entries : List (κ × α)} {key : κ} {a : α}

theorem mem_of_lookup_eq_some (h : entries.lookup key = some a) : (key, a) ∈ entries := by
  obtain ⟨before, after, rfl, -⟩ := List.lookup_eq_some_iff.1 h
  simp

/-- If no key is repeated, what is in the list is found. -/
theorem lookup_eq_some_iff_mem (h : (entries.map Prod.fst).Nodup) :
    entries.lookup key = some a ↔ (key, a) ∈ entries := by
  refine ⟨mem_of_lookup_eq_some, fun hmem => ?_⟩
  cases hlookup : entries.lookup key with
  | none => simpa using List.lookup_eq_none_iff.1 hlookup _ hmem
  | some b =>
      have hsame := List.inj_on_of_nodup_map h (mem_of_lookup_eq_some hlookup) hmem rfl
      rw [(Prod.mk.inj hsame).2]

end Lookup

section Sorting

variable {α : Type} {le : α → α → Bool} {members others : List α}

/-- A list and the same list in another order are sorted alike. -/
theorem mergeSort_eq_of_perm (trans : ∀ a b c, le a b = true → le b c = true → le a c = true)
    (total : ∀ a b, (le a b || le b a) = true)
    (antisymm : ∀ a ∈ members, ∀ b ∈ members, le a b = true → le b a = true → a = b)
    (h : members.Perm others) : members.mergeSort le = others.mergeSort le := by
  have hperm : (members.mergeSort le).Perm (others.mergeSort le) :=
    (members.mergeSort_perm le).trans (h.trans (others.mergeSort_perm le).symm)
  refine hperm.eq_of_pairwise ?_ (List.pairwise_mergeSort trans total members)
    (List.pairwise_mergeSort trans total others)
  intro a b ha hb
  exact antisymm a (List.mem_mergeSort.1 ha) b (h.mem_iff.2 (List.mem_mergeSort.1 hb))

end Sorting

end HeaderSearch
