/-
# Cutting at a separator

A text is cut at every separator in it, so no piece holds a separator, and apart from separators the
pieces hold what the text holds. A piece is empty where separators stand side by side or at an end
of the text. What is done to a text can be done to its pieces instead if it turns separators into
separators, makes none of anything else, and does not look past them.
-/

import Mathlib.Data.List.Basic

namespace HeaderSearch

section Cutting

variable {α : Type} [BEq α] [LawfulBEq α] {separator a : α} {text piece : List α}

/-- The pieces that stand between the separators of a text hold no separator. -/
theorem notMem_of_mem_splitOn (h : piece ∈ text.splitOn separator) : separator ∉ piece := by
  induction text generalizing piece with
  | nil =>
      rw [List.splitOn_nil, List.mem_singleton] at h
      rw [h]
      exact List.not_mem_nil
  | cons head rest ih =>
      obtain ⟨first, others, hsplit⟩ :=
        List.exists_cons_of_ne_nil (List.splitOn_ne_nil separator rest)
      rw [hsplit] at ih
      rw [List.splitOn_cons_eq_if_modifyHead, hsplit] at h
      split at h
      · rcases List.mem_cons.1 h with rfl | h
        · exact List.not_mem_nil
        · exact ih h
      · next hhead =>
        rcases List.mem_cons.1 h with rfl | h
        · intro hmem
          rcases List.mem_cons.1 hmem with hseparator | hmem
          · exact hhead (by simp [← hseparator])
          · exact ih List.mem_cons_self hmem
        · exact ih (List.mem_cons_of_mem _ h)

/-- Apart from separators a text holds what its pieces hold. -/
theorem mem_iff_mem_splitOn (ha : a ≠ separator) :
    a ∈ text ↔ ∃ piece ∈ text.splitOn separator, a ∈ piece := by
  induction text with
  | nil => simp
  | cons head rest ih =>
      obtain ⟨first, others, hsplit⟩ :=
        List.exists_cons_of_ne_nil (List.splitOn_ne_nil separator rest)
      rw [hsplit] at ih
      rw [List.splitOn_cons_eq_if_modifyHead, hsplit, List.mem_cons, ih]
      by_cases hhead : head = separator
      · rw [if_pos (by simp [hhead]), hhead, or_iff_right ha]
        simp
      · rw [if_neg (by simpa using hhead)]
        simp [or_assoc]

/-- The first piece is empty exactly if the text begins with a separator or is empty. -/
theorem head?_splitOn_eq_nil_iff :
    (text.splitOn separator).head? = some [] ↔ text.head? = some separator ∨ text = [] := by
  cases text with
  | nil => simp
  | cons head rest =>
      obtain ⟨first, others, hsplit⟩ :=
        List.exists_cons_of_ne_nil (List.splitOn_ne_nil separator rest)
      rw [List.splitOn_cons_eq_if_modifyHead, hsplit]
      by_cases hhead : head = separator <;> simp [hhead]

/-- A piece after the first is empty exactly if a separator stands behind another one or at the
end. -/
theorem nil_mem_tail_splitOn_iff : [] ∈ (text.splitOn separator).tail ↔
    [separator, separator] <:+: text ∨ text.getLast? = some separator := by
  induction text with
  | nil => simp
  | cons head rest ih =>
      obtain ⟨first, others, hsplit⟩ :=
        List.exists_cons_of_ne_nil (List.splitOn_ne_nil separator rest)
      have hfirst : first = [] ↔ rest.head? = some separator ∨ rest = [] := by
        rw [← head?_splitOn_eq_nil_iff, hsplit, List.head?_cons, Option.some.injEq]
      have hpair : [separator, separator] <+: head :: rest ↔
          head = separator ∧ rest.head? = some separator := by
        cases rest <;> simp [eq_comm]
      have hlast : (head :: rest).getLast? = some separator ↔
          rest = [] ∧ head = separator ∨ rest.getLast? = some separator := by
        cases rest <;> simp [List.getLast?_cons]
      rw [hsplit, List.tail_cons] at ih
      rw [List.splitOn_cons_eq_if_modifyHead, hsplit, List.infix_cons_iff, hpair, hlast]
      by_cases hhead : head = separator
      · rw [if_pos (by simp [hhead]), List.tail_cons, List.mem_cons, eq_comm, hfirst, ih]
        simp only [hhead, true_and, and_true]
        exact or_or_or_comm
      · rw [if_neg (by simpa using hhead), List.modifyHead_cons, List.tail_cons, ih]
        simp [hhead]

end Cutting

/-- Pieces joined behind other pieces are joined to them by one more separator. -/
theorem intercalate_append {α : Type} {separator : α} {front back : List (List α)}
    (hfront : front ≠ []) (hback : back ≠ []) :
    [separator].intercalate (front ++ back) =
      [separator].intercalate front ++ separator :: [separator].intercalate back := by
  induction front with
  | nil => exact absurd rfl hfront
  | cons first rest ih =>
      rw [List.cons_append, List.intercalate_cons_of_ne_nil (by simp [hback])]
      by_cases hrest : rest = []
      · simp [hrest]
      · rw [ih hrest, List.intercalate_cons_of_ne_nil hrest]
        simp

section Commuting

variable {α β : Type} {f : List α → List β} {separator : α} {mark : β}

/-- If `f` turns separators into separators, it joins what it makes of the pieces. -/
theorem apply_intercalate
    (happend : ∀ front back, f (front ++ separator :: back) = f front ++ mark :: f back)
    {pieces : List (List α)} (hne : pieces ≠ []) :
    f ([separator].intercalate pieces) = [mark].intercalate (pieces.map f) := by
  induction pieces with
  | nil => exact absurd rfl hne
  | cons first rest ih =>
      cases rest with
      | nil => simp
      | cons second rest =>
          have hrest := ih (List.cons_ne_nil second rest)
          simp only [List.map_cons, List.intercalate_cons_cons, List.append_assoc,
            List.singleton_append] at hrest ⊢
          rw [happend, hrest]

variable [BEq α] [LawfulBEq α] [BEq β] [LawfulBEq β]

/-- If `f` turns separators into separators and makes none of anything else, then what it makes of a
text is cut into what it makes of the pieces. -/
theorem splitOn_apply
    (happend : ∀ front back, f (front ++ separator :: back) = f front ++ mark :: f back)
    (hplain : ∀ piece, separator ∉ piece → mark ∉ f piece) (text : List α) :
    (f text).splitOn mark = (text.splitOn separator).map f := by
  have hmark : ∀ piece ∈ (text.splitOn separator).map f, mark ∉ piece := by
    intro piece hpiece
    obtain ⟨original, horiginal, rfl⟩ := List.mem_map.1 hpiece
    exact hplain original (notMem_of_mem_splitOn horiginal)
  calc
    (f text).splitOn mark =
        (f ([separator].intercalate (text.splitOn separator))).splitOn mark := by
      rw [List.intercalate_splitOn]
    _ = ([mark].intercalate ((text.splitOn separator).map f)).splitOn mark := by
      rw [apply_intercalate happend (List.splitOn_ne_nil separator text)]
    _ = (text.splitOn separator).map f :=
      List.splitOn_intercalate mark hmark (by simp [List.splitOn_ne_nil])

end Commuting

end HeaderSearch
