/-
# Trimming and stripping

Trimming takes the blanks off the front of a text and then off its back. So blanks that are put
around a text are taken off with its own, and what begins and ends with something visible stays.
A character that is not blank keeps apart what stands before it, which stays, and what stands behind
it, which loses its blanks at the end.

Stripping takes one given text off one end, once. What it finds at an end depends on that end alone.
-/

import HeaderSearch.Text.Blank
import Mathlib.Data.List.DropRight
import Mathlib.Data.List.Induction

namespace HeaderSearch.Text

variable {text blanks : List Char} {c d : Char}

/-! ## Blanks at the ends -/

/-- The text without the blanks at its end. -/
def trimEnd (text : List Char) : List Char := text.rdropWhile isBlank

theorem trim_eq (text : List Char) : trim text = trimEnd (text.dropWhile isBlank) := rfl

/-- Nothing is left exactly of blanks. -/
theorem trimEnd_eq_nil_iff : trimEnd text = [] ↔ ∀ c ∈ text, isBlank c = true :=
  List.rdropWhile_eq_nil_iff

theorem trimEnd_append_blanks (h : ∀ c ∈ blanks, isBlank c = true) (text : List Char) :
    trimEnd (text ++ blanks) = trimEnd text := by
  rw [trimEnd, List.rdropWhile, List.reverse_append,
    List.dropWhile_append_of_pos fun c hc => h c (List.mem_reverse.1 hc)]
  rfl

/-- A character that is not blank protects what stands before it. -/
theorem trimEnd_append_cons (hc : isBlank c = false) (front back : List Char) :
    trimEnd (front ++ c :: back) = front ++ c :: trimEnd back := by
  induction back using List.reverseRecOn with
  | nil =>
      rw [trimEnd, List.rdropWhile_concat_neg _ _ _ (by simp [hc])]
      rfl
  | append_singleton back last ih =>
      rw [← List.cons_append, ← List.append_assoc]
      by_cases hlast : isBlank last = true
      · have hblanks : ∀ c ∈ [last], isBlank c = true := by simpa using hlast
        rw [trimEnd_append_blanks hblanks, trimEnd_append_blanks hblanks, ih]
      · rw [trimEnd, trimEnd, List.rdropWhile_concat_neg _ _ _ hlast,
          List.rdropWhile_concat_neg _ _ _ hlast]
        simp

theorem trim_blanks_append (h : ∀ c ∈ blanks, isBlank c = true) (text : List Char) :
    trim (blanks ++ text) = trim text := by
  rw [trim_eq, List.dropWhile_append_of_pos h, trim_eq]

theorem trim_append_blanks (h : ∀ c ∈ blanks, isBlank c = true) (text : List Char) :
    trim (text ++ blanks) = trim text := by
  rw [trim_eq, trim_eq, List.dropWhile_append]
  split
  · next hempty =>
    rw [List.isEmpty_iff] at hempty
    rw [hempty, ← List.append_nil blanks, List.dropWhile_append_of_pos h, List.dropWhile_nil]
  · exact trimEnd_append_blanks h _

/-- A text that begins with something visible loses its blanks at the end. -/
theorem trim_cons (hc : isBlank c = false) (rest : List Char) :
    trim (c :: rest) = c :: trimEnd rest := by
  rw [trim_eq, List.dropWhile_cons_of_neg (by simp [hc])]
  exact trimEnd_append_cons hc [] rest

theorem trim_trimEnd (text : List Char) : trim (trimEnd text) = trim text := by
  have hsplit : trimEnd text ++ text.rtakeWhile isBlank = text :=
    List.rdropWhile_append_rtakeWhile
  calc
    trim (trimEnd text) = trim (trimEnd text ++ text.rtakeWhile isBlank) :=
      (trim_append_blanks (fun _ hc => List.mem_rtakeWhile_imp hc) _).symm
    _ = trim text := by rw [hsplit]

/-- What has been trimmed has nothing left to trim. -/
theorem trim_trim (text : List Char) : trim (trim text) = trim text := by
  obtain ⟨front, back, hsplit, hblank, -⟩ := exists_blanks_trim text
  calc
    trim (trim text) = trim (front ++ trim text ++ back) := by
      rw [trim_append_blanks fun c hc => hblank c (List.mem_append_right front hc),
        trim_blanks_append fun c hc => hblank c (List.mem_append_left back hc)]
    _ = trim text := by rw [← hsplit]

/-! ## Stripping -/

theorem stripStart_append (start rest : List Char) : stripStart start (start ++ rest) = rest := by
  rw [stripStart, if_pos (List.isPrefixOf_iff_prefix.2 (List.prefix_append start rest)),
    List.drop_left]

theorem stripStart_singleton_of_ne (hc : text.head? ≠ some c) : stripStart [c] text = text := by
  rw [stripStart, if_neg]
  rw [List.isPrefixOf_iff_prefix]
  rintro ⟨rest, rfl⟩
  exact hc rfl

theorem stripEnd_append (front finish : List Char) : stripEnd finish (front ++ finish) = front := by
  rw [stripEnd, if_pos (List.isSuffixOf_iff_suffix.2 (List.suffix_append front finish)),
    List.length_append, Nat.add_sub_cancel_right, List.take_left]

theorem stripEnd_singleton_of_ne (hc : text.getLast? ≠ some c) : stripEnd [c] text = text := by
  rw [stripEnd, if_neg]
  rw [List.isSuffixOf_iff_suffix]
  rintro ⟨front, rfl⟩
  exact hc List.getLast?_concat

/-- What is stripped off the end does not depend on what stands before. -/
theorem stripEnd_singleton_append {back : List Char} (hback : back ≠ []) (front : List Char) :
    stripEnd [c] (front ++ back) = front ++ stripEnd [c] back := by
  obtain ⟨init, last, rfl⟩ := (List.eq_nil_or_concat' back).resolve_left hback
  by_cases hlast : last = c
  · rw [hlast, ← List.append_assoc, stripEnd_append, stripEnd_append]
  · rw [stripEnd_singleton_of_ne, stripEnd_singleton_of_ne]
    · simpa using hlast
    · rw [← List.append_assoc, List.getLast?_concat]
      simpa using hlast

/-- Another character keeps what stands before it. -/
theorem stripEnd_singleton_append_cons_of_ne (hd : d ≠ c) (front back : List Char) :
    stripEnd [c] (front ++ d :: back) = front ++ d :: stripEnd [c] back := by
  by_cases hback : back = []
  · rw [hback, stripEnd_singleton_of_ne (by simpa using hd)]
    rfl
  · rw [List.append_cons, stripEnd_singleton_append hback]
    simp

/-- The character itself is stripped only if nothing stands behind it. -/
theorem stripEnd_singleton_append_cons_self (front back : List Char) :
    stripEnd [c] (front ++ c :: back) =
      if back = [] then front else front ++ c :: stripEnd [c] back := by
  split
  · next hback => rw [hback, stripEnd_append]
  · next hback =>
    rw [List.append_cons, stripEnd_singleton_append hback]
    simp

theorem stripEnd_singleton_eq_nil_iff : stripEnd [c] text = [] ↔ text = [] ∨ text = [c] := by
  constructor
  · intro h
    by_cases hlast : text.getLast? = some c
    · obtain ⟨front, rfl⟩ := List.getLast?_eq_some_iff.1 hlast
      rw [stripEnd_append] at h
      exact .inr (by rw [h]; rfl)
    · rw [stripEnd_singleton_of_ne hlast] at h
      exact .inl h
  · rintro (rfl | rfl)
    · rfl
    · exact stripEnd_append [] [c]

end HeaderSearch.Text
