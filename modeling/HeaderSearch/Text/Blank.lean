/-
# Blank characters and trimming

Source lines are compared after the blank characters at both ends have been taken off. Blank
means the Unicode property White_Space: twenty-five characters, among them the no-break space
and the line separators, but neither the zero-width space nor the information separators below
the space character.
-/

import HeaderSearch.Text.CodeRange

namespace HeaderSearch.Text

/-- The characters with the Unicode property White_Space. -/
def blankRanges : CodeRanges :=
  [(0x09, 0x0D), (0x20, 0x20), (0x85, 0x85), (0xA0, 0xA0), (0x1680, 0x1680), (0x2000, 0x200A),
   (0x2028, 0x2029), (0x202F, 0x202F), (0x205F, 0x205F), (0x3000, 0x3000)]

def isBlank (c : Char) : Bool := blankRanges.holds c

/-- Take the blank characters off both ends. -/
def trim (text : List Char) : List Char :=
  ((text.dropWhile isBlank).reverse.dropWhile isBlank).reverse

/-- Only blanks are taken off, and all of them: what is left, if anything is, begins and ends with a
character that is not blank. -/
theorem exists_blanks_trim (text : List Char) :
    ∃ front back, text = front ++ trim text ++ back ∧
      (∀ c ∈ front ++ back, isBlank c = true) ∧
      (∀ c ∈ (trim text).head?, isBlank c = false) ∧
      ∀ c ∈ (trim text).getLast?, isBlank c = false := by
  let back := ((text.dropWhile isBlank).reverse.takeWhile isBlank).reverse
  have hrest : text.dropWhile isBlank = trim text ++ back := by
    rw [trim, ← List.reverse_append, List.takeWhile_append_dropWhile, List.reverse_reverse]
  refine ⟨text.takeWhile isBlank, back, ?_, ?_, ?_, ?_⟩
  · rw [List.append_assoc, ← hrest, List.takeWhile_append_dropWhile]
  · intro c hc
    rcases List.mem_append.1 hc with hfront | hback
    · exact List.all_eq_true.1 List.all_takeWhile c hfront
    · exact List.all_eq_true.1 List.all_takeWhile c (List.mem_reverse.1 hback)
  · intro c hc
    have hhead := List.head?_dropWhile_not isBlank text
    rw [hrest, List.head?_append, Option.mem_def.1 hc] at hhead
    exact hhead
  · intro c hc
    have hlast := List.head?_dropWhile_not isBlank (text.dropWhile isBlank).reverse
    rw [trim, List.getLast?_reverse] at hc
    rw [Option.mem_def.1 hc] at hlast
    exact hlast

/-- Take `start` off the front, once, if the text begins with it. -/
def stripStart (start text : List Char) : List Char :=
  if start.isPrefixOf text then text.drop start.length else text

/-- Take `finish` off the back, once, if the text ends with it. -/
def stripEnd (finish text : List Char) : List Char :=
  if finish.isSuffixOf text then text.take (text.length - finish.length) else text

example : trim "\u00a0 a b\t\u2003".toList = "a b".toList := by decide +kernel

/-- The zero-width space is not blank, though it is invisible. -/
example : trim "\u200b ".toList = ['\u200b'] := by decide +kernel

end HeaderSearch.Text
