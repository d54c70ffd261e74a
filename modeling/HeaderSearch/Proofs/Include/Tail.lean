/-
# Text behind the closing delimiter

Delimiters are taken off the two ends of what stands behind `#include`, so a closing delimiter with
more text behind it is no delimiter: it belongs to the name, and so does that text, up to the end of
the line. Comments are not recognised. Of a tail only the blanks at the end go, and then one quote
and one angle bracket, as from any operand.

Two tails change nothing. One is blank. The other is a lone quote behind angle brackets, since a
quote is taken off before an angle bracket is.
-/

import HeaderSearch.Proofs.Include.Written

namespace HeaderSearch.Include

open HeaderSearch.Text

/-- A directive with a name in angle brackets and a tail. -/
def angledLine (name tail : String) : String := "#include <" ++ name ++ ">" ++ tail

/-- A directive with a name in quotes and a tail. -/
def quotedLine (name tail : String) : String := "#include \"" ++ name ++ "\"" ++ tail

/-- What is left of a tail that does not go altogether. -/
def keptTail (tail : String) : String :=
  String.ofList (stripEnd ['>'] (stripEnd ['"'] (trimEnd tail.toList)))

/-! ## Names with a tail -/

theorem toList_angledLine (name tail : String) :
    (angledLine name tail).toList =
      directive ++ ' ' :: '<' :: (name.toList ++ '>' :: tail.toList) := by
  have hfront : "#include <".toList = directive ++ [' ', '<'] := by decide
  have hback : ">".toList = ['>'] := by decide
  rw [angledLine, String.toList_append, String.toList_append, String.toList_append, hfront, hback,
    List.append_assoc, List.append_assoc, List.append_assoc]
  rfl

theorem toList_quotedLine (name tail : String) :
    (quotedLine name tail).toList =
      directive ++ ' ' :: '"' :: (name.toList ++ '"' :: tail.toList) := by
  have hfront : "#include \"".toList = directive ++ [' ', '"'] := by decide
  have hback : "\"".toList = ['"'] := by decide
  rw [quotedLine, String.toList_append, String.toList_append, String.toList_append, hfront, hback,
    List.append_assoc, List.append_assoc, List.append_assoc]
  rfl

/-- Of the tail only the blanks at its end are trimmed, since the closing delimiter is not blank. -/
theorem shortNameChars_of_tail {opening closing : Char} (hopening : isBlank opening = false)
    (hclosing : isBlank closing = false) (name tail : List Char) :
    shortNameChars (directive ++ ' ' :: opening :: (name ++ closing :: tail)) =
      stripDelimiters (opening :: (name ++ closing :: trimEnd tail)) := by
  have hspace : IsSpacing [' '] := by decide
  have htrim : trim ([' '] ++ opening :: (name ++ closing :: tail)) =
      opening :: (name ++ closing :: trimEnd tail) := by
    rw [trim_blanks_append hspace.blanks, trim_cons hopening, trimEnd_append_cons hclosing]
  rw [← htrim]
  exact @shortNameChars_directive_append [] nofun _

theorem shortName_angledLine (name tail : String) :
    shortName (angledLine name tail) =
      if stripEnd ['"'] (trimEnd tail.toList) = [] then name
      else name ++ ">" ++ keptTail tail := by
  rw [shortName, toList_angledLine, shortNameChars_of_tail (by decide) (by decide),
    stripDelimiters_angled, stripEnd_singleton_append_cons_of_ne (by decide),
    stripEnd_singleton_append_cons_self]
  split
  · exact String.ofList_toList
  · rw [← String.toList_inj]
    simp [keptTail]

theorem shortName_quotedLine {name tail : String} (hopening : '<' ∉ name.toList)
    (hclosing : '>' ∉ name.toList) :
    shortName (quotedLine name tail) =
      if trimEnd tail.toList = [] then name else name ++ "\"" ++ keptTail tail := by
  have hhead : (name.toList ++ '"' :: trimEnd tail.toList).head? ≠ some '<' := by
    rw [List.head?_append]
    intro hhead
    rcases Option.or_eq_some_iff.1 hhead with hhead | ⟨-, hhead⟩
    · exact hopening (List.mem_of_mem_head? hhead)
    · cases hhead
  rw [shortName, toList_quotedLine, shortNameChars_of_tail (by decide) (by decide),
    stripDelimiters_quoted hhead, stripEnd_singleton_append_cons_self]
  split
  · rw [stripEnd_singleton_of_ne fun hlast => hclosing (List.mem_of_getLast? hlast),
      String.ofList_toList]
  · rw [stripEnd_singleton_append_cons_of_ne (by decide), ← String.toList_inj]
    simp [keptTail]

/-! ## What the tail changes -/

theorem append_append_ne_self (name kept : String) {closing : String} (h : closing ≠ "") :
    name ++ closing ++ kept ≠ name := by
  intro hsame
  have hlength := congrArg String.length hsame
  rw [String.length_append, String.length_append] at hlength
  have hempty : closing.length = 0 := by omega
  exact h (String.length_eq_zero_iff.1 hempty)

/-- A line that begins with `#include` adds its short name to those of the text. -/
theorem shortName_mem_of_line {line : String} {rest : List Char}
    (hline : line.toList = directive ++ rest) {text : List UInt8}
    (hmem : Utf8.encode line ∈ lines text) : shortName line ∈ shortNames text := by
  have hbegins : directive <+: trim (Utf8.lossyChars (Utf8.encode line)) := by
    have htrim : trim (directive ++ rest) = directive ++ trimEnd rest :=
      @trim_directive_append [] nofun rest
    rw [Utf8.lossyChars_encode, hline, htrim]
    exact List.prefix_append _ _
  have hname := shortName_mem_shortNames hmem hbegins
  rwa [Utf8.lossy_encode] at hname

/-- A name without angle brackets in it is read as it is written exactly if nothing but blanks
stands behind it, or behind angle brackets a lone quote. Otherwise the closing delimiter and the
tail belong to the name, and so they do in the short names of every text with such a line. -/
theorem shortName_with_tail {name tail : String} (hopening : '<' ∉ name.toList)
    (hclosing : '>' ∉ name.toList) :
    (shortName (angledLine name tail) = name ↔
        trimEnd tail.toList = [] ∨ trimEnd tail.toList = ['"']) ∧
      (shortName (quotedLine name tail) = name ↔ trimEnd tail.toList = []) ∧
      (shortName (angledLine name tail) ≠ name →
        shortName (angledLine name tail) = name ++ ">" ++ keptTail tail) ∧
      (shortName (quotedLine name tail) ≠ name →
        shortName (quotedLine name tail) = name ++ "\"" ++ keptTail tail) ∧
      ∀ text, (Utf8.encode (angledLine name tail) ∈ lines text →
          shortName (angledLine name tail) ∈ shortNames text) ∧
        (Utf8.encode (quotedLine name tail) ∈ lines text →
          shortName (quotedLine name tail) ∈ shortNames text) := by
  have hangled := @append_append_ne_self name (keptTail tail) ">" (by decide)
  have hquoted := @append_append_ne_self name (keptTail tail) "\"" (by decide)
  refine ⟨?_, ?_, fun hne => ?_, fun hne => ?_, fun text => ⟨?_, ?_⟩⟩
  · rw [shortName_angledLine, hangled.symm.ite_eq_left_iff, stripEnd_singleton_eq_nil_iff]
  · rw [shortName_quotedLine hopening hclosing, hquoted.symm.ite_eq_left_iff]
  · rw [shortName_angledLine] at hne ⊢
    exact (ite_eq_or_eq _ _ _).resolve_left hne
  · rw [shortName_quotedLine hopening hclosing] at hne ⊢
    exact (ite_eq_or_eq _ _ _).resolve_left hne
  · exact shortName_mem_of_line (toList_angledLine name tail)
  · exact shortName_mem_of_line (toList_quotedLine name tail)

/-- A comment that ends with a quote: the quote goes, and the rest of the comment stays in the name
that the text has. -/
theorem shortName_with_quoted_comment :
    '<' ∉ "a.h".toList ∧ '>' ∉ "a.h".toList ∧
      keptTail " // \"x\" " = " // \"x" ∧
      shortName (angledLine "a.h" " // \"x\" ") = "a.h" ++ ">" ++ keptTail " // \"x\" " ∧
      shortName (angledLine "a.h" " // \"x\" ") ∈
        shortNames (Utf8.encode "int x;\n#include <a.h> // \"x\" \n") := by
  have hopening : '<' ∉ "a.h".toList := by decide
  have hclosing : '>' ∉ "a.h".toList := by decide
  have hne : shortName (angledLine "a.h" " // \"x\" ") ≠ "a.h" := by decide +kernel
  have hline : Utf8.encode (angledLine "a.h" " // \"x\" ") ∈
      lines (Utf8.encode "int x;\n#include <a.h> // \"x\" \n") := by decide +kernel
  obtain ⟨-, -, hangled, -, hmem⟩ := @shortName_with_tail "a.h" " // \"x\" " hopening hclosing
  exact ⟨hopening, hclosing, by decide +kernel, hangled hne, (hmem _).1 hline⟩

/-- A comment behind the name goes into the short name, behind an angle bracket as behind a
quote. -/
theorem comment_changes_shortName :
    shortName (angledLine "a.h" " // first") = "a.h> // first" ∧
      shortName (quotedLine "a.h" " // first") = "a.h\" // first" ∧
      ¬ ∀ name tail : String, name ≠ "" → '<' ∉ name.toList → '>' ∉ name.toList →
        '"' ∉ name.toList → '\n' ∉ name.toList → '\n' ∉ tail.toList →
        shortName (angledLine name tail) = name ∧ shortName (quotedLine name tail) = name := by
  have hangled : shortName (angledLine "a.h" " // first") = "a.h> // first" := by decide +kernel
  refine ⟨hangled, by decide +kernel, fun h => ?_⟩
  have hname := (h "a.h" " // first" (by decide) (by decide) (by decide) (by decide) (by decide)
    (by decide)).1
  rw [hangled] at hname
  revert hname
  decide

end HeaderSearch.Include
