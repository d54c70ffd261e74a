/-
# Directives as they are written

A directive may be indented, may have blanks between `#include` and the name, and blanks behind the
name; the name stands between angle brackets or between quotes. Reading gives back what stands
between the delimiters, whatever that is: a name may be empty, begin or end with blanks, or hold
delimiters of its own. Delimiters are taken off one after another, a quote and then an angle bracket
at each end, so there is one exception. Behind an opening quote a name that begins with `<` would
lose it, and before a closing quote one that ends with `>`.

Lines are read one by one, so the names in a text are those of its lines, and what is no directive
adds none.
-/

import HeaderSearch.Proofs.Include.Layout
import Mathlib.Data.List.Dedup
import Mathlib.Data.List.ReduceOption

namespace HeaderSearch

/-- The set of a list holds its members in increasing order, each once. -/
theorem IncludeNames.toList_ofList (names : List String) :
    (IncludeNames.ofList names).toList = names.dedup.mergeSort (· ≤ ·) := by
  have hsorted := (IncludeNames.ofList names).sorted
  have hnodup : (IncludeNames.ofList names).toList.Nodup := by
    apply hsorted.imp
    rintro a _ hlt rfl
    exact String.lt_irrefl a hlt
  have hperm : (IncludeNames.ofList names).toList.Perm names.dedup := by
    rw [List.perm_ext_iff_of_nodup hnodup names.nodup_dedup]
    intro name
    rw [List.mem_dedup]
    exact IncludeNames.mem_ofList
  apply (hperm.trans (List.mergeSort_perm _ _).symm).eq_of_pairwise
  · intro a b _ _
    exact String.le_antisymm
  · exact hsorted.imp fun hlt => String.not_lt.1 (String.lt_asymm hlt)
  · exact (List.pairwise_mergeSort (fun a b c => by simpa using String.le_trans)
      (fun a b => by simpa using String.le_total a b) names.dedup).imp (by simp)

namespace Include

open HeaderSearch.Text

/-! ## The name between delimiters -/

/-- The operand of a directive without its delimiters. -/
def stripDelimiters (operand : List Char) : List Char :=
  stripEnd ['>'] (stripEnd ['"'] (stripStart ['<'] (stripStart ['"'] operand)))

theorem stripDelimiters_angled (text : List Char) :
    stripDelimiters ('<' :: text) = stripEnd ['>'] (stripEnd ['"'] text) := by
  have hstart : stripStart ['"'] ('<' :: text) = '<' :: text :=
    stripStart_singleton_of_ne (by simp)
  have hopening : stripStart ['<'] ('<' :: text) = text := stripStart_append ['<'] text
  rw [stripDelimiters, hstart, hopening]

theorem stripDelimiters_quoted {text : List Char} (h : text.head? ≠ some '<') :
    stripDelimiters ('"' :: text) = stripEnd ['>'] (stripEnd ['"'] text) := by
  have hopening : stripStart ['"'] ('"' :: text) = text := stripStart_append ['"'] text
  rw [stripDelimiters, hopening, stripStart_singleton_of_ne h]

/-- Angle brackets enclose any name. -/
theorem stripDelimiters_angle_brackets (name : List Char) :
    stripDelimiters ('<' :: (name ++ ['>'])) = name := by
  have hquote : stripEnd ['"'] (name ++ ['>']) = name ++ ['>'] :=
    stripEnd_singleton_of_ne (by simp)
  rw [stripDelimiters_angled, hquote, stripEnd_append]

/-- Quotes enclose any name that an angle bracket cannot be taken off. -/
theorem stripDelimiters_quotes {name : List Char} (hfirst : name.head? ≠ some '<')
    (hlast : name.getLast? ≠ some '>') : stripDelimiters ('"' :: (name ++ ['"'])) = name := by
  have hhead : (name ++ ['"']).head? ≠ some '<' := by
    cases name with
    | nil => decide
    | cons c rest => exact hfirst
  rw [stripDelimiters_quoted hhead, stripEnd_append, stripEnd_singleton_of_ne hlast]

/-! ## One line -/

section Line

variable {before between after rest : List Char}

theorem directive_eq : directive = '#' :: ("includ".toList ++ ['e']) := by decide

/-- What stands behind `#include` is trimmed with the line, and the word itself is not blank. -/
theorem trim_directive_append (hbefore : ∀ c ∈ before, isBlank c = true) (rest : List Char) :
    trim (before ++ directive ++ rest) = directive ++ trimEnd rest := by
  have hword : directive ++ rest = '#' :: ("includ".toList ++ 'e' :: rest) := by
    simp [directive_eq]
  rw [List.append_assoc, trim_blanks_append hbefore, hword, trim_cons (by decide),
    trimEnd_append_cons (by decide), directive_eq]
  simp

theorem shortNameChars_directive_append (hbefore : ∀ c ∈ before, isBlank c = true)
    (rest : List Char) :
    shortNameChars (before ++ directive ++ rest) = stripDelimiters (trim rest) := by
  rw [shortNameChars, trim_directive_append hbefore, stripStart_append, trim_trimEnd]
  rfl

theorem shortNameChars_trim (line : List Char) :
    shortNameChars (trim line) = shortNameChars line := by
  rw [shortNameChars, trim_trim]
  rfl

/-- A line is a directive exactly if, trimmed, it begins with `#include`. -/
theorem directives_of_line {line : List UInt8} (h : lineFeed ∉ line) :
    directives line =
      if directive <+: trim (Utf8.lossyChars line) then
        [String.ofList (trim (Utf8.lossyChars line))]
      else [] := by
  rw [directives, trimmedLines_of_line h]
  split
  · next hbegins => rw [List.filter_cons_of_pos (List.isPrefixOf_iff_prefix.2 hbegins)]; rfl
  · next hbegins =>
    rw [List.filter_cons_of_neg (mt List.isPrefixOf_iff_prefix.1 hbegins)]
    rfl

/-- A line that begins with `#include` has one short name, read from what follows the word. -/
theorem map_shortName_directives_append (hbefore : IsSpacing before) (hrest : '\n' ∉ rest) :
    (directives (Utf8.encodeChars (before ++ directive ++ rest))).map shortName =
      [String.ofList (stripDelimiters (trim rest))] := by
  have hline : lineFeed ∉ Utf8.encodeChars (before ++ directive ++ rest) := by
    have hword : '\n' ∉ directive := by decide
    simp only [lineFeed_mem_encodeChars_iff, List.mem_append, not_or]
    exact ⟨⟨hbefore.oneLine, hword⟩, hrest⟩
  have hbegins : directive <+: trim (before ++ directive ++ rest) := by
    rw [trim_directive_append hbefore.blanks]
    exact List.prefix_append _ _
  rw [directives_of_line hline, Utf8.lossyChars_encodeChars, if_pos hbegins, List.map_singleton,
    shortName, String.toList_ofList, shortNameChars_trim,
    shortNameChars_directive_append hbefore.blanks]

/-- The short names in a text include those of its lines that are directives. -/
theorem shortName_mem_shortNames {text line : List UInt8} (hmem : line ∈ lines text)
    (hbegins : directive <+: trim (Utf8.lossyChars line)) :
    shortName (Utf8.lossy line) ∈ shortNames text := by
  rw [mem_shortNames]
  refine ⟨String.ofList (trim (Utf8.lossyChars line)), ?_, ?_⟩
  · apply List.mem_map_of_mem
    exact List.mem_filter.2 ⟨List.mem_map_of_mem hmem, List.isPrefixOf_iff_prefix.2 hbegins⟩
  · rw [shortName, String.toList_ofList, shortNameChars_trim, ← Utf8.toList_lossy]
    rfl

/-- Of an operand that begins and ends with something visible, only the spacing is trimmed. -/
theorem trim_operand (hbetween : IsSpacing between) (hafter : IsSpacing after)
    {opening closing : Char} (hopening : isBlank opening = false)
    (hclosing : isBlank closing = false) (name : List Char) :
    trim (between ++ opening :: (name ++ closing :: after)) = opening :: (name ++ [closing]) := by
  rw [trim_blanks_append hbetween.blanks, trim_cons hopening, trimEnd_append_cons hclosing,
    trimEnd_eq_nil_iff.2 hafter.blanks]

end Line

/-! ## Lines and the names in them -/

/-- A line as it may be written, with the name that it includes, if it is a directive. -/
inductive Written : List UInt8 → Option String → Prop where
  /-- Any name in angle brackets. -/
  | angled {before between after : List Char} {name : String} (hbefore : IsSpacing before)
      (hbetween : IsSpacing between) (hafter : IsSpacing after) (hname : '\n' ∉ name.toList) :
      Written (Utf8.encodeChars
        (before ++ directive ++ (between ++ '<' :: (name.toList ++ '>' :: after)))) (some name)
  /-- A name in quotes, unless it begins with `<` or ends with `>`. -/
  | quoted {before between after : List Char} {name : String} (hbefore : IsSpacing before)
      (hbetween : IsSpacing between) (hafter : IsSpacing after) (hname : '\n' ∉ name.toList)
      (hfirst : name.toList.head? ≠ some '<') (hlast : name.toList.getLast? ≠ some '>') :
      Written (Utf8.encodeChars
        (before ++ directive ++ (between ++ '"' :: (name.toList ++ '"' :: after)))) (some name)
  /-- Any bytes on one line that, read as text and trimmed, do not begin with `#include`. -/
  | other {line : List UInt8} (hline : lineFeed ∉ line)
      (hplain : ¬ directive <+: trim (Utf8.lossyChars line)) : Written line none

theorem Written.map_shortName_directives {line : List UInt8} {name? : Option String}
    (h : Written line name?) : (directives line).map shortName = name?.toList := by
  cases h with
  | angled hbefore hbetween hafter hname =>
      rw [map_shortName_directives_append hbefore,
        trim_operand hbetween hafter (by decide) (by decide), stripDelimiters_angle_brackets,
        String.ofList_toList]
      · rfl
      · simp [hbetween.oneLine, hname, hafter.oneLine]
  | quoted hbefore hbetween hafter hname hfirst hlast =>
      rw [map_shortName_directives_append hbefore,
        trim_operand hbetween hafter (by decide) (by decide),
        stripDelimiters_quotes hfirst hlast, String.ofList_toList]
      · rfl
      · simp [hbetween.oneLine, hname, hafter.oneLine]
  | other hline hplain =>
      rw [directives_of_line hline, if_neg hplain]
      rfl

/-- Reading gives back what was written: the directives in a text have the names that its lines were
written for, one after another, and the short names of the text are these names, sorted and each
once. -/
theorem shortNames_of_written {lines : List (List UInt8)} {names : List (Option String)}
    (h : List.Forall₂ Written lines names) :
    (directives ([lineFeed].intercalate lines)).map shortName = names.reduceOption ∧
      (shortNames ([lineFeed].intercalate lines)).toList =
        names.reduceOption.dedup.mergeSort (· ≤ ·) := by
  have hnames :
      (directives ([lineFeed].intercalate lines)).map shortName = names.reduceOption := by
    rw [directives_intercalate]
    induction h with
    | nil => rfl
    | @cons _ name? _ _ hline _ ih =>
        rw [List.flatMap_cons, List.map_append, hline.map_shortName_directives, ih]
        cases name? with
        | none => rfl
        | some name => rfl
  exact ⟨hnames, by rw [shortNames, hnames, IncludeNames.toList_ofList]⟩

/-- A directive for a name with delimiters and a blank at its end, one for the empty name, and a
comment that is not text. -/
def delimitedLines : List (List UInt8) :=
  [Utf8.encodeChars ("\t".toList ++ directive ++
      ("\u2003".toList ++ '<' :: ("\"y>.h ".toList ++ '>' :: "\r".toList))),
    Utf8.encodeChars ([] ++ directive ++ ([] ++ '"' :: ("".toList ++ '"' :: " ".toList))),
    Utf8.encode "// #include <no.h>" ++ [0xFF]]

theorem shortNames_delimitedLines :
    List.Forall₂ Written delimitedLines [some "\"y>.h ", some "", none] ∧
      (shortNames ([lineFeed].intercalate delimitedLines)).toList = ["", "\"y>.h "] ∧
      (directives ([lineFeed].intercalate delimitedLines)).map shortName =
        [some "\"y>.h ", some "", none].reduceOption ∧
      (shortNames ([lineFeed].intercalate delimitedLines)).toList =
        [some "\"y>.h ", some "", none].reduceOption.dedup.mergeSort (· ≤ ·) := by
  have hwritten : List.Forall₂ Written delimitedLines [some "\"y>.h ", some "", none] :=
    .cons (.angled (by decide) (by decide) (by decide) (by decide))
      (.cons (.quoted (by decide) (by decide) (by decide) (by decide) (by decide) (by decide))
        (.cons (.other (by decide) (by decide +kernel)) .nil))
  exact ⟨hwritten, by decide +kernel, shortNames_of_written hwritten⟩

end Include

end HeaderSearch
