/-
# Mistakes in patterns

A pattern that does not follow the rules, or that asks for what only tables of Unicode properties
could answer, is refused with one mistake: the first that is met. It is shown as the pattern with
carets under the characters that it concerns, and a sentence. A pattern of several lines is shown
between two rules, with numbered lines.
-/

import HeaderSearch.Pattern.Position
import HeaderSearch.Text.Blank

namespace HeaderSearch.Pattern

/-- What can be wrong with a pattern. -/
inductive MistakeKind where
  | classEscape
  | rangeOrder
  | rangeBound
  | classUnclosed
  | numberTooLarge
  | codeEmpty
  | codeInvalid
  | codeDigit
  | escapeUnfinished
  | escapeUnknown
  | negationDangling
  | flagRepeated
  | negationRepeated
  | flagsUnfinished
  | flagUnknown
  | nameRepeated
  | nameEmpty
  | nameCharacter
  | nameUnfinished
  | groupUnclosed
  | groupUnopened
  | tooDeep
  | countOrder
  | countEmpty
  | countUnclosed
  | nothingToRepeat
  | boundaryUnclosed
  | boundaryUnknown
  | boundaryUnfinished
  | propertyLetter
  | backreference
  | lookAround
  | unicodeOff
  | notText
  | propertyUnknown
  | propertyValueUnknown
  | shorthandUnknown
  | caseUnknown
  deriving DecidableEq, Repr

def MistakeKind.message : MistakeKind → String
  | .classEscape => "invalid escape sequence found in character class"
  | .rangeOrder => "invalid character class range, the start must be <= the end"
  | .rangeBound => "invalid range boundary, must be a literal"
  | .classUnclosed => "unclosed character class"
  | .numberTooLarge => "decimal literal invalid"
  | .codeEmpty => "hexadecimal literal empty"
  | .codeInvalid => "hexadecimal literal is not a Unicode scalar value"
  | .codeDigit => "invalid hexadecimal digit"
  | .escapeUnfinished => "incomplete escape sequence, reached end of pattern prematurely"
  | .escapeUnknown => "unrecognized escape sequence"
  | .negationDangling => "dangling flag negation operator"
  | .flagRepeated => "duplicate flag"
  | .negationRepeated => "flag negation operator repeated"
  | .flagsUnfinished => "expected flag but got end of regex"
  | .flagUnknown => "unrecognized flag"
  | .nameRepeated => "duplicate capture group name"
  | .nameEmpty => "empty capture group name"
  | .nameCharacter => "invalid capture group character"
  | .nameUnfinished => "unclosed capture group name"
  | .groupUnclosed => "unclosed group"
  | .groupUnopened => "unopened group"
  | .tooDeep => "exceed the maximum number of nested parentheses/brackets (250)"
  | .countOrder => "invalid repetition count range, the start must be <= the end"
  | .countEmpty => "repetition quantifier expects a valid decimal"
  | .countUnclosed => "unclosed counted repetition"
  | .nothingToRepeat => "repetition operator missing expression"
  | .boundaryUnclosed =>
    "special word boundary assertion is either unclosed or contains an invalid character"
  | .boundaryUnknown =>
    "unrecognized special word boundary assertion, valid choices are: start, end, " ++
      "start-half or end-half"
  | .boundaryUnfinished =>
    "found either the beginning of a special word boundary or a bounded repetition on a \\b " ++
      "with an opening brace, but no closing brace"
  | .propertyLetter => "invalid Unicode character class"
  | .backreference => "backreferences are not supported"
  | .lookAround => "look-around, including look-ahead and look-behind, is not supported"
  | .unicodeOff => "Unicode not allowed here"
  | .notText => "pattern can match invalid UTF-8"
  | .propertyUnknown => "Unicode property not found"
  | .propertyValueUnknown => "Unicode property value not found"
  | .shorthandUnknown =>
    "Unicode-aware Perl class not found (make sure the unicode-perl feature is enabled)"
  | .caseUnknown =>
    "Unicode-aware case insensitivity matching is not available (make sure the unicode-case " ++
      "feature is enabled)"

/-- A mistake in a pattern: what is wrong and where, and an earlier part that makes it wrong, if
there is one. -/
structure Mistake where
  kind : MistakeKind
  span : Span
  earlier? : Option Span
  deriving DecidableEq, Repr

namespace Mistake

def spans (mistake : Mistake) : List Span := mistake.span :: mistake.earlier?.toList

/-- The lines of a pattern, each without the line feed, or carriage return and line feed, at its
end. An empty line at the very end is none. -/
def patternLines (pattern : List Char) : List (List Char) :=
  let pieces := pattern.splitOn '\n'
  pieces.dropLast.map (Text.stripEnd ['\r']) ++ (pieces.getLast?.toList.filter (· ≠ []))

/-- Carets under the spans of one line: at least one under each. -/
def carets (spans : List Span) : List Char :=
  spans.foldl (fun marks span =>
    marks ++ List.replicate (span.start.column - 1 - marks.length) ' ' ++
      List.replicate (max 1 (span.finish.column - span.start.column)) '^') []

/-- The carets under a line, if any belong there. -/
def caretsUnder? (mistake : Mistake) (line : Nat) : Option (List Char) :=
  let spans := mistake.spans.filter fun span => span.isOneLine && span.start.line = line
  if spans = [] then none else some (carets (spans.mergeSort Span.precedes))

/-- The lines of a pattern with a margin, and carets under those that a mistake concerns. The
margin has the number of the line, right-aligned in `width` places, if `width` is not zero. -/
def annotated (mistake : Mistake) (pattern : List Char) (width : Nat) : List Char :=
  ((patternLines pattern).zipIdx 1).flatMap fun (line, index) =>
    let number := (toString index).toList
    let margin :=
      if width = 0 then List.replicate 4 ' '
      else List.replicate (width - number.length) ' ' ++ number ++ [':', ' ']
    let below := match mistake.caretsUnder? index with
      | some carets => List.replicate margin.length ' ' ++ carets ++ ['\n']
      | none => []
    margin ++ line ++ ['\n'] ++ below

def acrossLines (span : Span) : String :=
  s!"on line {span.start.line} (column {span.start.column}) through line {span.finish.line} " ++
    s!"(column {span.finish.column - 1})"

def rule : String := String.ofList (List.replicate 79 '~')

/-- A mistake as it is shown with its pattern. -/
def render (mistake : Mistake) (pattern : List Char) : String :=
  let sentence := "error: " ++ mistake.kind.message
  if '\n' ∈ pattern then
    let count := (pattern.splitOn '\n').length
    let width := (toString count).length
    let across := (mistake.spans.filter (!·.isOneLine)).map acrossLines
    "regex parse error:\n" ++ rule ++ "\n" ++ String.ofList (mistake.annotated pattern width) ++
      rule ++ "\n" ++ String.join (across.map (· ++ "\n")) ++ sentence
  else
    "regex parse error:\n" ++ String.ofList (mistake.annotated pattern 0) ++ sentence

end Mistake

end HeaderSearch.Pattern
