/-
# Patterns

The pattern language is not the program's own. The modules beside this one follow the library that
reads and matches the patterns of log filters, with its limits and the wording of its mistakes, and
`read` is all that a run of the program takes from them.

A pattern says which texts are wanted: those in which a part matches it. It is read once; a
pattern with a mistake, one that needs to tell the word characters of Unicode, and one that is too
large are refused. A pattern that is looked for as plain texts needs no machine, so it is never too
large.
-/

import HeaderSearch.Pattern.Meaning
import HeaderSearch.Pattern.Nesting
import HeaderSearch.Pattern.Occurrence
import HeaderSearch.Pattern.Plain
import HeaderSearch.Pattern.Reader
import HeaderSearch.Pattern.Size

namespace HeaderSearch

/-- A pattern that can be looked for. -/
structure Pattern where
  node : Pattern.Node

namespace Pattern

/-- Why a pattern is refused: there is a mistake in it, it asks for word characters, of which there
is no table beyond ASCII, or matching it would take too much memory. -/
inductive Refusal where
  | mistake (pattern : List Char) (found : Mistake)
  | unicodeWords
  | tooLarge
  deriving DecidableEq, Repr

def Refusal.message : Refusal → String
  | .mistake pattern found => found.render pattern
  | .unicodeWords => "error building NFA"
  | .tooLarge => s!"Compiled regex exceeds size limit of {greatestSize} bytes."

mutual

/-- Does the node look for word characters of Unicode? -/
def Node.needsWords : Node → Bool
  | .look (.word _ unicode) => unicode
  | .repeated _ _ _ part => part.needsWords
  | .capture _ part => part.needsWords
  | .sequence parts => anyNeedsWords parts
  | .alternation parts => anyNeedsWords parts
  | _ => false

def Node.anyNeedsWords : List Node → Bool
  | [] => false
  | part :: rest => part.needsWords || anyNeedsWords rest

end

/-- What a text means as a pattern. -/
def meaning (text : List Char) : Except Mistake Node := do
  let written ← Written.ofText text
  written.checkNesting 0
  return (← written.meaning .start).1

def ofText (text : List Char) : Except Refusal Pattern :=
  match meaning text with
  | .error found => .error (.mistake text found)
  | .ok node =>
    if node.forward?.isNone && !node.isPlain then .error .tooLarge
    else if node.needsWords then .error .unicodeWords
    else if node.backward?.isNone && !node.isPlain then .error .tooLarge
    else .ok ⟨node⟩

def occursIn (pattern : Pattern) (text : String) : Bool := pattern.node.occursIn text.toList

/-- Read a pattern as a test of texts, or say why it is refused. -/
def read (text : List Char) : Except String (String → Bool) :=
  match ofText text with
  | .ok pattern => .ok pattern.occursIn
  | .error refusal => .error refusal.message

example : (read "(b|c)+x$".toList).toOption.map (· "abcbx") = some true := by decide +kernel

example : (read "[^[:alpha:]]\\.".toList).toOption.map (· "a.h") = some false := by
  decide +kernel

/-- The mistake is shown under the parenthesis. -/
example : ((ofText "a(".toList).toOption.isNone &&
    (Refusal.mistake "a(".toList ⟨.groupUnclosed, ⟨⟨1, 2⟩, ⟨1, 3⟩⟩, none⟩).message =
      "regex parse error:\n    a(\n     ^\nerror: unclosed group") = true := by decide +kernel

end Pattern

end HeaderSearch
