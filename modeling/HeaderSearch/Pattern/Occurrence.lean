/-
# Where patterns occur

A match goes from one place of a text to another; the places are those before each character and
the one at the end. A node is run on all places at once: from the places at which a match may
begin it leads to the places at which one may end. A pattern occurs in a text if it leads from
some place to some place. How often a repetition prefers to go round makes no difference to that.
-/

import HeaderSearch.Pattern.Node

namespace HeaderSearch.Pattern

/-- A mark at each place of a text. -/
abbrev Marks := List Bool

def Marks.union (a b : Marks) : Marks := List.zipWith (· || ·) a b

/-- The places after a character that passes a test, of those before it that are marked. -/
def Marks.step (text : List Char) (passes : Char → Bool) (marks : Marks) : Marks :=
  false :: List.zipWith (fun mark c => mark && passes c) marks text

/-- Do something to marks `count` times, unless they stop changing before. -/
def Marks.iterate (step : Marks → Marks) : Nat → Marks → Marks
  | 0, marks => marks
  | count + 1, marks =>
    let next := step marks
    if next = marks then marks else iterate step count next

/-- Add to marks what a step makes of them up to `count` times, unless they stop changing before. -/
def Marks.spread (step : Marks → Marks) : Nat → Marks → Marks
  | 0, marks => marks
  | count + 1, marks =>
    let next := marks.union (step marks)
    if next = marks then marks else spread step count next

def isWordChar (c : Char) : Bool := c.isAlphanum || c = '_'

def WordLook.holds (look : WordLook) (before after : Bool) : Bool :=
  match look with
  | .boundary => before != after
  | .noBoundary => before == after
  | .start => !before && after
  | .finish => before && !after
  | .startHalf => !before
  | .finishHalf => !after

/-- Does the assertion hold between two characters, or at an end of the text? A line feed after a
carriage return begins no line, and the line ends before the carriage return. -/
def Look.holds (look : Look) (before? after? : Option Char) : Bool :=
  match look with
  | .textStart => before? = none
  | .textEnd => after? = none
  | .lineStart => before? = none || before? = some '\n'
  | .lineEnd => after? = none || after? = some '\n'
  | .returnLineStart =>
    before? = none || before? = some '\n' || (before? = some '\r' && after? ≠ some '\n')
  | .returnLineEnd =>
    after? = none || after? = some '\r' || (after? = some '\n' && before? ≠ some '\r')
  | .word kind _ => kind.holds (before?.any isWordChar) (after?.any isWordChar)

def Look.filter (look : Look) (text : List Char) (marks : Marks) : Marks :=
  let befores := none :: text.map some
  let afters := text.map some ++ [none]
  List.zipWith (· && ·) marks (List.zipWith look.holds befores afters)

mutual

/-- The places at which a match of a node may end, if it begins at a marked place. -/
def Node.reach (text : List Char) : Node → Marks → Marks
  | .empty, marks => marks
  | .text chars, marks => chars.foldl (fun marks c => marks.step text (· = c)) marks
  | .set _ ranges, marks => marks.step text ranges.holds
  | .look assertion, marks => assertion.filter text marks
  | .repeated _ least most? part, marks =>
    let marks := marks.iterate (part.reach text) least
    marks.spread (part.reach text) (match most? with
      | some most => most - least
      | none => text.length + 1)
  | .capture _ part, marks => part.reach text marks
  | .sequence parts, marks => reachAll text parts marks
  | .alternation parts, marks => reachAny text parts marks

def Node.reachAll (text : List Char) : List Node → Marks → Marks
  | [], marks => marks
  | part :: rest, marks => reachAll text rest (part.reach text marks)

def Node.reachAny (text : List Char) : List Node → Marks → Marks
  | [], marks => marks.map fun _ => false
  | part :: rest, marks => (part.reach text marks).union (reachAny text rest marks)

end

def Node.occursIn (node : Node) (text : List Char) : Bool :=
  (node.reach text (List.replicate (text.length + 1) true)).any id

end HeaderSearch.Pattern
