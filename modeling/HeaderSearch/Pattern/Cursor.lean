/-
# Reading a pattern

A pattern is read from front to back by small readers, each of which takes characters off the
front, keeps track of the position, and stops with the first mistake. In verbose mode blanks and
comments between the parts of a pattern are skipped.
-/

import HeaderSearch.Pattern.Mistake
import HeaderSearch.Pattern.Written

namespace HeaderSearch.Pattern

/-- How far a pattern has been read: what is left and where that begins, whether blanks and comments
are skipped, the names of groups so far with their places, and the number of capturing groups so
far. -/
structure Cursor where
  rest : List Char
  position : Position
  verbose : Bool
  names : List (List Char × Span)
  captures : Nat

namespace Cursor

def start (pattern : List Char) : Cursor := ⟨pattern, .start, false, [], 0⟩

def bump (cursor : Cursor) : Cursor :=
  match cursor.rest with
  | [] => cursor
  | c :: rest => { cursor with rest, position := cursor.position.after c }

/-- What is left after blanks and comments, and where it begins. A comment goes from `#` to the
end of its line. -/
def dropBlanks (inComment : Bool) : List Char → Position → List Char × Position
  | [], position => ([], position)
  | c :: rest, position =>
    if inComment then dropBlanks (c ≠ '\n') rest (position.after c)
    else if Text.isBlank c then dropBlanks false rest (position.after c)
    else if c = '#' then dropBlanks true rest (position.after c)
    else (c :: rest, position)

/-- Take blanks and comments off in verbose mode. -/
def skipBlanks (cursor : Cursor) : Cursor :=
  if cursor.verbose then
    let (rest, position) := dropBlanks false cursor.rest cursor.position
    { cursor with rest, position }
  else cursor

/-- The first character that is not blank. One comment sign counts as a blank. -/
def firstVisible? (inComment : Bool) : List Char → Option Char
  | [] => none
  | c :: rest =>
    if Text.isBlank c then firstVisible? inComment rest
    else if !inComment && c = '#' then firstVisible? true rest
    else some c

/-- The character after the next one; in verbose mode, a visible one if there is any. -/
def following? (cursor : Cursor) : Option Char :=
  let rest := cursor.rest.drop 1
  if cursor.verbose then (firstVisible? false rest).or rest.head? else rest.head?

end Cursor

/-- A reader: it moves the cursor on, or stops with a mistake. -/
abbrev Read := StateT Cursor (Except Mistake)

namespace Read

def next? : Read (Option Char) := return (← get).rest.head?

def isDone : Read Bool := return (← get).rest.isEmpty

def position : Read Position := return (← get).position

/-- The empty span before the next character. -/
def here : Read Span := return .empty (← position)

/-- The span from a place to the next character. -/
def since (start : Position) : Read Span := return ⟨start, ← position⟩

def nextSpan : Read Span := do
  let cursor ← get
  return ⟨cursor.position, cursor.bump.position⟩

def fail {α : Type} (kind : MistakeKind) (span : Span) : Read α := throw ⟨kind, span, none⟩

def bump : Read Unit := modify Cursor.bump

/-- Take blanks and comments off in verbose mode. -/
def skipBlanks : Read Unit := modify Cursor.skipBlanks

/-- Take one character off, and the blanks and comments after it. Is anything left? -/
def advance : Read Bool := do
  bump
  skipBlanks
  return !(← isDone)

/-- Take a text off if it is next. Was it? -/
def take? (text : List Char) : Read Bool := do
  if text.isPrefixOf (← get).rest then
    text.forM fun _ => bump
    return true
  else return false

/-- Take characters off as long as they pass a test, each with the blanks after it. Not more than
`limit` of them are taken. -/
def collectUpTo (passes : Char → Bool) : Nat → Read (List Char)
  | 0 => return []
  | limit + 1 => do
    match ← next? with
    | some c =>
      if passes c then
        discard advance
        return c :: (← collectUpTo passes limit)
      else return []
    | none => return []

/-- Take characters off as long as they pass a test, each with the blanks after it. -/
def collect (passes : Char → Bool) : Read (List Char) := do
  collectUpTo passes (← get).rest.length

end Read

end HeaderSearch.Pattern
