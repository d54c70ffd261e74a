/-
# Reading a whole pattern

A pattern is a sequence of parts, or several sequences with bars between them; a part in
parentheses is a pattern again. A repetition sign applies to the part before it.
-/

import HeaderSearch.Pattern.Bracket
import HeaderSearch.Pattern.Group

namespace HeaderSearch.Pattern

/-- What has been read of a pattern, or of what is in a pair of parentheses: the alternatives before
the last bar and the parts after it, latest first, with the places where they begin. -/
structure Body where
  start : Position
  alternatives : List Written
  partsStart : Position
  parts : List Written

namespace Body

def empty (start : Position) : Body := ⟨start, [], start, []⟩

def push (body : Body) (part : Written) : Body := { body with parts := part :: body.parts }

/-- The parts after the last bar as one part. -/
def lastAlternative (body : Body) (finish : Position) : Written :=
  match body.parts with
  | [] => .empty ⟨body.partsStart, finish⟩
  | [part] => part
  | latest => .sequence ⟨body.partsStart, finish⟩ latest.reverse

def close (body : Body) (finish : Position) : Written :=
  let last := body.lastAlternative finish
  if body.alternatives.isEmpty then last
  else .alternation ⟨body.start, finish⟩ (last :: body.alternatives).reverse

end Body

def greatestCount : Nat := 0xFFFFFFFF

namespace Read

/-- The part that a repetition sign applies to, and the parts before it. -/
def repeatable (body : Body) : Read (Written × List Written) := do
  match body.parts with
  | [] | .flags _ _ :: _ => fail .nothingToRepeat (← here)
  | part :: before => return (part, before)

def lazyMark : Read Bool := take? ['?']

/-- Read a repetition sign of one character. -/
def repetition (body : Body) (least : Nat) (most? : Option Nat) : Read Body := do
  let (part, before) ← repeatable body
  bump
  let few ← lazyMark
  let span ← since part.span.start
  return { body with parts := .repeated span (!few) least most? part :: before }

/-- Read a number, and blanks on both sides of it. A mistake in it is returned, because another
one may count before it. -/
def number : Read (Except Mistake Nat) := do
  discard (collect Text.isBlank)
  let start ← position
  let digits ← collect Char.isDigit
  let span ← since start
  discard (collect Text.isBlank)
  let value := digits.foldl (fun value digit => 10 * value + (digit.toNat - 0x30)) 0
  if digits = [] then return .error ⟨.countEmpty, span, none⟩
  else if greatestCount < value then return .error ⟨.numberTooLarge, span, none⟩
  else return .ok value

/-- Read the counts of a repetition: a number, a number and a comma, or two with a comma between
them. -/
def counts (opened : Position) : Read (Nat × Option Nat) := do
  let least ← number
  if ← isDone then fail .countUnclosed (← since opened)
  if (← next?) = some ',' then
    unless ← advance do fail .countUnclosed (← since opened)
    if (← next?) = some '\x7d' then return (← least, none)
    else
      let least ← least
      let most ← number
      return (least, some (← most))
  else
    let exactly ← least
    return (exactly, some exactly)

/-- Read a repetition with counts in braces. -/
def countedRepetition (body : Body) : Read Body := do
  let opened ← position
  let (part, before) ← repeatable body
  unless ← advance do fail .countUnclosed (← since opened)
  let (least, most?) ← counts opened
  if (← next?) ≠ some '\x7d' then fail .countUnclosed (← since opened)
  discard advance
  let few ← lazyMark
  if most?.any (· < least) then fail .countOrder (← since opened)
  let span ← since part.span.start
  return { body with parts := .repeated span (!few) least most? part :: before }

/-- Read a sign that stands between parts or for a part of its own. -/
def sign (body : Body) (c : Char) : Read Body := do
  match c with
  | '?' => repetition body 0 (some 1)
  | '*' => repetition body 0 none
  | '+' => repetition body 1 none
  | '\x7b' => countedRepetition body
  | '|' =>
    let alternative := body.lastAlternative (← position)
    bump
    let partsStart ← position
    return ⟨body.start, alternative :: body.alternatives, partsStart, []⟩
  | '[' => return body.push (.charClass (← bracketed))
  | '\\' => return body.push (← escape)
  | _ =>
    let literal ← verbatim
    return body.push (match c with
      | '.' => .dot literal.span
      | '^' => .assertion literal.span .lineStart
      | '$' => .assertion literal.span .lineEnd
      | _ => .literal literal)

def changeVerbose (changes : FlagChanges) : Read Unit :=
  modify fun cursor => { cursor with verbose := (changes.lookup .verbose).getD cursor.verbose }

/-- Read a pattern up to its end or to a closing parenthesis. At most `limit` steps are made; each
takes a character off at least. -/
def body (sofar : Body) : Nat → Read Written
  | 0 => return sofar.close (← position)
  | limit + 1 => do
    skipBlanks
    match ← next? with
    | none | some ')' => return sofar.close (← position)
    | some '(' =>
      let opened ← nextSpan
      match ← groupStart with
      | .flags changes =>
        changeVerbose changes
        body (sofar.push (.flags (← since opened.start) changes)) limit
      | .group kind =>
        let verbose := (← get).verbose
        if let .flags changes := kind then changeVerbose changes
        let inner ← body (.empty (← position)) limit
        if ← isDone then fail .groupUnclosed opened
        modify fun cursor => { cursor with verbose }
        bump
        body (sofar.push (.group (← since opened.start) kind inner)) limit
    | some c => body (← sign sofar c) limit

def pattern : Read Written := do
  let written ← body (.empty .start) ((← get).rest.length + 1)
  unless ← isDone do fail .groupUnopened (← nextSpan)
  return written

end Read

def Written.ofText (pattern : List Char) : Except Mistake Written :=
  return (← Read.pattern.run (.start pattern)).1

end HeaderSearch.Pattern
