/-
# The beginning of a group

A parenthesis opens a group that captures, one that captures under a name, or one with flags; or
it only sets flags for the rest of the group that it stands in.
-/

import HeaderSearch.Pattern.Cursor
import HeaderSearch.Text.Letter

namespace HeaderSearch.Pattern

def isNameChar (first : Bool) (c : Char) : Bool :=
  if first then c = '_' || Text.isLetter c
  else c = '_' || c = '.' || c = '[' || c = ']' || Text.isLetter c || Text.isNumber c

def lookAroundSigns : List (List Char) :=
  [['?', '='], ['?', '!'], ['?', '<', '='], ['?', '<', '!']]

/-- Flags with their signs: a flag, or `none` for the sign that turns the flags after it off. -/
abbrev FlagItems := List (Option Flag × Span)

def FlagItems.changes (items : FlagItems) : FlagChanges :=
  let kinds := items.map (·.1)
  (kinds.takeWhile Option.isSome).filterMap (·.map (·, true)) ++
    (kinds.dropWhile Option.isSome).filterMap (·.map (·, false))

/-- What a parenthesis begins: a group, or nothing if it only sets flags. -/
inductive GroupStart where
  | flags (changes : FlagChanges)
  | group (kind : GroupKind)

namespace Read

def flagItem (c : Char) : Read (Option Flag) := do
  if c = '-' then return none
  match Flag.ofLetter? c with
  | some flag => return some flag
  | none => fail .flagUnknown (← nextSpan)

/-- Read flags up to the sign that ends them; at most `limit` letters and signs. -/
def flagItems (items : FlagItems) : Nat → Read FlagItems
  | 0 => return items
  | limit + 1 => do
    match ← next? with
    | none => fail .flagsUnfinished (← here)
    | some c =>
      if c = ':' || c = ')' then return items
      let item ← flagItem c
      let span ← nextSpan
      match items.lookup item with
      | some earlier =>
        let kind : MistakeKind := if item.isNone then .negationRepeated else .flagRepeated
        throw ⟨kind, span, some earlier⟩
      | none =>
        bump
        if ← isDone then fail .flagsUnfinished (← here)
        flagItems (items ++ [(item, span)]) limit

/-- Read flags after the sign that begins them, and the sign that ends them. -/
def flagGroup (opened question : Span) : Read GroupStart := do
  if ← isDone then fail .groupUnclosed opened
  let items ← flagItems [] (← get).rest.length
  if let some (none, span) := items.getLast? then fail .negationDangling span
  let closing ← next?
  bump
  if closing = some ')' then
    if items = [] then fail .nothingToRepeat question
    return .flags items.changes
  else return .group (.flags items.changes)

/-- Read characters of a name up to the sign that ends it; at most `limit`. -/
def nameChars (first : Bool) : Nat → Read (List Char)
  | 0 => return []
  | limit + 1 => do
    match ← next? with
    | none => fail .nameUnfinished (← here)
    | some c =>
      if c = '>' then return []
      unless isNameChar first c do fail .nameCharacter (← nextSpan)
      bump
      return c :: (← nameChars false limit)

/-- Read the name of a group, and the sign that ends it. No two groups have the same name. -/
def groupName : Read Unit := do
  let start ← position
  let name ← nameChars true ((← get).rest.length + 1)
  let span ← since start
  bump
  if name = [] then fail .nameEmpty span
  match (← get).names.lookup name with
  | some earlier => throw ⟨.nameRepeated, span, some earlier⟩
  | none => modify fun cursor => { cursor with names := (name, span) :: cursor.names }

def capture : Read GroupStart := do
  modify fun cursor => { cursor with captures := cursor.captures + 1 }
  return .group (.capture (← get).captures)

def groupStart : Read GroupStart := do
  let opened ← nextSpan
  bump
  skipBlanks
  for signs in lookAroundSigns do
    if ← take? signs then fail .lookAround (← since opened.start)
  let question ← here
  if ← take? ['?', 'P', '<'] then
    groupName
    capture
  else if ← take? ['?', '<'] then
    groupName
    capture
  else if ← take? ['?'] then flagGroup opened question
  else capture

end Read

end HeaderSearch.Pattern
