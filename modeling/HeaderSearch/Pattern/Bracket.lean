/-
# Sets of characters in brackets

Between brackets stand characters, ranges, named sets, escapes for sets, further brackets, and
operators on what is left and right of them. All operators bind equally and to the left. A hyphen
stands for itself at the beginning, at the end and before another hyphen that is no operator; a
closing bracket does so only as the first character.
-/

import HeaderSearch.Pattern.Escape

namespace HeaderSearch.Pattern

/-- What has been read of a set since the last operator or bracket, with the latest member first. -/
structure Members where
  span : Span
  latest : List CharClass

namespace Members

def push (members : Members) (member : CharClass) : Members :=
  let start := if members.latest.isEmpty then member.span.start else members.span.start
  ⟨⟨start, member.span.finish⟩, member :: members.latest⟩

def toClass (members : Members) : CharClass :=
  match members.latest with
  | [] => .empty members.span
  | [member] => member
  | latest => .union members.span latest.reverse

end Members

/-- A set and an operator, which wait for the set on the right. -/
abbrev LeftSide := Option (CharClass × ClassOp)

def LeftSide.combine (left : LeftSide) (right : CharClass) : CharClass :=
  match left with
  | none => right
  | some (left, op) => .combined ⟨left.span.start, right.span.finish⟩ op left right

/-- The beginning of a set in brackets, up to the first character that is not part of it, with the
characters that stand for themselves only here. -/
structure Opening where
  span : Span
  negated : Bool
  members : Members

/-- The named set at the front of a text, if there is one: how many characters its name takes
with all its signs, its characters, and whether all others are meant. -/
def namedClass? : List Char → Option (Nat × Text.CodeRanges × Bool)
  | '[' :: ':' :: rest =>
    let negated := rest.head? = some '^'
    let rest := if negated then rest.drop 1 else rest
    let name := rest.takeWhile (· ≠ ':')
    if [':', ']'].isPrefixOf (rest.drop name.length) then
      (namedRanges.lookup (String.ofList name)).map fun ranges =>
        (name.length + (if negated then 5 else 4), ranges, negated)
    else none
  | _ => none

/-- The operator at the front of a text, if there is one. -/
def ClassOp.ofText? : List Char → Option ClassOp
  | '&' :: '&' :: _ => some .intersection
  | '-' :: '-' :: _ => some .difference
  | '~' :: '~' :: _ => some .symmetricDifference
  | _ => none

namespace Read

def verbatim : Read Literal := do
  let span ← nextSpan
  let c ← next?
  bump
  return ⟨span, c.getD '\x00', false⟩

/-- Read the hyphens at the beginning of a set that is opened at `start`; at most `limit`. -/
def hyphens (start : Position) (members : Members) : Nat → Read Members
  | 0 => return members
  | limit + 1 => do
    if (← next?) = some '-' then
      let member ← verbatim
      skipBlanks
      if ← isDone then fail .classUnclosed (.empty start)
      hyphens start (members.push (.literal member)) limit
    else return members

def opening : Read Opening := do
  let start ← position
  unless ← advance do fail .classUnclosed (← since start)
  let negated := (← next?) = some '^'
  if negated then
    unless ← advance do fail .classUnclosed (← since start)
  let members ← hyphens start ⟨← here, []⟩ (← get).rest.length
  if members.latest.isEmpty && (← next?) = some ']' then
    let member ← verbatim
    skipBlanks
    if ← isDone then fail .classUnclosed (← since start)
    return ⟨← since start, negated, members.push (.literal member)⟩
  else return ⟨← since start, negated, members⟩

/-- Read the named set that is next, if there is one. -/
def named? : Read (Option CharClass) := do
  let start ← position
  let rest := (← get).rest
  match namedClass? rest with
  | none => return none
  | some (length, ranges, negated) =>
    discard (take? (rest.take length))
    return some (.named (← since start) ranges negated)

def member : Read Written := do
  if (← next?) = some '\\' then escape else return .literal (← verbatim)

def asClass : Written → Read CharClass
  | .literal value => return .literal value
  | .charClass set => return set
  | other => fail .classEscape other.span

/-- What has been read, as an end of a range. -/
def asBound : Written → Read Literal
  | .literal value => return value
  | other => fail .rangeBound other.span

/-- Read a member or a range of the set that is opened at `opened`. -/
def memberOrRange (opened : Span) : Read CharClass := do
  let first ← member
  skipBlanks
  if ← isDone then fail .classUnclosed opened
  let following? := (← get).following?
  if (← next?) ≠ some '-' || following? = some ']' || following? = some '-' then asClass first
  else
    unless ← advance do fail .classUnclosed opened
    let last ← member
    let span : Span := ⟨first.span.start, last.span.finish⟩
    let low ← asBound first
    let high ← asBound last
    if high.char < low.char then fail .rangeOrder span
    return .range span low high

/-- Read what is in the brackets of a set that is opened at `opened`, up to its closing bracket.
At most `limit` steps are made; each takes a character off at least. -/
def contents (opened : Span) (left : LeftSide) (members : Members) : Nat → Read CharClass
  | 0 => fail .classUnclosed opened
  | limit + 1 => do
    skipBlanks
    match ← next? with
    | none => fail .classUnclosed opened
    | some ']' => return left.combine members.toClass
    | some '[' =>
      match ← named? with
      | some set => contents opened left (members.push set) limit
      | none =>
        let start ← position
        let inner ← opening
        let set ← contents inner.span none inner.members limit
        bump
        contents opened left (members.push (.bracketed (← since start) inner.negated set)) limit
    | some _ =>
      match ClassOp.ofText? (← get).rest with
      | some op =>
        bump
        bump
        contents opened (some (left.combine members.toClass, op)) ⟨← here, []⟩ limit
      | none =>
        let set ← memberOrRange opened
        contents opened left (members.push set) limit

def bracketed : Read CharClass := do
  let start ← position
  let inner ← opening
  let set ← contents inner.span none inner.members ((← get).rest.length + 1)
  bump
  return .bracketed (← since start) inner.negated set

end Read

end HeaderSearch.Pattern
