/-
# The meaning of a pattern

The written form of a pattern is read from left to right with the flags in force, which gives the
tree of what it matches. Patterns are about characters unless the flag for Unicode is off, and
then they are about bytes, but even then they have to match text.

There are no tables of Unicode properties here. Digits, blanks and word characters, properties,
and letters in either case have a meaning only with the flag for Unicode off, where they are those
of ASCII. Everything else is a mistake that says which table is missing.
-/

import HeaderSearch.Pattern.Mistake
import HeaderSearch.Pattern.Node
import HeaderSearch.Pattern.Written

namespace HeaderSearch.Pattern

/-- The flags in force. That blanks and comments are skipped is no matter of meaning. -/
structure Flags where
  eitherCase : Bool
  lines : Bool
  dotAll : Bool
  swapGreed : Bool
  unicode : Bool
  returns : Bool
  deriving DecidableEq, Repr

namespace Flags

def start : Flags := ⟨false, false, false, false, true, false⟩

def set (flags : Flags) : Flag → Bool → Flags
  | .eitherCase, on => { flags with eitherCase := on }
  | .lines, on => { flags with lines := on }
  | .dotAll, on => { flags with dotAll := on }
  | .swapGreed, on => { flags with swapGreed := on }
  | .unicode, on => { flags with unicode := on }
  | .returns, on => { flags with returns := on }
  | .verbose, _ => flags

def change (flags : Flags) (changes : FlagChanges) : Flags :=
  changes.foldl (fun flags change => flags.set change.1 change.2) flags

def inGroup (flags : Flags) : GroupKind → Flags
  | .capture _ => flags
  | .flags changes => flags.change changes

def alphabet (flags : Flags) : Alphabet := if flags.unicode then .characters else .bytes

end Flags

def mistaken {α : Type} (kind : MistakeKind) (span : Span) : Except Mistake α :=
  .error ⟨kind, span, none⟩

/-- The character that is written: a byte beyond ASCII is no character. -/
def Literal.character (literal : Literal) (flags : Flags) : Except Mistake Char :=
  if !flags.unicode && literal.isByte && '\x7f' < literal.char then mistaken .notText literal.span
  else .ok literal.char

/-- The code point of a member of a set. Sets of bytes have no characters beyond ASCII. -/
def Literal.memberCode (literal : Literal) (flags : Flags) : Except Mistake Nat := do
  let c ← literal.character flags
  if !flags.unicode && '\x7f' < c then mistaken .unicodeOff literal.span else return c.toNat

/-- What a character matches. Without the flag for Unicode only the letters of ASCII are matched in
either case, and other characters as they are. -/
def Literal.meaning (literal : Literal) (flags : Flags) : Except Mistake Node := do
  let c ← literal.character flags
  if !flags.eitherCase then return .text [c]
  else if flags.unicode then mistaken .caseUnknown literal.span
  else if c.isAlpha then
    return .ofSet .bytes (CharSet.ofRanges [(c.toNat, c.toNat)]).withAsciiCases
  else return .text [c]

/-- A set with letters in either case, if the flags ask for it. -/
def CharSet.inCase (set : CharSet) (flags : Flags) (span : Span) : Except Mistake CharSet :=
  if !flags.eitherCase then .ok set
  else if !flags.unicode then .ok set.withAsciiCases
  else if set.caseClosed || set.ranges = [] then .ok { set with caseClosed := true }
  else mistaken .caseUnknown span

/-- A set that is written as a whole: with letters in either case, if the flags ask for it, then
all others instead if it is negated. A set of bytes must not have members beyond ASCII. -/
def CharSet.completed (set : CharSet) (flags : Flags) (span : Span) (negated : Bool) :
    Except Mistake CharSet := do
  let set ← set.inCase flags span
  let set := if negated then set.complement flags.alphabet else set
  if !flags.unicode && !set.isAscii then mistaken .notText span else return set

def ClassOp.apply (op : ClassOp) (left right : CharSet) : CharSet :=
  match op with
  | .intersection => left.intersection right
  | .difference => left.difference right
  | .symmetricDifference => left.symmetricDifference right

/-- A name of a property without what does not matter in it: case, blanks, hyphens, underscores,
characters beyond ASCII, and the word "is" at the beginning. -/
def normalName (name : List Char) : List Char :=
  let relevant (text : List Char) : List Char :=
    (text.filter fun c => c ≤ '\x7f' && !(" _-".toList.contains c)).map Char.toLower
  let isPrefixed := (name.take 2).map Char.toLower = ['i', 's']
  if isPrefixed then
    let rest := relevant (name.drop 2)
    if rest = ['c'] then ['i', 's', 'c'] else rest
  else relevant name

/-- The names that are taken for the value of a property and not for a property. -/
def valueNames : List (List Char) := [['c', 'f'], ['s', 'c'], ['l', 'c']]

def propertyMistake (flags : Flags) (query : List Char) : MistakeKind :=
  if !flags.unicode then .unicodeOff
  else if valueNames.contains (normalName query) then .propertyValueUnknown
  else .propertyUnknown

mutual

/-- Add the members of a set as it is written to a set. -/
def CharClass.addTo (flags : Flags) (set : CharSet) : CharClass → Except Mistake CharSet
  | .empty _ => .ok set
  | .literal value => do
    let code ← value.memberCode flags
    return set.insertRange code code
  | .range _ first last => do
    let low ← first.memberCode flags
    let high ← last.memberCode flags
    return set.insertRange low high
  | .named span ranges negated =>
    return set.union (← (CharSet.ofRanges ranges).completed flags span negated)
  | .shorthand span kind negated =>
    if flags.unicode then mistaken .shorthandUnknown span
    else if negated then mistaken .notText span
    else .ok (set.union (.ofRanges kind.ranges))
  | .property span query => mistaken (propertyMistake flags query) span
  | .bracketed span negated contents => do
    let inner ← contents.addTo flags .empty
    return set.union (← inner.completed flags span negated)
  | .union _ members => CharClass.addAllTo flags set members
  | .combined _ op left right => do
    let leftSet ← left.addTo flags .empty
    let rightSet ← right.addTo flags .empty
    let rightSet ← rightSet.inCase flags right.span
    let leftSet ← leftSet.inCase flags left.span
    return set.union (op.apply leftSet rightSet)

def CharClass.addAllTo (flags : Flags) (set : CharSet) : List CharClass → Except Mistake CharSet
  | [] => .ok set
  | first :: rest => do CharClass.addAllTo flags (← first.addTo flags set) rest

end

/-- What a set matches. A set that is written between brackets is not added to another. -/
def CharClass.meaning (flags : Flags) (set : CharClass) : Except Mistake Node := do
  match set with
  | .bracketed span negated contents =>
    let inner ← contents.addTo flags .empty
    return .ofSet flags.alphabet (← inner.completed flags span negated)
  | set => return .ofSet flags.alphabet (← set.addTo flags .empty)

/-- The characters that end lines, which the dot does not match. -/
def Flags.lineEnds (flags : Flags) : Text.CodeRanges :=
  if flags.returns then [(0x0A, 0x0A), (0x0D, 0x0D)] else [(0x0A, 0x0A)]

def dotMeaning (flags : Flags) (span : Span) : Except Mistake Node :=
  if !flags.unicode then mistaken .notText span
  else .ok (.set .characters (gaps .characters (if flags.dotAll then [] else flags.lineEnds)))

def Assertion.look (assertion : Assertion) (flags : Flags) : Look :=
  match assertion with
  | .lineStart =>
    if !flags.lines then .textStart else if flags.returns then .returnLineStart else .lineStart
  | .lineEnd =>
    if !flags.lines then .textEnd else if flags.returns then .returnLineEnd else .lineEnd
  | .textStart => .textStart
  | .textEnd => .textEnd
  | .boundary => .word .boundary flags.unicode
  | .noBoundary => .word .noBoundary flags.unicode
  | .wordStart => .word .start flags.unicode
  | .wordEnd => .word .finish flags.unicode
  | .wordStartHalf => .word .startHalf flags.unicode
  | .wordEndHalf => .word .finishHalf flags.unicode

mutual

/-- What a pattern matches, and the flags in force after it. -/
def Written.meaning (flags : Flags) : Written → Except Mistake (Node × Flags)
  | .empty _ => .ok (.empty, flags)
  | .flags _ changes => .ok (.empty, flags.change changes)
  | .literal value => return (← value.meaning flags, flags)
  | .dot span => return (← dotMeaning flags span, flags)
  | .assertion _ kind => .ok (.look (kind.look flags), flags)
  | .charClass set => return (← set.meaning flags, flags)
  | .repeated _ greedy least most? part => do
    let (node, flags) ← part.meaning flags
    return (.times (greedy != flags.swapGreed) least most? node, flags)
  | .group _ kind part => do
    let (node, _) ← part.meaning (flags.inGroup kind)
    match kind with
    | .capture index => return (.capture index node, flags)
    | .flags _ => return (node, flags)
  | .alternation _ parts => do
    let (nodes, flags) ← Written.allMeanings flags parts
    return (.inAlternation nodes, flags)
  | .sequence _ parts => do
    let (nodes, flags) ← Written.allMeanings flags parts
    return (.inSequence nodes, flags)

def Written.allMeanings (flags : Flags) : List Written → Except Mistake (List Node × Flags)
  | [] => .ok ([], flags)
  | part :: rest => do
    let (node, flags) ← part.meaning flags
    let (nodes, flags) ← Written.allMeanings flags rest
    return (node :: nodes, flags)

end

end HeaderSearch.Pattern
