/-
# What matches begin with

The bytes with which the matches of a node may begin are listed, in the order in which the
alternatives are preferred, as long as they are few and short. Where the list would become too
long, nothing is known; where a text would become too long, or could be repeated more often, only
its beginning is kept.
-/

import HeaderSearch.Pattern.Node
import HeaderSearch.Text.Utf8

namespace HeaderSearch.Pattern

/-- The first bytes of a match. If it is `whole`, these are all of its bytes. -/
structure Beginning where
  bytes : List UInt8
  whole : Bool
  deriving DecidableEq, Repr

namespace Beginning

def asPart (beginning : Beginning) : Beginning := { beginning with whole := false }

def shorten (limit : Nat) (beginning : Beginning) : Beginning :=
  if beginning.bytes.length ≤ limit then beginning else ⟨beginning.bytes.take limit, false⟩

/-- Make one of neighbours with the same bytes. It is a whole match if all of them are. -/
def joinRepeated (beginnings : List Beginning) : List Beginning :=
  beginnings.foldr (fun beginning rest =>
    match rest with
    | [] => [beginning]
    | next :: others =>
      if beginning.bytes = next.bytes then ⟨next.bytes, beginning.whole && next.whole⟩ :: others
      else beginning :: rest) []

def greatestCount : Nat := 250

def greatestLength : Nat := 100

/-- The greatest set whose characters are listed. -/
def greatestSet : Nat := 10

/-- The greatest number of rounds of a repetition that are listed. -/
def greatestRounds : Nat := 10

end Beginning

/-- What matches may begin with, if it is known. Earlier ones are preferred. -/
abbrev Beginnings := Option (List Beginning)

namespace Beginnings

open Beginning

/-- The only beginning of matches that are all the same. -/
def only (bytes : List UInt8) : Beginnings := some [shorten greatestLength ⟨bytes, true⟩]

def asParts (beginnings : Beginnings) : Beginnings := beginnings.map fun list => list.map asPart

/-- Is it settled that whatever follows makes no difference? -/
def areSettled (beginnings : Beginnings) : Bool :=
  beginnings.all fun list => list.all (!·.whole)

/-- The beginnings of one kind of match or another. If there are too many, at most four bytes of
each are kept. -/
def either (a b : Beginnings) : Beginnings := do
  let first ← a
  let second ← b
  if first.length + second.length ≤ Beginning.greatestCount then
    return joinRepeated (first ++ second)
  let first := joinRepeated (first.map (shorten 4))
  let second := joinRepeated (second.map (shorten 4))
  if first.length + second.length ≤ Beginning.greatestCount then
    return joinRepeated (first ++ second)
  none

/-- The beginnings of matches that are followed by others. If too much may follow, then only
empty matches make the beginnings unknown. -/
def followedBy (a b : Beginnings) : Beginnings := do
  let first ← a
  let joined ← match b.filter fun second =>
      first.length * second.length ≤ Beginning.greatestCount with
    | none => if first.any (·.bytes.isEmpty) then none else some (first.map asPart)
    | some second => some (joinRepeated (first.flatMap fun beginning =>
        if beginning.whole then
          second.map fun next => ⟨beginning.bytes ++ next.bytes, next.whole⟩
        else [beginning]))
  return joined.map (shorten greatestLength)

def followedTimes (a b : Beginnings) : Nat → Beginnings
  | 0 => a
  | count + 1 => if a.areSettled then a else followedTimes (a.followedBy b) b count

def repeated (beginnings : Beginnings) (greedy : Bool) (least : Nat) (most? : Option Nat) :
    Beginnings :=
  if least = 0 then
    let once := if most? = some 1 then beginnings else beginnings.asParts
    if greedy then once.either (only []) else (only []).either once
  else
    let rounds := (only []).followedTimes beginnings (min least greatestRounds)
    if most? = some least && least ≤ greatestRounds then rounds else rounds.asParts

/-- The characters of a set, unless there are too many. -/
def ofRanges (ranges : Text.CodeRanges) : Beginnings :=
  let sizes := ranges.map fun range => range.2 + 1 - range.1
  if greatestSet < sizes.foldr (· + ·) 0 then none
  else
    let codes := ranges.flatMap fun range => List.range' range.1 (range.2 + 1 - range.1)
    some (codes.map fun code => ⟨Utf8.encodeChars [Char.ofNat code], true⟩)

end Beginnings

mutual

/-- What the matches of a node begin with. -/
def Node.beginnings : Node → Beginnings
  | .empty | .look _ => .only []
  | .text chars => .only (Utf8.encodeChars chars)
  | .set _ ranges => .ofRanges ranges
  | .repeated greedy least most? part => part.beginnings.repeated greedy least most?
  | .capture _ part => part.beginnings
  | .sequence parts => beginningsOfRow (.only []) parts
  | .alternation parts => beginningsOfAny (some []) parts

def Node.beginningsOfRow (before : Beginnings) : List Node → Beginnings
  | [] => before
  | part :: rest =>
    if before.areSettled then before
    else beginningsOfRow (before.followedBy part.beginnings) rest

def Node.beginningsOfAny (others : Beginnings) : List Node → Beginnings
  | [] => others
  | part :: rest => beginningsOfAny (others.either part.beginnings) rest

end

end HeaderSearch.Pattern
