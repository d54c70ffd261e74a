/-
# Sets of characters

A set of characters is kept as ranges of code points in ascending order and apart from each
other, so equal sets have equal ranges. Only a complement may have ranges that meet, and only at
the surrogates: what is added to a set is joined with it. Beside its members a set knows whether
it is sure to be closed under a change of case: the empty set is, its complement is, and what is
made of such sets is. Nothing is known about other sets, for want of tables.
-/

import HeaderSearch.Text.CodeRange

namespace HeaderSearch.Pattern

/-- Add a range to ranges in ascending order and apart. It is joined with those that it overlaps
or meets. -/
def addRange (range : Nat × Nat) : Text.CodeRanges → Text.CodeRanges
  | [] => [range]
  | next :: rest =>
    if range.2 + 1 < next.1 then range :: next :: rest
    else if next.2 + 1 < range.1 then next :: addRange range rest
    else addRange (min range.1 next.1, max range.2 next.2) rest

/-- The code points of ranges in any order, as ranges in ascending order and apart. -/
def normalRanges (ranges : Text.CodeRanges) : Text.CodeRanges :=
  ranges.foldl (fun normal range => addRange range normal) []

/-- What the codes in a set stand for: bytes, or characters, which have no surrogates among them. -/
inductive Alphabet where
  | bytes
  | characters
  deriving DecidableEq, Repr

namespace Alphabet

def greatest : Alphabet → Nat
  | .bytes => 0xFF
  | .characters => 0x10FFFF

def after : Alphabet → Nat → Nat
  | .bytes, code => code + 1
  | .characters, code => if code = 0xD7FF then 0xE000 else code + 1

def before : Alphabet → Nat → Nat
  | .bytes, code => code - 1
  | .characters, code => if code = 0xE000 then 0xD7FF else code - 1

end Alphabet

/-- The ranges after the code `last` that lie between ranges in ascending order. Between ranges
that have only the surrogates between them lies the range of the codes on both sides of these. -/
def gapsAfter (alphabet : Alphabet) (last : Nat) : Text.CodeRanges → Text.CodeRanges
  | [] => if last < alphabet.greatest then [(alphabet.after last, alphabet.greatest)] else []
  | range :: rest =>
    let a := alphabet.after last
    let b := alphabet.before range.1
    (min a b, max a b) :: gapsAfter alphabet range.2 rest

/-- The ranges before, between and after ranges in ascending order and apart. -/
def gaps (alphabet : Alphabet) : Text.CodeRanges → Text.CodeRanges
  | [] => [(0, alphabet.greatest)]
  | range :: rest =>
    (if 0 < range.1 then [(0, alphabet.before range.1)] else []) ++
      gapsAfter alphabet range.2 rest

/-- On both sides of the surrogates a range that meets its neighbours is left. -/
example : gaps .characters [(0xD7FF, 0xD7FF), (0xE000, 0xE000)] =
    [(0, 0xD7FE), (0xD7FF, 0xE000), (0xE001, 0x10FFFF)] := by decide

/-- What is left of a range of characters without ranges in ascending order. -/
def rangeWithout (low high : Nat) : Text.CodeRanges → Text.CodeRanges
  | [] => if low ≤ high then [(low, high)] else []
  | range :: rest =>
    (if low < range.1 && low ≤ high then [(low, min high (Alphabet.characters.before range.1))]
      else []) ++
      rangeWithout (max low (Alphabet.characters.after range.2)) high rest

def commonRanges (a b : Text.CodeRanges) : Text.CodeRanges :=
  normalRanges (a.flatMap fun x => b.filterMap fun y =>
    let low := max x.1 y.1
    let high := min x.2 y.2
    if low ≤ high then some (low, high) else none)

/-- A set of characters, its code points in ascending order. If it is `caseClosed`, it is known to
have each letter in both cases or in none. -/
structure CharSet where
  ranges : Text.CodeRanges
  caseClosed : Bool
  deriving DecidableEq, Repr

namespace CharSet

def empty : CharSet := ⟨[], true⟩

def ofRanges (ranges : Text.CodeRanges) : CharSet := ⟨normalRanges ranges, ranges.isEmpty⟩

def insertRange (set : CharSet) (low high : Nat) : CharSet :=
  ⟨addRange (low, high) set.ranges, false⟩

def union (a b : CharSet) : CharSet :=
  if b.ranges = [] || a.ranges = b.ranges then a
  else ⟨normalRanges (a.ranges ++ b.ranges), a.caseClosed && b.caseClosed⟩

def intersection (a b : CharSet) : CharSet :=
  if a.ranges = [] then a
  else if b.ranges = [] then empty
  else ⟨commonRanges a.ranges b.ranges, a.caseClosed && b.caseClosed⟩

def difference (a b : CharSet) : CharSet :=
  if a.ranges = [] || b.ranges = [] then a
  else
    ⟨a.ranges.flatMap fun range => rangeWithout range.1 range.2 b.ranges,
      a.caseClosed && b.caseClosed⟩

def symmetricDifference (a b : CharSet) : CharSet := (a.union b).difference (a.intersection b)

/-- The codes of an alphabet that are not in the set. -/
def complement (set : CharSet) (alphabet : Alphabet) : CharSet :=
  ⟨gaps alphabet set.ranges, set.caseClosed || set.ranges.isEmpty⟩

/-- The set with each ASCII letter in both cases. -/
def withAsciiCases (set : CharSet) : CharSet :=
  let lower := (commonRanges set.ranges [(0x41, 0x5A)]).map fun r => (r.1 + 0x20, r.2 + 0x20)
  let upper := (commonRanges set.ranges [(0x61, 0x7A)]).map fun r => (r.1 - 0x20, r.2 - 0x20)
  ⟨normalRanges (set.ranges ++ lower ++ upper), true⟩

def isAscii (set : CharSet) : Bool := set.ranges.all (·.2 ≤ 0x7F)

end CharSet

end HeaderSearch.Pattern
