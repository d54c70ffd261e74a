/-
# States for sets of characters

A character beyond ASCII is read byte by byte, so a set is a machine of its own. If the text is
read forward, byte sequences that begin alike share states, and so do those that end alike. If it
is read backward, sequences that begin alike share states, because their first bytes are read
last. A state is shared if it is still in the table of states when it is needed again. The numbers
of states take part in the keys of that table, so the size of a set depends on where in the
machine it is.
-/

import HeaderSearch.Pattern.Machine
import HeaderSearch.Pattern.Sequences
import HeaderSearch.Pattern.SlotTable

namespace HeaderSearch.Pattern

/-- A step in the building of a machine with a table of states. -/
abbrev SharedBuilding := StateT SlotTable Building

/-- The number of the state for a key. If there is none in the table, a state is added with so
many bytes of transitions. -/
def sharedState (key : List UInt64) (links : Nat) : SharedBuilding UInt64 := do
  match (← get).find? key with
  | some number => return number
  | none =>
    let number := UInt64.ofNat (← Building.nextState)
    Building.add 1 links
    modify fun table => table.insert key number
    return number

/-- The state at which byte sequences begin that are read forward, after the states to which they
lead. `last` is the state to which complete sequences lead, and `depth` is at least the number of
bytes of each. -/
def forwardState (last : UInt64) : Nat → List ByteRanges → SharedBuilding UInt64
  | 0, _ => return last
  | depth + 1, sequences =>
    if sequences.all List.isEmpty then return last
    else do
      let groups := sequences.splitBy (·.head? = ·.head?)
      let links ← groups.mapM fun group => do
        let next ← forwardState last depth (group.map (·.drop 1))
        let range := ((group.head?.bind List.head?).getD (0, 0))
        return [UInt64.ofNat range.1, UInt64.ofNat range.2, next]
      sharedState links.flatten (links.length * byteLinkSize)

/-- The state at which a byte sequence begins that is read backward. -/
def backwardState (last : UInt64) (sequence : ByteRanges) : SharedBuilding UInt64 :=
  sequence.foldlM (fun next range =>
    sharedState [next, UInt64.ofNat range.1, UInt64.ofNat range.2] 0) last

/-- The states for byte sequences of at most four bytes that are read forward. -/
def forwardSequences (sequences : List ByteRanges) : Part := do
  let last ← Building.nextState
  Building.add 1 0
  let _ ← (forwardState (UInt64.ofNat last) 4 sequences).run (.empty 10000)
  return false

/-- The states for byte sequences that are read backward: one that branches, one at the end, and
those for the sequences. -/
def backwardSequences (sequences : List ByteRanges) : Part := do
  let first ← Building.nextState
  Building.add 2 0
  let _ ← (sequences.forM fun sequence => do
    let _ ← backwardState (UInt64.ofNat (first + 1)) sequence
    Building.add 0 branchSize).run (.empty 1000)
  return false

/-- The states for a set of characters. -/
def setPart (backward : Bool) (ranges : Text.CodeRanges) : Part :=
  if ranges.all (·.2 ≤ 0x7F) then do
    Building.add 2 (ranges.length * byteLinkSize)
    return false
  else if backward then backwardSequences (allByteSequences ranges)
  else forwardSequences (allByteSequences ranges)

end HeaderSearch.Pattern
