/-
# Machines

A pattern is matched by a machine of states and of transitions between them, and it is refused if
the machine would be too large. So of a machine only that is kept on which its size depends: how
many states it has, and how many bytes the transitions take that are not part of a state. The
states are numbered in the order in which they are added, and the building stops when the machine
has become too large.

A part of a machine is linked to what follows it at its last state. If that state branches, the
link is one more transition.
-/

namespace HeaderSearch.Pattern

/-- The bytes of a state. -/
def stateSize : Nat := 32

def byteLinkSize : Nat := 8

def branchSize : Nat := 4

def greatestSize : Nat := 10 * 0x100000

/-- A machine, as far as its size depends on it: the number of its states, which is also the number
of the next one, and the bytes of the transitions that are not part of a state. -/
structure Machine where
  states : Nat
  links : Nat
  deriving DecidableEq, Repr

def Machine.size (machine : Machine) : Nat := machine.states * stateSize + machine.links

/-- A step in the building of a machine. It fails if the machine becomes too large. -/
abbrev Building := StateT Machine Option

/-- A part of a machine: the step that adds its states and says whether the last of them
branches. -/
abbrev Part := Building Bool

namespace Building

/-- Add states with so many bytes of transitions, or only the transitions. -/
def add (states links : Nat) : Building Unit := fun machine =>
  let larger : Machine := ⟨machine.states + states, machine.links + links⟩
  if larger.size ≤ greatestSize then some ((), larger) else none

def nextState : Building Nat := fun machine => some (machine.states, machine)

/-- Link a last state to what follows it. -/
def link (branches : Bool) : Building Unit := add 0 (if branches then branchSize else 0)

end Building

namespace Part

open Building

def states (count : Nat) : Part := do
  add count 0
  return false

/-- Parts one after the other. In place of no part there is one state. -/
def inRow : List Part → Part
  | [] => states 1
  | first :: rest => do
    let branches ← first
    rest.foldlM (fun branches part => do
      link branches
      part) branches

/-- A part `count` times after a last state. -/
def again (part : Part) (branches : Bool) : Nat → Part
  | 0 => return branches
  | count + 1 => do
    link branches
    again part (← part) count

def times (part : Part) : Nat → Part
  | 0 => states 1
  | count + 1 => do again part (← part) count

/-- After a last state, a part that is matched up to `count` times. Each time a state branches
around it. -/
def upTo (part : Part) (branches : Bool) : Nat → Building Unit
  | 0 => link branches
  | count + 1 => do
    link branches
    add 1 (2 * branchSize)
    upTo part (← part) count

/-- A part that is left out or matched once. -/
def optional (part : Part) : Part := do
  add 1 (2 * branchSize)
  link (← part)
  states 1

/-- A part that is left out or matched any number of times. If it may match nothing, then besides
the state that branches after it there is one that branches around it. -/
def star (part : Part) (hollow : Bool) : Part :=
  if hollow then do
    link (← part)
    add 2 (4 * branchSize)
    states 1
  else do
    add 1 branchSize
    link (← part)
    return true

/-- A part that is matched several times or more often. -/
def orMore (part : Part) (least : Nat) : Part := do
  link (← part.times least)
  add 1 branchSize
  return true

/-- A part that is matched at least `least` and at most `most` times, which are not equal. -/
def between (part : Part) (least most : Nat) : Part := do
  let branches ← part.times least
  add 1 0
  part.upTo branches (most - least)
  return false

/-- A part that is repeated. `hollow` says whether it may match nothing. -/
def repeated (part : Part) (hollow : Bool) (least : Nat) (most? : Option Nat) : Part :=
  match least, most? with
  | 0, some 1 => part.optional
  | 0, none => part.star hollow
  | least, none => part.orMore least
  | least, some most => if least = most then part.times least else part.between least most

/-- A part that is captured: there is a state before it and one after it. -/
def captured (part : Part) : Part := do
  add 1 0
  link (← part)
  states 1

def branch (part : Part) : Building Unit := do
  let branches ← part
  add 0 branchSize
  link branches

/-- Parts of which one is matched. The state that branches is added after the first two. -/
def anyOf : List Part → Part
  | [] => states 1
  | [part] => part
  | first :: second :: rest => do
    first.branch
    second.branch
    add 2 0
    rest.forM branch
    return false

end Part

end HeaderSearch.Pattern
