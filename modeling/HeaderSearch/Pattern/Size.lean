/-
# The size of a pattern

The machine of a pattern is built node by node, as far as its size depends on it. There are two
machines: one reads the text forward and captures, the other reads it backward and does not. Each
begins with the states that find where a match begins, unless that can only be at the end of the
text where the machine starts to read.
-/

import HeaderSearch.Pattern.Machine
import HeaderSearch.Pattern.Node
import HeaderSearch.Pattern.SetStates
import HeaderSearch.Pattern.Trie
import HeaderSearch.Text.Utf8

namespace HeaderSearch.Pattern

mutual

/-- Add the states for a node of a trie and for those below it. A block of branches is one state,
and so is the choice between the blocks and the ends of texts. -/
def Trie.build : Trie → Building Unit
  | .node closed current => do
    buildBlocks closed
    buildBlock current
    let filled := ((closed ++ [current]).filter (!·.isEmpty)).length
    Building.add 1 ((filled + closed.length) * branchSize)

def Trie.buildBlocks : List (List (UInt8 × Trie)) → Building Unit
  | [] => return
  | block :: rest => do
    buildBlock block
    buildBlocks rest

/-- Add the states for a block of branches and for what is below it. -/
def Trie.buildBlock (block : List (UInt8 × Trie)) : Building Unit := do
  buildBelow block
  match block with
  | [] => return
  | [_] => Building.add 1 0
  | block => Building.add 1 (block.length * byteLinkSize)

def Trie.buildBelow : List (UInt8 × Trie) → Building Unit
  | [] => return
  | (_, trie) :: rest => do
    if !trie.isLeaf then trie.build
    buildBelow rest

end

def Node.textBytes? : Node → Option (List UInt8)
  | .text chars => some (Utf8.encodeChars chars)
  | _ => none

mutual

/-- The part of a machine that matches a node. -/
def Node.part (backward : Bool) : Node → Part
  | .empty | .look _ => .states 1
  | .text chars => .states (textSize chars)
  | .set _ ranges => setPart backward ranges
  | .repeated _ least most? part =>
    (part.part backward).repeated (part.leastSize?.getD 0 = 0) least most?
  | .capture _ part => if backward then part.part backward else (part.part backward).captured
  | .sequence parts =>
    let parts := allParts backward parts
    .inRow (if backward then parts.reverse else parts)
  | .alternation parts =>
    match parts.mapM Node.textBytes? with
    | some texts => do
      let texts := if backward then texts.map List.reverse else texts
      Building.add 1 0
      (Trie.ofTexts texts).build
      return false
    | none => .anyOf (allParts backward parts)

def Node.allParts (backward : Bool) : List Node → List Part
  | [] => []
  | part :: rest => part.part backward :: allParts backward rest

end

mutual

/-- Can a match begin, or end if `backward` is set, only where the assertion holds? -/
def Node.isHeldBy (look : Look) (backward : Bool) : Node → Bool
  | .look other => other = look
  | .repeated _ least _ part => 0 < least && part.isHeldBy look backward
  | .capture _ part => part.isHeldBy look backward
  | .sequence parts =>
    if backward then isHeldByLast look parts else isHeldByFirst look parts
  | .alternation parts => areHeldBy look backward parts
  | _ => false

/-- Can a match of parts in a row begin only where the assertion holds? -/
def Node.isHeldByFirst (look : Look) : List Node → Bool
  | [] => false
  | part :: rest => part.isHeldBy look false || (part.isHollow && isHeldByFirst look rest)

/-- Can a match of parts in a row end only where the assertion holds? -/
def Node.isHeldByLast (look : Look) : List Node → Bool
  | [] => false
  | part :: rest =>
    isHeldByLast look rest || (Node.allHollow rest && part.isHeldBy look true)

/-- Can matches of all the parts begin, or end, only where the assertion holds? -/
def Node.areHeldBy (look : Look) (backward : Bool) : List Node → Bool
  | [] => true
  | part :: rest => part.isHeldBy look backward && areHeldBy look backward rest

end

/-- The machine for a part, if it is not too large. Before the part are the states that find where
a match begins, and one state after it is reached by a match. `held` says whether a match can
begin only at the end of the text where the machine starts to read. -/
def Machine.ofPart? (held : Bool) (part : Part) : Option Machine :=
  let building : Building Unit := do
    if held then Building.add 1 0 else Building.add 3 (byteLinkSize + 2 * branchSize)
    Building.link (← part)
    Building.add 1 0
  (building.run ⟨0, 0⟩).map (·.2)

def Node.forward? (node : Node) : Option Machine :=
  Machine.ofPart? (node.isHeldBy .textStart false) (node.part false).captured

def Node.backward? (node : Node) : Option Machine :=
  Machine.ofPart? (node.isHeldBy .textEnd true) (node.part true)

end HeaderSearch.Pattern
