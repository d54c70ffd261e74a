/-
# Tries of texts

Alternatives that are all texts are matched by a trie, a tree of their bytes in which texts that
begin alike share a path. Earlier alternatives are preferred: where a text ends, the branches that
later texts add to the same node are kept in a block of their own.
-/

namespace HeaderSearch.Pattern

/-- A node of a trie, with its branches in blocks. A block is closed where a text ends, and branches
are added to the last one. -/
inductive Trie where
  | node (closed : List (List (UInt8 × Trie))) (current : List (UInt8 × Trie))

namespace Trie

def empty : Trie := .node [] []

def isLeaf : Trie → Bool
  | .node closed current => closed.all List.isEmpty && current.isEmpty

def insert : List UInt8 → Trie → Trie
  | [], .node closed current =>
    if !closed.isEmpty && (node closed current).isLeaf then .node closed current
    else .node (closed ++ [current]) []
  | byte :: rest, .node closed current =>
    match current.lookup byte with
    | some below =>
      let below := insert rest below
      .node closed (current.map fun branch => if branch.1 = byte then (byte, below) else branch)
    | none => .node closed (current ++ [(byte, insert rest empty)])

def ofTexts (texts : List (List UInt8)) : Trie :=
  texts.foldl (fun trie text => trie.insert text) empty

end Trie

end HeaderSearch.Pattern
