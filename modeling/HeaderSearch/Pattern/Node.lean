/-
# What a pattern matches

The meaning of a pattern is a tree of nodes: texts, sets of characters, assertions, and ways to
put them together. Trees are built by functions that simplify: neighbouring texts become one,
alternatives of single characters become a set, a sequence in a sequence is spread out, and
alternatives that begin alike share what they begin with. Groups leave a trace only if they
capture.
-/

import HeaderSearch.Pattern.CharSet

namespace HeaderSearch.Pattern

/-- An assertion about the word characters on both sides of a place. The halves look at one side
only, on which there must be none. -/
inductive WordLook where
  | boundary
  | noBoundary
  | start
  | finish
  | startHalf
  | finishHalf
  deriving DecidableEq, Repr

/-- An assertion about a place in the text: it begins or ends here, or a line does, which may end
with a carriage return or not, or a word, in ASCII or in Unicode. -/
inductive Look where
  | textStart
  | textEnd
  | lineStart
  | lineEnd
  | returnLineStart
  | returnLineEnd
  | word (kind : WordLook) (unicode : Bool)
  deriving DecidableEq, Repr

/-- What a pattern, or a part of one, matches. A text is not empty, a set was written as a set of
characters or of bytes, and a part is repeated as often as possible if it is `greedy`. -/
inductive Node where
  | empty
  | text (chars : List Char)
  | set (alphabet : Alphabet) (ranges : Text.CodeRanges)
  | look (look : Look)
  | repeated (greedy : Bool) (least : Nat) (most? : Option Nat) (part : Node)
  | capture (index : Nat) (part : Node)
  | sequence (parts : List Node)
  | alternation (parts : List Node)

def textSize (chars : List Char) : Nat := (chars.map Char.utf8Size).foldr (· + ·) 0

def codeSize (code : Nat) : Nat :=
  if code ≤ 0x7F then 1 else if code ≤ 0x7FF then 2 else if code ≤ 0xFFFF then 3 else 4

namespace Node

mutual

/-- The number of bytes of a shortest match, if there can be a match. -/
def leastSize? : Node → Option Nat
  | .empty | .look _ => some 0
  | .text chars => some (textSize chars)
  | .set _ ranges => (ranges.head?).map fun range => codeSize range.1
  | .repeated _ least _ part => part.leastSize?.map (· * least)
  | .capture _ part => part.leastSize?
  | .sequence parts => leastSum? parts
  | .alternation parts => leastOf? parts

def leastSum? : List Node → Option Nat
  | [] => some 0
  | part :: rest => do return (← part.leastSize?) + (← leastSum? rest)

def leastOf? : List Node → Option Nat
  | [] => none
  | [part] => part.leastSize?
  | part :: rest => do return min (← part.leastSize?) (← leastOf? rest)

end

mutual

/-- Does every match take no character? A part that never matches is not meant. -/
def isHollow : Node → Bool
  | .empty | .look _ => true
  | .text chars => chars.isEmpty
  | .set _ _ => false
  | .repeated _ _ most? part => most?.isSome && part.isHollow
  | .capture _ part => part.isHollow
  | .sequence parts => allHollow parts
  | .alternation parts => !parts.isEmpty && allHollow parts

def allHollow : List Node → Bool
  | [] => true
  | part :: rest => part.isHollow && allHollow rest

end

/-- A character of a set. A set of one character is that character, and the empty set is one of
bytes. -/
def ofSet (alphabet : Alphabet) (set : CharSet) : Node :=
  match set.ranges with
  | [] => .set .bytes []
  | [(low, high)] => if low = high then .text [Char.ofNat low] else .set alphabet set.ranges
  | ranges => .set alphabet ranges

/-- The parts of a sequence, or the node itself as the only part. -/
def parts : Node → List Node
  | .empty => []
  | .sequence parts => parts
  | node => [node]

/-- Put a node in front of parts, and join it with the first of them if both are texts. -/
def joinText (node : Node) (rest : List Node) : List Node :=
  match node, rest with
  | .text a, .text b :: rest => .text (a ++ b) :: rest
  | node, rest => node :: rest

def inSequence (nodes : List Node) : Node :=
  match (nodes.flatMap parts).foldr joinText [] with
  | [] => .empty
  | [node] => node
  | parts => .sequence parts

def alternatives : Node → List Node
  | .alternation parts => parts
  | node => [node]

/-- The code point of a text of one character, as a range. -/
def singleChar? : Node → Option (Nat × Nat)
  | .text [c] => some (c.toNat, c.toNat)
  | _ => none

def ranges? : Node → Option Text.CodeRanges
  | .set _ ranges => some ranges
  | _ => none

/-- One of several nodes. Single characters, and sets, are put together into one set. -/
def anyOf (nodes : List Node) : Node :=
  match nodes.flatMap alternatives with
  | [] => .set .bytes []
  | [node] => node
  | nodes =>
    match nodes.mapM singleChar?, nodes.mapM ranges? with
    | some ranges, _ => ofSet .characters (.ofRanges ranges)
    | none, some ranges => ofSet .characters (.ofRanges ranges.flatten)
    | none, none => .alternation nodes

mutual

/-- Are two nodes the same? Sets of bytes differ from sets of characters. -/
def same : Node → Node → Bool
  | .empty, .empty => true
  | .text a, .text b => a = b
  | .set x a, .set y b => x = y && a = b
  | .look a, .look b => a = b
  | .repeated greedy least most? a, .repeated greedy' least' most?' b =>
    greedy = greedy' && least = least' && most? = most?' && same a b
  | .capture i a, .capture j b => i = j && same a b
  | .sequence a, .sequence b => allSame a b
  | .alternation a, .alternation b => allSame a b
  | _, _ => false

def allSame : List Node → List Node → Bool
  | [], [] => true
  | a :: as, b :: bs => same a b && allSame as bs
  | _, _ => false

end

def commonParts (a b : List Node) : List Node :=
  ((a.zip b).takeWhile fun (x, y) => same x y).map (·.1)

def sequenceParts? : Node → Option (List Node)
  | .sequence parts => some parts
  | _ => none

/-- One of several nodes. Sequences that all begin alike share their beginning. -/
def inAlternation (nodes : List Node) : Node :=
  match anyOf nodes with
  | .alternation alternatives =>
    match alternatives.mapM sequenceParts? with
    | some (first :: others) =>
      let common := others.foldl commonParts first
      if common.isEmpty then .alternation alternatives
      else
        let endings := (first :: others).map fun parts => inSequence (parts.drop common.length)
        inSequence (common ++ [anyOf endings])
    | _ => .alternation alternatives
  | node => node

/-- A node several times in a row. What takes no character needs to be matched once at most. -/
def times (greedy : Bool) (least : Nat) (most? : Option Nat) (part : Node) : Node :=
  let hollow := part.isHollow
  let least := if hollow then min least 1 else least
  let most? := if hollow then some (min (most?.getD 1) 1) else most?
  if most? = some 0 then .empty
  else if least = 1 && most? = some 1 then part
  else .repeated greedy least most? part

end Node

end HeaderSearch.Pattern
