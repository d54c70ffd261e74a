/-
# Plain patterns

A pattern that is as good as a few plain texts is looked for as these, and no machine is built for
it, however large that would be. For that all the beginnings of its matches have to be whole
matches; those that an earlier one begins are not needed, because earlier ones are preferred. But
texts that are better looked for by less than all of their bytes are no plain texts.
-/

import HeaderSearch.Pattern.Beginning

namespace HeaderSearch.Pattern

namespace Beginning

/-- The beginnings without those that begin with an earlier one. -/
def withoutLonger (beginnings : List Beginning) : List Beginning :=
  beginnings.foldl (fun kept beginning =>
    if kept.any fun earlier => earlier.bytes.isPrefixOf beginning.bytes then kept
    else kept ++ [beginning]) []

def commonBytes (a b : List UInt8) : List UInt8 :=
  ((a.zip b).takeWhile fun (x, y) => x = y).map (·.1)

def sharedBytes : List Beginning → List UInt8
  | [] => []
  | first :: rest => rest.foldl (fun shared next => commonBytes shared next.bytes) first.bytes

def frequentChars : List Char := "\n\r (),-./0129:_abcdefghilmnoprstuvxy|".toList

/-- Is the byte rare in texts? Those beyond ASCII are not. -/
def isRare (byte : UInt8) : Bool :=
  byte < 0x80 && !frequentChars.contains (Char.ofUInt8 byte)

/-- Steps by which many beginnings are made fewer: how many bytes of each are kept if there are
more than so many of them. -/
def shorteningSteps : List (Nat × Nat) := [(5, 10), (4, 10), (3, 64), (2, 64), (1, 10)]

def makeFewer : List (Nat × Nat) → List Beginning → List Beginning
  | [], beginnings => beginnings
  | (length, count) :: rest, beginnings =>
    if beginnings.length ≤ count then beginnings
    else makeFewer rest (withoutLonger (beginnings.map (shorten length)))

/-- Are the beginnings looked for as plain texts? If they begin with the same rare byte, that byte
is looked for, and if they begin with the same long text, that text is. Many beginnings are made
fewer, unless that leaves too many or some that are too short. -/
def arePlain (beginnings : List Beginning) : Bool :=
  let kept := withoutLonger beginnings
  let shared := sharedBytes kept
  if kept.isEmpty || kept.any (·.bytes.isEmpty) || !kept.all (·.whole) then false
  else if 1 < beginnings.length && shared.length ≤ 3 && shared.head?.any isRare then
    kept.all (·.bytes.length ≤ 1)
  else if 4 < shared.length || (1 < shared.length && 16 < kept.length) then
    kept.all (·.bytes.length ≤ shared.length)
  else
    let fewer := makeFewer shorteningSteps kept
    fewer.any (·.bytes.length ≤ 2) || 64 < fewer.length || fewer.all (·.whole)

end Beginning

mutual

/-- Does the node neither assert nor capture anything? -/
def Node.isBare : Node → Bool
  | .empty | .text _ | .set _ _ => true
  | .look _ | .capture _ _ => false
  | .repeated _ _ _ part => part.isBare
  | .sequence parts => areBare parts
  | .alternation parts => areBare parts

def Node.areBare : List Node → Bool
  | [] => true
  | part :: rest => part.isBare && areBare rest

end

def Node.isText : Node → Bool
  | .text _ => true
  | _ => false

/-- Is the node a choice of so many texts that they are looked for as they are? -/
def Node.isLongList : Node → Bool
  | .alternation parts => 3000 ≤ parts.length && parts.all Node.isText
  | _ => false

/-- Is the node looked for as plain texts? -/
def Node.isPlain (node : Node) : Bool :=
  node.isBare && (node.beginnings.any Beginning.arePlain || node.isLongList)

/-- What an earlier alternative begins does not matter. -/
example : Node.isPlain (.alternation
    [.text ['a'], .sequence [.text ['a'], .repeated true 9 none (.text ['b'])]]) = true := by
  decide +kernel

/-- The same with a text that is better looked for by its first byte. -/
example : Node.isPlain (.alternation
    [.text ['z', 'a'], .sequence [.text ['z', 'a'], .repeated true 9 none (.text ['b'])]]) =
      false := by decide +kernel

end HeaderSearch.Pattern
