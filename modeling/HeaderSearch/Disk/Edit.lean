/-
# Changing a disk

Files, directories and links are put where a path leads, together with the directories that are
missing on the way. A change that cannot be made, because a file stands in the way or a link leads
nowhere, leaves the disk as it was.
-/

import HeaderSearch.Disk.Lookup

namespace HeaderSearch

/-- Set, add or remove the entry `name`: `f` maps what it holds to what it shall hold. An entry
that was there keeps its position, and a new one comes last. -/
def alterEntry (f : Option Node → Option Node) (name : Name) :
    List (Name × Node) → List (Name × Node)
  | [] => ((f none).map (name, ·)).toList
  | (other, node) :: rest =>
    if other = name then ((f (some node)).map (name, ·)).toList ++ rest
    else (other, node) :: alterEntry f name rest

/-- Change what stands below a node where names lead. -/
def Node.alter (f : Option Node → Option Node) : List Name → Option Node → Option Node
  | [], node => f node
  | name :: rest, some (.dir entries) => some (.dir (alterEntry (Node.alter f rest) name entries))
  | _ :: _, node => node

namespace Disk

def alter (disk : Disk) (names : List Name) (f : Option Node → Option Node) : Disk :=
  { disk with root := (Node.alter f names (some disk.root)).getD (.dir []) }

/-- Take segments one by one from the place that `names` lead to, and make the directories that
are missing. The result is the changed disk and the names of the directory reached. -/
def makeDirs? (disk : Disk) (names : List Name) : List Name → Option (Disk × List Name)
  | [] => some (disk, names)
  | segment :: rest =>
    match disk.placeAt? names with
    | none => none
    | some place =>
      match disk.travel true linkLimit place [segment] with
      | .ok reached => match reached.node with
        | .dir _ => disk.makeDirs? reached.names rest
        | _ => none
      | .error .missing => match disk.travel false linkLimit place [segment] with
        | .ok _ => none
        | .error _ =>
          (disk.alter (names ++ [segment]) fun _ => some (.dir [])).makeDirs?
            (names ++ [segment]) rest
      | .error _ => none

def makeDir (disk : Disk) (path : Path) : Disk :=
  match disk.makeDirs? (disk.startNames path) path.segments with
  | some (changed, _) => changed
  | none => disk

/-- Where a file is written: at the path, or where the link at its end leads. -/
def writeTarget? (disk : Disk) : Nat → Place → List Name → Option (List Name)
  | links, place, segments =>
    match disk.travel true linkLimit place segments.dropLast, segments.getLast? with
    | .ok ⟨.dir entries, trail⟩, some name =>
      let dir : Place := ⟨.dir entries, trail⟩
      match Component.ofSegment? name, entries.lookup name with
      | some (.name _), some (.link target) => match links with
        | 0 => none
        | links + 1 => disk.writeTarget? links (disk.startOf dir target) target.segments
      | some (.name _), some (.dir _) => none
      | some (.name _), _ => some (dir.names ++ [name])
      | _, _ => none
    | _, _ => none

/-- Write a file, after making the directories above it. -/
def writeFile (disk : Disk) (path : Path) (data : List UInt8) : Disk :=
  match disk.makeDirs? (disk.startNames path) path.segments.dropLast with
  | none => disk
  | some (changed, dir) =>
    match (changed.placeAt? dir).bind fun place =>
        changed.writeTarget? linkLimit place (path.segments.getLast?.toList) with
    | some names => changed.alter names fun _ => some (.file data)
    | none => changed

/-- Make a link, after making the directories above it. What is already there stays. -/
def makeLink (disk : Disk) (path target : Path) : Disk :=
  match disk.makeDirs? (disk.startNames path) path.segments.dropLast, path.segments.getLast? with
  | some (changed, dir), some name => match Component.ofSegment? name with
    | some (.name _) => changed.alter (dir ++ [name]) fun node => some (node.getD (.link target))
    | _ => changed
  | _, _ => disk

def remove (disk : Disk) (path : Path) : Disk :=
  match disk.find false path with
  | .ok place => disk.alter place.names fun _ => none
  | .error _ => disk

end Disk

end HeaderSearch
