/-
# Looking paths up

A look-up starts at the root or at the working directory and takes the segments of the path one
by one. Every segment, also an empty one or `.`, asks for a directory to stand in, which is why a
trailing separator refuses a file. A link on the way is replaced by the segments of its target,
read from the directory that holds the link; a look-up may follow forty links and no more.

`..` goes to the directory that was really entered and not to the one that was written, so a link
followed by `..` leads to the parent of the link's target.
-/

import HeaderSearch.Disk.Basic

namespace HeaderSearch

/-- A node together with the way it was reached: the names entered, latest first, each with the
directory it was taken from. -/
structure Place where
  node : Node
  trail : List (Name × Node)

namespace Place

def names (place : Place) : List Name := (place.trail.map Prod.fst).reverse

/-- The directory that this place was entered from. The root is its own parent. -/
def parent (place : Place) : Place :=
  match place.trail with
  | [] => place
  | (_, node) :: trail => ⟨node, trail⟩

def enter (place : Place) (name : Name) (node : Node) : Place :=
  ⟨node, (name, place.node) :: place.trail⟩

/-- Take segments one by one. A link that has to be followed is handed to `onLink`, with the
directory that holds it and the segments that are left; the last one is followed on request. -/
def travel (onLink : Place → Path → List Name → Except Fault Place) (followLast : Bool) :
    Place → List Name → Except Fault Place
  | place, [] => .ok place
  | place, segment :: rest =>
    match place.node with
    | .dir entries =>
      match Component.ofSegment? segment with
      | some .up => travel onLink followLast place.parent rest
      | some (.name name) =>
        if nameLimit < name.length then .error .nameTooLong
        else match entries.lookup name with
          | none => .error .missing
          | some (.link target) =>
            if rest = [] ∧ followLast = false then .ok (place.enter name (.link target))
            else onLink place target rest
          | some node => travel onLink followLast (place.enter name node) rest
      | _ => travel onLink followLast place rest
    | _ => .error .notDirectory

end Place

namespace Disk

def rootPlace (disk : Disk) : Place := ⟨disk.root, []⟩

/-- The place that names lead to, one directory entry after another, if they lead anywhere. -/
def placeAt? (disk : Disk) (names : List Name) : Option Place :=
  names.foldl (fun reached name =>
    match reached with
    | some place =>
      match place.node with
      | .dir entries => (entries.lookup name).map (place.enter name)
      | _ => none
    | none => none) (some disk.rootPlace)

/-- The names that lead to where a path starts: none from the root, and for a relative path those of
the working directory, which may be gone. -/
def startNames (disk : Disk) (path : Path) : List Name :=
  if path.isAbsolute then [] else disk.workingDir

/-- Where the target of a link starts: at the root, or at the place of the link. -/
def startOf (disk : Disk) (place : Place) (path : Path) : Place :=
  if path.isAbsolute then disk.rootPlace else place

/-- Take segments one by one from a place, following at most `links` links. -/
def travel (disk : Disk) (followLast : Bool) : Nat → Place → List Name → Except Fault Place
  | 0 => Place.travel (fun _ _ _ => .error .tooManyLinks) followLast
  | links + 1 =>
    Place.travel (fun dir target rest =>
      disk.travel followLast links (disk.startOf dir target) (target.segments ++ rest)) followLast

/-- Look a path up. If it leads to a link, `followLast` says whether to follow that as well. -/
def find (disk : Disk) (followLast : Bool) (path : Path) : Except Fault Place :=
  if path.bytes.contains 0 then .error .nulInPath
  else if path.bytes = [] then .error .missing
  else if path.isTooLong then .error .nameTooLong
  else match disk.placeAt? (disk.startNames path) with
    | none => .error .missing
    | some place => disk.travel followLast linkLimit place path.segments

/-- Is there anything where the path leads, links followed? -/
def pathExists (disk : Disk) (path : Path) : Bool := (disk.find true path).toOption.isSome

/-- Does the path lead to a regular file, links followed? -/
def isFile (disk : Disk) (path : Path) : Bool :=
  match disk.find true path with
  | .ok ⟨.file _, _⟩ => true
  | _ => false

/-- The bytes of the file that the path leads to, links followed. -/
def readFile (disk : Disk) (path : Path) : Except Fault (List UInt8) := do
  match (← disk.find true path).node with
  | .file data => .ok data
  | .dir _ => .error .isDirectory
  | .link _ => .error .tooManyLinks

end Disk

end HeaderSearch
