/-
# Walks

A walk visits a root and everything below it, depth first and each entry before its contents.
Links are visited and not followed, except that a root which is a link to a directory is walked
as that directory; the root itself is still visited as a link. A directory that cannot be listed
is visited and then reported once, and the walk goes on after it.

The path of an entry is spelled from the root's own text, so a walk of `./inc/` visits
`./inc/a.h`. Only the length of a path can keep a directory below the root from being listed.
-/

import HeaderSearch.Disk.Lookup

namespace HeaderSearch

/-- What a visited entry is, links not followed. -/
inductive EntryType where
  | file
  | link
  | dir
  deriving DecidableEq, Repr

/-- One step of a walk: an entry is there, the root could not be entered or listed, or a directory
below the root could not be listed. -/
inductive Visit where
  | entry (path : Path) (type : EntryType)
  | rootFailure (fault : Fault)
  | dirFailure (path : Path) (fault : Fault)
  deriving DecidableEq, Repr

namespace Node

mutual

/-- The same tree with the entries of every directory in byte order of their names. -/
def sorted : Node → Node
  | .file data => .file data
  | .link target => .link target
  | .dir entries => .dir ((sortedAll entries).mergeSort fun a b => a.1 ≤ b.1)

def sortedAll : List (Name × Node) → List (Name × Node)
  | [] => []
  | (name, node) :: rest => (name, sorted node) :: sortedAll rest

end

mutual

/-- The visits of an entry below the root and of everything below it. -/
def visits (path : Path) : Node → List Visit
  | .file _ => [.entry path .file]
  | .link _ => [.entry path .link]
  | .dir entries =>
    .entry path .dir ::
      if path.isTooLong then [.dirFailure path .nameTooLong] else visitsAll path entries

def visitsAll (parent : Path) : List (Name × Node) → List Visit
  | [] => []
  | (name, node) :: rest => visits (parent.child name) node ++ visitsAll parent rest

end

end Node

namespace Disk

/-- The walk of a root, where `arrange` fixes the order in which directories are listed. -/
def walkBy (disk : Disk) (arrange : Node → Node) (root : Path) : List Visit :=
  match disk.find false root with
  | .error fault => [.rootFailure fault]
  | .ok ⟨.file _, _⟩ => [.entry root .file]
  | .ok ⟨.dir entries, _⟩ => .entry root .dir :: contents (.dir entries)
  | .ok ⟨.link _, _⟩ =>
    match disk.find true root with
    | .error fault => [.rootFailure fault]
    | .ok place => .entry root .link :: contents place.node
where
  contents (node : Node) : List Visit :=
    match arrange node with
    | .dir entries => Node.visitsAll root entries
    | _ => []

/-- The walk of a root in listing order. -/
def walk (disk : Disk) (root : Path) : List Visit := disk.walkBy id root

/-- The walk of a root in byte order of names. -/
def sortedWalk (disk : Disk) (root : Path) : List Visit := disk.walkBy Node.sorted root

end Disk

end HeaderSearch
