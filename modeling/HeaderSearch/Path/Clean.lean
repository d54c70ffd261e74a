/-
# Lexical cleaning

An include is looked up below a directory by writing the two behind one another and cleaning the
result without looking at the disk. The include always counts as relative: a separator at its
front is dropped, so it cannot leave the directory that way. Every `.` goes. A `..` takes back the
name before it; at the root it has no effect, and where nothing is left to take back it stays.
-/

import HeaderSearch.Path.Basic

namespace HeaderSearch.Path

/-- Add one component to a cleaned path, given with its last component first. -/
def cleanPush (stack : List Component) (component : Component) : List Component :=
  match component, stack with
  | .here, _ => stack
  | .up, .name _ :: below => below
  | .up, .root :: _ => stack
  | _, _ => component :: stack

/-- The cleaned form of a sequence of components. -/
def clean (components : List Component) : List Component :=
  (components.foldl cleanPush []).reverse

def relativeComponents (p : Path) : List Component :=
  p.components.filter (· ≠ .root)

/-- The components of a path below a directory, cleaned. -/
def cleanJoinComponents (dir rest : Path) : List Component :=
  clean (dir.components ++ rest.relativeComponents)

/-- The path `rest` below a directory, cleaned. If nothing is left it is `.`. -/
def cleanJoin (dir rest : Path) : Path :=
  let components := cleanJoinComponents dir rest
  if components = [] then ⟨[dot]⟩ else ofComponents components

example : (ofString "/usr/include").cleanJoin (ofString "/sys/./../a.h") =
    ofString "/usr/include/a.h" := by decide

example : (ofString "..").cleanJoin (ofString "../a.h") = ofString "../../a.h" := by decide

example : (ofString ".").cleanJoin (ofString "b/..") = ofString "." := by decide

end HeaderSearch.Path
