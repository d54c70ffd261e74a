/-
# Parents

The parent of a path is its text without the last component, and without the separators and
`.` segments that then stand at the end. What remains is not respelled. The root and the empty
path have no parent; the parent of a single component is the empty path.
-/

import HeaderSearch.Path.Basic

namespace HeaderSearch.Path

/-- Does the segment lead nowhere? The first segment of a path is never asked this. -/
def isVoid (segment : Name) : Bool := (Component.ofSegment? segment).isNone

def dropVoid (segments : List Name) : List Name :=
  (segments.reverse.dropWhile isVoid).reverse

def parent? (p : Path) : Option Path :=
  match p.segments with
  | [] => none
  | first :: rest =>
    match dropVoid rest with
    | [] =>
      -- The first segment is all there is: it goes, unless it is the root or empty.
      if first = [] then none else some ⟨[]⟩
    | kept =>
      let shorter := dropVoid kept.dropLast
      if p.isAbsolute ∧ shorter = [] then some ⟨[slash]⟩
      else some ⟨[slash].intercalate (first :: shorter)⟩

/-- The path after going to the parent `n` times. -/
def ancestor? (p : Path) : Nat → Option Path
  | 0 => some p
  | n + 1 => (p.ancestor? n).bind parent?

/-- The directory from which an include, as it was written, leads to a header: one parent for each
component of the include, whatever kind of component it is. -/
def includeDir? (header written : Path) : Option Path :=
  header.ancestor? written.components.length

example : (ofString "/usr//include/./x.h//").parent? = some (ofString "/usr//include") := by decide

example : (ofString ".//a").parent? = some (ofString ".") := by decide

example : (ofString "//a").parent? = some (ofString "/") := by decide

example : (ofString "/").parent? = none := by decide

end HeaderSearch.Path
