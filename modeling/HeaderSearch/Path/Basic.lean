/-
# Paths

A path is a byte text, kept exactly as it was built. What it names is read off its components:
runs of separators count as one, a trailing separator does not count, and neither does a `.`
segment, unless the path begins with it. A leading `.` and every `..` are components of their own,
and the root comes first if the text begins with a separator.

Two paths are the same if their components are, however they are spelled. They are ordered
component by component and not as texts, so `a/b` comes before `a.b` although `.` is the smaller
byte.
-/

import HeaderSearch.Text.Utf8

namespace HeaderSearch

/-- The name of an entry in a directory, or a part of a path between two separators. -/
abbrev Name := List UInt8

def slash : UInt8 := 0x2F

def dot : UInt8 := 0x2E

/-- A part of a path that says where to go: to the root, nowhere, which is written as a leading `.`,
to the parent, written `..`, or to the entry of a name. -/
inductive Component where
  | root
  | here
  | up
  | name (bytes : Name)
  deriving DecidableEq, Repr

/-- A path, spelled as it was built. -/
structure Path where
  bytes : List UInt8
  deriving DecidableEq, Repr

namespace Path

def ofString (s : String) : Path := ⟨Utf8.encode s⟩

/-- The text of the path for people to read; what is not text is replaced. -/
def display (p : Path) : String := Utf8.lossy p.bytes

def text? (p : Path) : Option String := Utf8.text? p.bytes

/-- What stands between the separators. There is always at least one segment. -/
def segments (p : Path) : List Name := p.bytes.splitOn slash

/-- A path begins at the root if its text begins with a separator. -/
def isAbsolute (p : Path) : Bool := p.bytes.head? == some slash

end Path

/-- The component of a segment after the first. An empty segment and `.` lead nowhere. -/
def Component.ofSegment? (segment : Name) : Option Component :=
  if segment = [] ∨ segment = [dot] then none
  else if segment = [dot, dot] then some .up
  else some (.name segment)

/-- The components of a relative path's first segment, where `.` counts. -/
def Component.ofFirst (segment : Name) : List Component :=
  if segment = [dot] then [.here] else (Component.ofSegment? segment).toList

namespace Path

/-- The components of a path, from the outermost on. -/
def components (p : Path) : List Component :=
  match p.segments with
  | [] => []
  | first :: rest =>
    let start := if p.isAbsolute then [.root] else Component.ofFirst first
    start ++ rest.filterMap Component.ofSegment?

/-- Two paths are the same if they have the same components. -/
def Same (p q : Path) : Prop := p.components = q.components

instance (p q : Path) : Decidable (p.Same q) :=
  inferInstanceAs (Decidable (p.components = q.components))

theorem Same.refl (p : Path) : p.Same p := rfl

theorem Same.symm {p q : Path} (h : p.Same q) : q.Same p := Eq.symm h

theorem Same.trans {p q r : Path} (h : p.Same q) (h' : q.Same r) : p.Same r := Eq.trans h h'

theorem nodup_of_pairwise_not_same {paths : List Path}
    (h : paths.Pairwise fun p q => ¬ p.Same q) : paths.Nodup := by
  apply h.imp
  rintro p _ hne rfl
  exact hne (.refl p)

end Path

/-- The rank of a component: the root first, then `.`, then `..`, then names in byte order. -/
def Component.key : Component → List Nat
  | .root => [0]
  | .here => [1]
  | .up => [2]
  | .name bytes => 3 :: bytes.map UInt8.toNat

theorem Component.eq_of_key_eq {c d : Component} (h : c.key = d.key) : c = d := by
  cases c <;> cases d
  case name.name bytes bytes' =>
    have hbytes : bytes.map UInt8.toNat = bytes'.map UInt8.toNat := (List.cons.inj h).2
    rw [(List.map_inj_right fun _ _ => UInt8.toNat_inj.1).1 hbytes]
  all_goals first | rfl | cases h

/-- Paths are ordered by the ranks of their components, one after another. -/
def Path.key (p : Path) : List (List Nat) := p.components.map Component.key

/-- What comes at one place in the order is one path. -/
theorem Path.key_eq_key_iff {p q : Path} : p.key = q.key ↔ p.Same q :=
  List.map_inj_right fun _ _ => Component.eq_of_key_eq

namespace Path

def segmentOf : Component → Name
  | .root => []
  | .here => [dot]
  | .up => [dot, dot]
  | .name bytes => bytes

/-- The plain spelling of components: single separators, none at the end. The root alone is `/`. -/
def ofComponents (components : List Component) : Path :=
  if components = [.root] then ⟨[slash]⟩
  else ⟨[slash].intercalate (components.map segmentOf)⟩

/-- The path of an entry in the directory `p`: a separator is put between only where none is. -/
def child (p : Path) (name : Name) : Path :=
  if p.bytes.getLast? = some slash then ⟨p.bytes ++ name⟩ else ⟨p.bytes ++ slash :: name⟩

/-- The path `q` as seen from `p`. An absolute path stays what it is, and the empty path does not
add a separator of its own. -/
def join (p q : Path) : Path :=
  if q.isAbsolute || p.bytes.isEmpty then q else p.child q.bytes

/-- The name that a path ends in, unless it ends in the root, in `.` or in `..`. -/
def fileName? (p : Path) : Option Name :=
  match p.components.getLast? with
  | some (.name bytes) => some bytes
  | _ => none

example : (ofString "/usr//include/./x.h/").components =
    [.root, .name (Utf8.encode "usr"), .name (Utf8.encode "include"),
      .name (Utf8.encode "x.h")] := by decide

example : (ofString "./a").components ≠ (ofString "a").components := by decide

/-- Component order is not text order. -/
example : (ofString "a/b").key < (ofString "a.b").key := by decide

end Path

end HeaderSearch
