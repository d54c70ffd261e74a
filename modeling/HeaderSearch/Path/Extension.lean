/-
# File extensions

The extension of a path is what follows the last `.` of its file name. A name without a `.` has
none, and neither has a hidden file such as `.h`, whose only `.` comes first.
-/

import HeaderSearch.Path.Basic

namespace HeaderSearch

/-- What follows the last `.` of a file name, unless nothing stands before that `.`. -/
def Name.extension? (name : Name) : Option (List UInt8) :=
  let reversed := name.reverse
  match reversed.dropWhile (· ≠ dot) with
  | _ :: _ :: _ => some (reversed.takeWhile (· ≠ dot)).reverse
  | _ => none

def Path.extension? (p : Path) : Option (List UInt8) :=
  p.fileName?.bind Name.extension?

/-- The lower-case form of an ASCII letter; every other byte is its own. -/
def lowerByte (b : UInt8) : UInt8 := if 0x41 ≤ b ∧ b ≤ 0x5A then b + 0x20 else b

/-- Equality of byte texts up to the case of ASCII letters. -/
def sameLetters : List UInt8 → List UInt8 → Bool
  | [], [] => true
  | a :: as, b :: bs => lowerByte a == lowerByte b && sameLetters as bs
  | _, _ => false

example : (Path.ofString "a.tar.H++").extension? = some (Utf8.encode "H++") := by decide

example : (Path.ofString "src/.h").extension? = none := by decide

end HeaderSearch
