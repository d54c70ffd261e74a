/-
# Platforms

A platform says where system headers are and which names are headers although their extension does
not say so. On Windows there is no fixed system root, and the development kit's headers are known
by name.
-/

import HeaderSearch.Path.Basic
import HeaderSearch.Platform.StandardHeaders
import HeaderSearch.Platform.WindowsHeaders

namespace HeaderSearch

/-- The platforms that are told apart. Any Unix that is not Linux is `other`. -/
inductive Platform where
  | linux
  | windows
  | other
  deriving DecidableEq, Repr

namespace Platform

/-- The platform whose conventions the program follows where it runs: paths are Unix paths. -/
def host : Platform := .linux

def word : Platform → String
  | .linux => "linux"
  | .windows => "windows"
  | .other => "other"

def systemRoots : Platform → List Path
  | .windows => []
  | _ => [Path.ofString "/usr/include"]

/-- The names that the platform admits as headers. -/
def listedHeaders : Platform → List String
  | .windows => standardHeaders ++ windowsHeaders
  | _ => standardHeaders

example : linux.listedHeaders.length = 126 := by decide +kernel

end Platform

end HeaderSearch
