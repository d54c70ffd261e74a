/-
# Disks

A disk is a tree of files, links and directories, with a working directory. Directories list
their entries in an order of their own, which need not be that of the names, and a link holds the
text of the path it leads to, whether or not anything is there. Devices, pipes and sockets are left
out.
-/

import HeaderSearch.Path.Basic

namespace HeaderSearch

/-- What an entry of a directory holds: a regular file, a link with the text of its target, or a
directory with its entries in listing order. -/
inductive Node where
  | file (data : List UInt8)
  | link (target : Path)
  | dir (entries : List (Name × Node))

/-- A tree of files below the root, and the names that lead from the root to the working
directory. -/
structure Disk where
  root : Node
  workingDir : List Name

/-- Why the disk refuses to look something up, to list it or to read it. -/
inductive Fault where
  | missing
  | notDirectory
  | isDirectory
  | nameTooLong
  | tooManyLinks
  | nulInPath
  deriving DecidableEq, Repr

def Fault.message : Fault → String
  | .missing => "No such file or directory (os error 2)"
  | .notDirectory => "Not a directory (os error 20)"
  | .isDirectory => "Is a directory (os error 21)"
  | .nameTooLong => "File name too long (os error 36)"
  | .tooManyLinks => "Too many levels of symbolic links (os error 40)"
  | .nulInPath => "file name contained an unexpected NUL byte"

/-- A path text of this many bytes or more is refused. -/
def pathLimit : Nat := 4096

def nameLimit : Nat := 255

def linkLimit : Nat := 40

def Path.isTooLong (p : Path) : Bool := pathLimit ≤ p.bytes.length

end HeaderSearch
