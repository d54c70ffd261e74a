/-
# Scanning a project

A scan walks a project in byte order of names, sorts its sources into headers, C and C++, and
reads them all, in that order, into one corpus. It is all or nothing: the first directory that
cannot be walked stops it before anything is read, and the first file that cannot be read stops
the reading.

Whatever is not a directory and has a recognised extension is read, so a link that leads to a
directory is a file that cannot be read if its name looks like that of a source.
-/

import HeaderSearch.Disk.Walk
import HeaderSearch.Include.Directive
import HeaderSearch.Log.Basic
import HeaderSearch.Project.SourceKind
import HeaderSearch.Text.Quoted

namespace HeaderSearch

namespace Visit

def fault? : Visit → Option Fault
  | .entry _ _ => none
  | .rootFailure fault => some fault
  | .dirFailure _ fault => some fault

/-- The source file that the step visits, with its kind. -/
def source? : Visit → Option (Path × SourceKind)
  | .entry _ .dir => none
  | .entry path _ => (SourceKind.ofPath? path).map (path, ·)
  | _ => none

end Visit

/-- Why a project cannot be scanned: the project, or a directory in it, cannot be walked, or a
source file cannot be read. -/
inductive ScanError where
  | walk (root : Path) (fault : Fault)
  | read (file : Path) (fault : Fault)
  deriving DecidableEq, Repr

namespace ScanError

def fault : ScanError → Fault
  | .walk _ fault => fault
  | .read _ fault => fault

def message : ScanError → String
  | .walk root fault => "failed to walk project " ++ root.display ++ ": " ++ fault.message
  | .read file fault => "failed to read project file " ++ file.display ++ ": " ++ fault.message

end ScanError

/-- The source files of a project by kind, each kind in the order of the walk. -/
structure SourceFiles where
  headers : List Path
  c : List Path
  cpp : List Path

namespace SourceFiles

def ofVisits (visits : List Visit) : SourceFiles where
  headers := ofKind .header
  c := ofKind .c
  cpp := ofKind .cpp
where
  ofKind (kind : SourceKind) : List Path :=
    (visits.filterMap Visit.source?).filterMap fun (path, k) => if k = kind then some path else none

/-- All source files in the order in which they are read. -/
def all (files : SourceFiles) : List Path := files.headers ++ files.c ++ files.cpp

end SourceFiles

/-- A project that has been read, with the bytes of all its files, each with a line feed in front.
-/
structure Project where
  root : Path
  files : SourceFiles
  corpus : List UInt8

namespace Project

/-- The bytes of files, each with a line feed in front, or the first file that cannot be read. -/
def readAll (disk : Disk) : List Path → Except ScanError (List UInt8)
  | [] => .ok []
  | file :: rest =>
    match disk.readFile file with
    | .error fault => .error (.read file fault)
    | .ok data => (readAll disk rest).map fun more => Include.lineFeed :: data ++ more

/-- Read the project below a root. -/
def scan (disk : Disk) (root : Path) : Except ScanError Project :=
  let visits := disk.sortedWalk root
  match visits.findSome? Visit.fault? with
  | some fault => .error (.walk root fault)
  | none =>
    let files := SourceFiles.ofVisits visits
    (readAll disk files.all).map fun corpus => ⟨root, files, corpus⟩

def directives (project : Project) : List String := Include.directives project.corpus

def includes (project : Project) : IncludeNames := Include.shortNames project.corpus

/-! What a scan says about itself. -/

/-- How far the reading has come, as a percentage rounded to the nearest integer, halves up. -/
def percent (n total : Nat) : Nat := (200 * n + total) / (2 * total)

def readingEntry (n total : Nat) (file : Path) : Log.Entry :=
  ⟨.scan, .debug,
    s!"[{n}/{total}, {percent n total}.00%] Reading " ++ file.display ++ "..."⟩

/-- The entries made while files are read: the first that cannot be read is the last mentioned. -/
def readingLog (disk : Disk) (total n : Nat) : List Path → List Log.Entry
  | [] => []
  | file :: rest =>
    readingEntry n total file ::
      match disk.readFile file with
      | .error _ => []
      | .ok _ => readingLog disk total (n + 1) rest

def scanLog (disk : Disk) (root : Path) : List Log.Entry :=
  let visits := disk.sortedWalk root
  let reached := visits.takeWhile fun visit => visit.fault?.isNone
  let added := (reached.filterMap Visit.source?).map fun (path, _) =>
    (⟨.scan, .debug, "added: " ++ Text.quoted path.bytes⟩ : Log.Entry)
  let files := (SourceFiles.ofVisits visits).all
  if reached.length = visits.length then added ++ readingLog disk files.length 1 files else added

end Project

end HeaderSearch
