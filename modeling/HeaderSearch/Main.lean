/-
# The program

Runs a command on the real disk. What the command can come across is copied from the disk first:
the project and the include roots with everything below them, and whatever the local directories
hold under the names that the project includes. The run itself is a function of the copy, so the
only decisions made here are what to copy and how to print.
-/

import HeaderSearch.CommandLine.Run
import HeaderSearch.Disk.Edit
import Std.Time.Format

namespace HeaderSearch

open CommandLine

def attempt {α : Type} (action : IO α) : IO (Option α) :=
  (some <$> action) <|> pure none

/-- The path with a given text, for the operations of the real disk. -/
def realPath (path : String) := (IO.FS.DirEntry.mk path "").root

/-- A disk on which there is the working directory of the process and nothing else. -/
def bareDisk (workingDir : String) : Disk :=
  let names := ((Utf8.encode workingDir).splitOn slash).filter (· ≠ [])
  Disk.makeDir ⟨.dir [], names⟩ (Path.ofString workingDir)

/-- The bytes of a file that a scan would read. All other files are copied empty. -/
def contentsOf (file : String) : IO (List UInt8) := do
  if (SourceKind.ofPath? (Path.ofString file)).isSome then
    return (← IO.FS.readBinFile file).toList
  else return []

/-- Copy what is at a path and below it. Where a link leads is copied too: a file with its bytes,
a directory with what is in it if `enterLink` is set, and empty otherwise. The target of a link
that leads nowhere is a name that nothing can have. -/
partial def copyTree (disk : Disk) (path : String) (enterLink : Bool) : IO Disk := do
  let some info ← attempt (realPath path).symlinkMetadata | return disk
  match info.type with
  | .symlink =>
    let some target ← attempt (IO.FS.realPath path)
      | return disk.makeLink (Path.ofString path) (Path.ofString "\x00")
    let target := target.toString
    let linked := disk.makeLink (Path.ofString path) (Path.ofString target)
    if enterLink || !(← (realPath target).isDir) then copyTree linked target false
    else return linked.makeDir (Path.ofString target)
  | .dir =>
    let entries ← (realPath path).readDir
    entries.foldlM (fun disk entry => copyTree disk (path ++ "/" ++ entry.fileName) false)
      (disk.makeDir (Path.ofString path))
  | _ => return disk.writeFile (Path.ofString path) (← contentsOf path)

/-- Copy what the real disk has under a path that is only probed. -/
def copyProbe (disk : Disk) (candidate : Path) : IO Disk := do
  let some path := candidate.text? | return disk
  if !(← (realPath path).pathExists) then return disk
  else if ← (realPath path).isDir then return disk.makeDir candidate
  else return if disk.pathExists candidate then disk else disk.writeFile candidate []

/-- Copy everything that an invocation can come across. -/
def copyFor (inv : Invocation) (env : Environment) : IO Disk := do
  let settings := inv.settings env
  let dir := inv.projectDir
  let bare := bareDisk (← IO.currentDir).toString
  let walked := match inv.command with
    | .scan | .threads => [dir]
    | .catalog => settings.systemRoots
    | .resolve => dir :: settings.systemRoots
    | .config | .help => []
  let disk ← walked.foldlM (fun disk root => copyTree disk root.display true) bare
  match inv.command, Project.scan disk dir with
  | .resolve, .ok project =>
    let places := (settings.withBase dir).localDirs
    (project.includes.toList.flatMap places.candidates).foldlM copyProbe disk
  | _, _ => return disk

def timestamp : IO String := do
  let now ← Std.Time.Timestamp.now
  return (Std.Time.DateTime.ofTimestampWithZone now .UTC).format "uuuu-MM-dd'T'HH:mm:ss'Z'"

/-- Run the program with the arguments of the process, print what it prints, and return its exit
code. -/
def runProcess (arguments : List String) : IO UInt32 := do
  let env : Environment :=
    ⟨← IO.getEnv Settings.rootsVariable, ← IO.getEnv Log.lineVariable, ← timestamp⟩
  let disk ← match Invocation.parse arguments with
    | .ok inv => copyFor inv env
    | .error _ => pure (bareDisk "/")
  let outcome := run arguments env disk
  IO.print outcome.stdout
  IO.eprint outcome.stderr
  return UInt32.ofNat outcome.exitCode

end HeaderSearch

def main (arguments : List String) : IO UInt32 := HeaderSearch.runProcess arguments
