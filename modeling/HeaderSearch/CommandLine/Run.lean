/-
# Running a command

A run reads its arguments and the environment, does what the command asks on a disk, and leaves a
text on each of the two outputs and an exit code. What is printed on standard output and the exit
code never depend on which log entries are shown.

The log can be filtered by a pattern. The pattern language is that of a library and stands apart: a
run works with any reader of patterns, and only the program itself is tied to one.
-/

import HeaderSearch.Catalog.Index
import HeaderSearch.CommandLine.Arguments
import HeaderSearch.CommandLine.Failure
import HeaderSearch.Log.Filter
import HeaderSearch.Pattern.Basic
import HeaderSearch.Project.Scan
import HeaderSearch.Report

namespace HeaderSearch.CommandLine

/-- What a run finds around it, beside its arguments and the disk: the list of further include roots
and the line that selects log entries, if they are set, and the time for reports. -/
structure Environment where
  roots? : Option String
  logLine? : Option String
  now : String

/-- What is left of a run: an exit code, zero if it went well, what it printed, and what it said
about itself and about its failure. -/
structure Outcome where
  exitCode : Nat
  stdout : String
  stderr : String
  deriving DecidableEq, Repr

/-- What a command did: what it printed before it was done or failed, what it said about itself, and
why it failed, if it did. -/
structure Work where
  printed : String
  log : List Log.Entry
  failure? : Option Failure

/-- Lines, each with its line feed. -/
def unlines (lines : List String) : String := String.join (lines.map (· ++ "\n"))

def helpText : String := unlines [
  "",
  "include-locator: find where a C/C++ project's #includes live on this machine",
  "",
  "USAGE:",
  "    include-locator scan [DIR]             # List the short include names used under DIR",
  "    include-locator catalog                # Index system include roots, report size",
  "    include-locator resolve [DIR] [--json] # FOUND / NOT FOUND per include (or a JSON report)",
  "    include-locator threads [DIR]          # \"yes\" if thread/dl link flags are needed",
  "    include-locator config                 # Print the effective search configuration",
  "    include-locator help                   # Show this message",
  "",
  "FLAGS:",
  "    -v, --verbose     Per-file and per-candidate diagnostics on stderr",
  "    --root DIR        Extra system include root (repeatable)",
  "",
  "DIR defaults to the current directory. Extra roots can also be listed in",
  "INCLUDE_LOCATOR_ROOTS, separated like PATH.",
  ""]

/-- The directory of the project: the one given, or the working directory. -/
def Invocation.projectDir (inv : Invocation) : Path := Path.ofString (inv.dir?.getD ".")

/-- The settings of a run, given the list of further include roots, if there is one. -/
def Invocation.settingsFor (inv : Invocation) (list? : Option (List UInt8)) : Settings :=
  { Settings.ofListed list? with verbose := inv.verbose }.addRoots (inv.roots.map Path.ofString)

def Invocation.settings (inv : Invocation) (env : Environment) : Settings :=
  inv.settingsFor (env.roots?.map Utf8.encode)

def scanFailure (dir : Path) (error : ScanError) : Failure :=
  ⟨"scanning " ++ dir.display, [error.message, error.fault.message]⟩

/-- Scan a project and print what `print` makes of it. -/
def withProject (disk : Disk) (dir : Path) (print : Project → Work) : Work :=
  let log := Project.scanLog disk dir
  match Project.scan disk dir with
  | .error error => ⟨"", log, some (scanFailure dir error)⟩
  | .ok project =>
    let work := print project
    { work with log := log ++ work.log }

/-- Print a JSON value and a line feed. If it cannot be written completely, `what` failed. -/
def printJson (value : Json.Value) (what : String) (log : List Log.Entry) : Work :=
  let written := value.write (.lines 0)
  match written.error? with
  | none => ⟨written.text ++ "\n", log, none⟩
  | some error => ⟨written.text, log, some ⟨what, [error.message]⟩⟩

def scan (disk : Disk) (dir : Path) : Work :=
  withProject disk dir fun project => ⟨unlines project.includes.toList, [], none⟩

def showCatalog (disk : Disk) (settings : Settings) : Work :=
  let catalog := Catalog.build disk settings.systemRoots settings.listedHeaders
  ⟨unlines (s!"{catalog.entries.length} include files indexed" ::
      catalog.skipped.map fun skipped => "skipped: " ++ skipped.message),
    Catalog.buildLog disk settings.systemRoots settings.listedHeaders, none⟩

/-- Say where the includes of a project are, in lines or as a report. -/
def resolve (disk : Disk) (dir : Path) (settings : Settings) (json : Bool) (now : String) : Work :=
  withProject disk dir fun project =>
    let settings := settings.withBase dir
    let catalog := Catalog.build disk settings.systemRoots settings.listedHeaders
    let space : SearchSpace := ⟨catalog, settings.localDirs, disk⟩
    let resolution := space.resolve project.includes
    let log := Catalog.buildLog disk settings.systemRoots settings.listedHeaders ++
      space.resolveLog project.includes
    if json then
      let report : Report := ⟨now, dir, catalog.entries.length, project.includes, resolution⟩
      printJson report.toJson "writing report json" log
    else ⟨unlines resolution.lines, log, none⟩

def threads (disk : Disk) (dir : Path) : Work :=
  withProject disk dir fun project =>
    ⟨if Include.needsThreads project.includes then "yes\n" else "no\n", [], none⟩

def Invocation.work (inv : Invocation) (env : Environment) (disk : Disk) : Work :=
  let settings := inv.settings env
  match inv.command with
  | .scan => scan disk inv.projectDir
  | .catalog => showCatalog disk settings
  | .resolve => resolve disk inv.projectDir settings inv.json env.now
  | .threads => threads disk inv.projectDir
  | .config => printJson settings.toJson "writing config json" []
  | .help => ⟨helpText, [], none⟩

/-- Which log entries are shown: as the environment says, or else from debugging steps on if the
run is verbose, and from warnings on if it is not. -/
def Invocation.filter (inv : Invocation) (read : Log.PatternReader) (env : Environment) :
    Log.Filter × List Log.FilterWarning :=
  Log.Filter.parse read (env.logLine?.getD (if inv.verbose then "debug" else "warn"))

/-- Run with patterns that `read` reads. -/
def runWith (read : Log.PatternReader) (arguments : List String) (env : Environment)
    (disk : Disk) : Outcome :=
  match Invocation.parse arguments with
  | .error error => ⟨1, "", (Failure.mk error.message []).render⟩
  | .ok inv =>
    let (filter, warnings) := inv.filter read env
    let work := inv.work env disk
    let said := unlines (warnings.map Log.FilterWarning.message) ++
      String.join ((work.log.filter filter.shows).map Log.Entry.render)
    match work.failure? with
    | none => ⟨0, work.printed, said⟩
    | some failure => ⟨1, work.printed, said ++ failure.render⟩

/-- Run the program. -/
def run (arguments : List String) (env : Environment) (disk : Disk) : Outcome :=
  runWith Pattern.read arguments env disk

end HeaderSearch.CommandLine
