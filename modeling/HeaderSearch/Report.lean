/-
# Reports

What a run asked for and what it found, as JSON values: the settings of a search, a resolution,
and the report on one project. Members come in a fixed order, names in the order of their sets.
-/

import HeaderSearch.Include.Directive
import HeaderSearch.Json.Writer
import HeaderSearch.Resolution.Basic

namespace HeaderSearch

open Json (Value)

def Hit.toJson (hit : Hit) : Value :=
  .obj [("path", Json.ofPath hit.path), ("strategy", .str hit.strategy.word)]

def Resolution.toJson (resolution : Resolution) : Value :=
  .obj [
    ("found", .obj (resolution.found.map fun (name, hit) => (name, hit.toJson))),
    ("not_found", Json.ofStrings resolution.notFound)]

def LocalDirs.toJson (places : LocalDirs) : Value :=
  .obj [("base", Json.ofPath places.base), ("dirs", .arr (places.dirs.map Json.ofPath))]

def Settings.toJson (settings : Settings) : Value :=
  .obj [
    ("platform", .str settings.platform.word),
    ("system_roots", .arr (settings.systemRoots.map Json.ofPath)),
    ("common_includes", Json.ofStrings settings.listedHeaders),
    ("local_dirs", settings.localDirs.toJson),
    ("verbose", .bool settings.verbose)]

/-- The outcome of a run for one project. -/
structure Report where
  generatedAt : String
  project : Path
  catalogSize : Nat
  includes : IncludeNames
  resolution : Resolution

namespace Report

def version : Nat := 1

/-- The members of a report, with the version of its form and whether threads are needed. -/
def form (report : Report) (version : Nat) (threads : Bool) : Value :=
  .obj [
    ("version", .num version),
    ("generated_at", .str report.generatedAt),
    ("project", Json.ofPath report.project),
    ("catalog_size", .num report.catalogSize),
    ("includes", Json.ofStrings report.includes.toList),
    ("resolution", report.resolution.toJson),
    ("needs_threads", .bool threads)]

/-- The value of a report. Whether threads are needed is read off the names. -/
def toJson (report : Report) : Value :=
  report.form version (Include.needsThreads report.includes)

end Report

end HeaderSearch
