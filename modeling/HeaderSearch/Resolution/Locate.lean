/-
# Locating one include

A name is looked up in three ways, and the first that finds it settles the matter: as a catalogued
header right below one of the roots; as something on disk in one of the local directories; and as
the end of a catalogued path.
-/

import HeaderSearch.Catalog.Basic
import HeaderSearch.Disk.Lookup
import HeaderSearch.Log.Basic
import HeaderSearch.Resolution.Candidate
import HeaderSearch.Settings

namespace HeaderSearch

/-- The way in which an include was found: right below an include root, in a local directory, or at
the end of a catalogued path. -/
inductive Strategy where
  | system
  | localDir
  | fuzzy
  deriving DecidableEq, Repr

def Strategy.word : Strategy → String
  | .system => "system"
  | .localDir => "local"
  | .fuzzy => "fuzzy"

/-- Where an include was found, and how. -/
structure Hit where
  path : Path
  strategy : Strategy
  deriving DecidableEq, Repr

/-- Where includes are looked up: in a catalog, and in directories that are probed on a disk. -/
structure SearchSpace where
  catalog : Catalog
  localDirs : LocalDirs
  disk : Disk

namespace SearchSpace

/-- The name right below the first root where the catalog has it. The path is built from root and
name; the catalog may spell it in another way. -/
def systemPath? (space : SearchSpace) (name : String) : Option Path :=
  (space.catalog.roots.map fun root => root.cleanJoin (Path.ofString name)).find?
    (· ∈ space.catalog)

/-- The first local candidate under which there is anything. -/
def localPath? (space : SearchSpace) (name : String) : Option Path :=
  (space.localDirs.candidates name).find? space.disk.pathExists

/-- Does the text end with the name, behind a separator? -/
def endsWithName (name : String) (text : String) : Bool :=
  ('/' :: name.toList).isSuffixOf text.toList

/-- The texts of the catalogued paths that end with the name, in order. -/
def fuzzyCandidates (space : SearchSpace) (name : String) : List String :=
  ((space.catalog.entries.map Path.display).filter (endsWithName name)).mergeSort (· ≤ ·)

/-- The best of the catalogued paths that end with the name. -/
def fuzzyPath? (space : SearchSpace) (name : String) : Option Path :=
  (Candidate.best? Candidate.cxxKeyword (space.fuzzyCandidates name)).map Path.ofString

/-- Where a name is found, and how. -/
def locate? (space : SearchSpace) (name : String) : Option Hit :=
  match space.systemPath? name with
  | some path => some ⟨path, .system⟩
  | none =>
    match space.localPath? name with
    | some path => some ⟨path, .localDir⟩
    | none => (space.fuzzyPath? name).map (⟨·, .fuzzy⟩)

def fuzzyLog (space : SearchSpace) (name : String) : List Log.Entry :=
  let candidates := space.fuzzyCandidates name
  match Candidate.best? Candidate.cxxKeyword candidates with
  | none => []
  | some chosen =>
    [⟨.resolution, .debug, "Candidates for " ++ name ++ ":"⟩] ++
      candidates.map (fun candidate => ⟨.resolution, .debug, "\t" ++ candidate⟩) ++
      [⟨.resolution, .debug, "\tChose:\n\t" ++ chosen⟩]

def locateLog (space : SearchSpace) (name : String) : List Log.Entry :=
  let ranking :=
    if space.systemPath? name = none ∧ space.localPath? name = none then space.fuzzyLog name else []
  ranking ++
    match space.locate? name with
    | some hit => [⟨.resolution, .info, "FOUND: " ++ name ++ " -> " ++ hit.path.display⟩]
    | none => [⟨.resolution, .info, "NOT FOUND: " ++ name⟩]

end SearchSpace

end HeaderSearch
