/-
# Resolutions

A resolution says of every name in a set where it was found, or that it was not found. Names are
looked up independently of each other, and both lists keep the order of the set.
-/

import HeaderSearch.Include.Names
import HeaderSearch.Resolution.Locate

namespace HeaderSearch

/-- Where the names of a set were found and which were not found, both in order. -/
structure Resolution where
  found : List (String × Hit)
  notFound : List String
  deriving DecidableEq, Repr

namespace Resolution

def empty : Resolution := ⟨[], []⟩

def hit? (resolution : Resolution) (name : String) : Option Hit := resolution.found.lookup name

def path? (resolution : Resolution) (name : String) : Option Path :=
  (resolution.hit? name).map Hit.path

/-- The lines in which the outcome is printed: the headers found, then the names not found. -/
def lines (resolution : Resolution) : List String :=
  resolution.found.map (fun (_, hit) => "FOUND: " ++ hit.path.display) ++
    resolution.notFound.map ("NOT FOUND: " ++ ·)

end Resolution

namespace SearchSpace

/-- Look up every name of a set. -/
def resolve (space : SearchSpace) (names : IncludeNames) : Resolution where
  found := names.toList.filterMap fun name => (space.locate? name).map (name, ·)
  notFound := names.toList.filter fun name => (space.locate? name).isNone

def resolveLog (space : SearchSpace) (names : IncludeNames) : List Log.Entry :=
  names.toList.flatMap space.locateLog

end SearchSpace

end HeaderSearch
