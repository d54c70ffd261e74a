/-
# The package system

Names that are not on disk may belong to packages that are not installed, so the package system is
asked about each of them. In the other direction, every directory from which a found header is
included is handed to the package system, which knows how a compiler is told about it.
-/

import HeaderSearch.Path.Parent
import HeaderSearch.Resolution.Basic

namespace HeaderSearch

/-- The causes of a failed look-up, the outermost first. -/
abbrev LookupFailure := List String

/-- A source of packages: the paths that the package with a header installs, and the compiler flag
that puts a directory on the include path. -/
structure PackageSystem where
  provides : String → Except LookupFailure (List Path)
  flag : Path → String

def LookupFailure.entry (causes : LookupFailure) (name : String) : Log.Entry :=
  ⟨.packages, .warn, "package lookup for " ++ name ++ " failed: " ++ ": ".intercalate causes⟩

/-- What came of asking about names: those for which there is something, in the order of the
questions, with their paths, and the entries made for the look-ups that failed. -/
structure Fallback where
  provided : List (String × List Path)
  log : List Log.Entry
  deriving DecidableEq, Repr

namespace Fallback

def empty : Fallback := ⟨[], []⟩

/-- Take in the answer to one more question. A name is left out if there is nothing for it, or if
its look-up fails. -/
def record (fallback : Fallback) (name : String) : Except LookupFailure (List Path) → Fallback
  | .ok [] => fallback
  | .ok paths => { fallback with provided := fallback.provided ++ [(name, paths)] }
  | .error causes => { fallback with log := fallback.log ++ [causes.entry name] }

end Fallback

namespace Resolution

/-- Ask about every name that was not found, one after the other. Asking may have effects. -/
def askAll {m : Type → Type} [Monad m] (resolution : Resolution)
    (ask : String → m (Except LookupFailure (List Path))) : m Fallback :=
  resolution.notFound.foldlM (fun fallback name => fallback.record name <$> ask name) .empty

/-- What the package system has for the names that were not found. -/
def fallback (resolution : Resolution) (packages : PackageSystem) : List (String × List Path) :=
  (Id.run (resolution.askAll packages.provides)).provided

def fallbackLog (resolution : Resolution) (packages : PackageSystem) : List Log.Entry :=
  (Id.run (resolution.askAll packages.provides)).log

/-- The directories from which the found names are included, in path order and each once, under
the spelling that comes last in name order. -/
def includeDirs (resolution : Resolution) : List Path :=
  collectByKey Path.key
    (resolution.found.filterMap fun (name, hit) => hit.path.includeDir? (Path.ofString name))

def flags (resolution : Resolution) (packages : PackageSystem) : List String :=
  resolution.includeDirs.map packages.flag

end Resolution

end HeaderSearch
