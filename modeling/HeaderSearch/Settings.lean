/-
# Search settings

Where headers may be: the include roots of the system, which are walked, and directories beside
the project, which are only probed for the names that the project includes. Some of the latter
climb out of the project, so walking them could lead anywhere.
-/

import HeaderSearch.Path.Clean
import HeaderSearch.Platform.Basic

namespace HeaderSearch

/-- Directories that are probed for headers, in this order, as seen from a common base. -/
structure LocalDirs where
  base : Path
  dirs : List Path
  deriving DecidableEq, Repr

namespace LocalDirs

/-- The directories in which projects keep their headers by convention. -/
def conventionalDirs : List Path :=
  [".", "include", "Include", "..", "../include", "../Include", "common", "Common", "../common",
    "../Common"].map Path.ofString

def defaultBase : Path := Path.ofString "."

/-- The conventional directories around the working directory. -/
def conventional : LocalDirs := ⟨defaultBase, conventionalDirs⟩

/-- The paths under which a name is probed, in order. -/
def candidates (places : LocalDirs) (name : String) : List Path :=
  places.dirs.map fun dir => (places.base.join dir).cleanJoin (Path.ofString name)

example : ((conventional.candidates "a.h").map Path.display).take 5 =
    ["a.h", "include/a.h", "Include/a.h", "../a.h", "../include/a.h"] := by decide +kernel

end LocalDirs

/-- Everything that a run has to know about where headers may be: the platform whose defaults are
used, the include roots of the system in search order, the names admitted as headers beside those
with a header's extension, and the directories that are probed. -/
structure Settings where
  platform : Platform
  systemRoots : List Path
  listedHeaders : List String
  localDirs : LocalDirs
  verbose : Bool

namespace Settings

def ofPlatform (platform : Platform) : Settings where
  platform := platform
  systemRoots := platform.systemRoots
  listedHeaders := platform.listedHeaders
  localDirs := .conventional
  verbose := false

/-- Search one more root, after the others. A root that is there under any spelling stays where
it is. -/
def addRoot (settings : Settings) (root : Path) : Settings :=
  if ∃ known ∈ settings.systemRoots, known.Same root then settings
  else { settings with systemRoots := settings.systemRoots ++ [root] }

/-- Search more roots, after the others and in order. -/
def addRoots (settings : Settings) (roots : List Path) : Settings := roots.foldl addRoot settings

/-- Probe the local directories as seen from another base. -/
def withBase (settings : Settings) (base : Path) : Settings :=
  { settings with localDirs := { settings.localDirs with base } }

def rootsVariable : String := "INCLUDE_LOCATOR_ROOTS"

def colon : UInt8 := 0x3A

/-- The roots in a list separated by colons. Nothing between two colons is no root. -/
def listedRoots (list : List UInt8) : List Path :=
  ((list.splitOn colon).filter (· ≠ [])).map Path.mk

/-- The defaults of the platform at hand, with the roots in a list, which need not be text. -/
def ofListed (list? : Option (List UInt8)) : Settings :=
  (ofPlatform .host).addRoots ((list?.map listedRoots).getD [])

/-- The defaults of the platform at hand, with the roots listed in the environment. -/
def ofEnvironment (roots : Option String) : Settings := ofListed (roots.map Utf8.encode)

end Settings

end HeaderSearch
