/-
# Indexing the include roots

Each root is walked in turn. A file, or a link to a file, is listed if it is a header. A root that
cannot be walked, or a directory that cannot be listed, is noted and does not disturb the others.
-/

import HeaderSearch.Catalog.Basic
import HeaderSearch.Catalog.Header
import HeaderSearch.Disk.Walk
import HeaderSearch.Log.Basic
import HeaderSearch.Text.Quoted

namespace HeaderSearch

namespace Visit

/-- The header that a step of a walk finds, links followed. -/
def header? (disk : Disk) (listed : List String) : Visit → Option Path
  | .entry path type =>
    if (type = .file ∨ (type = .link ∧ disk.isFile path)) ∧ path.isHeader listed then some path
    else none
  | _ => none

/-- What a step of a walk below `root` could not index. -/
def skipped? (root : Path) : Visit → Option Skipped
  | .entry _ _ => none
  | .rootFailure fault => some (.root root fault)
  | .dirFailure path fault => some (.dir path fault)

end Visit

namespace Catalog

def addVisit (disk : Disk) (listed : List String) (root : Path) (catalog : Catalog)
    (visit : Visit) : Catalog :=
  match visit.skipped? root, visit.header? disk listed with
  | some skipped, _ => catalog.skip skipped
  | none, some header => catalog.insert header
  | none, none => catalog

def addRoot (disk : Disk) (listed : List String) (catalog : Catalog) (root : Path) : Catalog :=
  (disk.walk root).foldl (addVisit disk listed root) catalog

/-- Index the roots, admitting the listed names beside the files with a header's extension. -/
def build (disk : Disk) (roots : List Path) (listed : List String) : Catalog :=
  roots.foldl (addRoot disk listed) (empty roots)

/-- The entry for one step of the walk of `root`, also for a header that is listed already. -/
def visitLog (disk : Disk) (listed : List String) (root : Path) (visit : Visit) : List Log.Entry :=
  match visit.skipped? root, visit.header? disk listed with
  | some skipped, _ => [⟨.catalog, .info, skipped.message⟩]
  | none, some header => [⟨.catalog, .debug, "added: " ++ Text.quoted header.bytes⟩]
  | none, none => []

def buildLog (disk : Disk) (roots : List Path) (listed : List String) : List Log.Entry :=
  (roots.flatMap fun root => (disk.walk root).flatMap (visitLog disk listed root)) ++
    [⟨.catalog, .info, s!"Found {(build disk roots listed).entries.length} include files in " ++
      ", ".intercalate (roots.map Path.display)⟩]

end Catalog

end HeaderSearch
