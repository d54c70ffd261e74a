/-
# The order of directory listings

Directories list their entries in whatever order they like, and a walk that indexes headers follows
it. Yet no answer depends on it. A project is scanned in the order of names; a catalog has the same
entries in another order; and of the three ways to look a name up, the first asks only whether a
path is catalogued, the second does not ask the catalog, and the third sorts the entries before it
chooses among them.
-/

import HeaderSearch.Project.Scan
import HeaderSearch.Proofs.Catalog.Spellings
import HeaderSearch.Resolution.Basic

namespace HeaderSearch

namespace SearchSpace

/-- Two places to search that differ at most in the order of the catalogued headers. -/
structure Alike (space other : SearchSpace) : Prop where
  roots : space.catalog.roots = other.catalog.roots
  entries : space.catalog.entries.Perm other.catalog.entries
  localDirs : space.localDirs = other.localDirs
  pathExists : ∀ p, space.disk.pathExists p = other.disk.pathExists p

namespace Alike

variable {space other : SearchSpace}

theorem systemPath?_eq (h : space.Alike other) (name : String) :
    space.systemPath? name = other.systemPath? name := by
  have hmem : ∀ p, p ∈ space.catalog ↔ p ∈ other.catalog := fun p =>
    Catalog.mem_iff_of_entries fun _ => h.entries.mem_iff
  simp only [systemPath?, h.roots, hmem]

theorem localPath?_eq (h : space.Alike other) (name : String) :
    space.localPath? name = other.localPath? name := by
  rw [localPath?, localPath?, h.localDirs, funext h.pathExists]

theorem fuzzyCandidates_eq (h : space.Alike other) (name : String) :
    space.fuzzyCandidates name = other.fuzzyCandidates name := by
  apply mergeSort_eq_of_perm
  · intro a b c hab hbc
    simp only [decide_eq_true_eq] at *
    exact String.le_trans hab hbc
  · intro a b
    simpa using String.le_total a b
  · intro a _ b _ hab hba
    simp only [decide_eq_true_eq] at *
    exact String.le_antisymm hab hba
  · exact (h.entries.map Path.display).filter _

theorem locate?_eq (h : space.Alike other) (name : String) :
    space.locate? name = other.locate? name := by
  simp only [locate?, fuzzyPath?, h.systemPath?_eq, h.localPath?_eq, h.fuzzyCandidates_eq]

theorem resolve_eq (h : space.Alike other) (names : IncludeNames) :
    space.resolve names = other.resolve names := by
  simp only [resolve, h.locate?_eq]

end Alike

end SearchSpace

namespace Disk.Reordered

variable {disk other : Disk}

theorem readAll_eq (h : disk.Reordered other) (hproper : disk.root.Proper) (files : List Path) :
    Project.readAll disk files = Project.readAll other files := by
  induction files with
  | nil => rfl
  | cons file rest ih =>
      rw [Project.readAll, Project.readAll, ih,
        (h.related hproper).readFile_eq Node.bisimulation_reordered]

theorem scan_eq (h : disk.Reordered other) (hproper : disk.root.Proper) (root : Path) :
    Project.scan disk root = Project.scan other root := by
  simp only [Project.scan, h.sortedWalk_eq hproper, h.readAll_eq hproper]

/-- The same roots are searched alike on disks that differ in listing order. -/
theorem alike (h : disk.Reordered other) (hproper : disk.root.Proper) (roots : List Path)
    (listed : List String) (localDirs : LocalDirs) :
    (SearchSpace.mk (.build disk roots listed) localDirs disk).Alike
      (SearchSpace.mk (.build other roots listed) localDirs other) where
  roots := by
    rw [Catalog.roots_build, Catalog.roots_build]
  entries := Catalog.entries_build_perm h hproper roots listed
  localDirs := rfl
  pathExists := (h.related hproper).pathExists_eq Node.bisimulation_reordered

/-- On disks that differ only in the order in which directories list their entries, every project
is scanned with the same result, every catalog has the same entries up to their order, and every
set of names is resolved in the same way. -/
theorem scan_and_resolve_agree (h : disk.Reordered other) (hproper : disk.root.Proper) :
    (∀ root, Project.scan disk root = Project.scan other root) ∧
    ∀ roots listed,
      (Catalog.build disk roots listed).entries.Perm (Catalog.build other roots listed).entries ∧
      ∀ localDirs names,
        (SearchSpace.mk (.build disk roots listed) localDirs disk).resolve names =
          (SearchSpace.mk (.build other roots listed) localDirs other).resolve names := by
  refine ⟨h.scan_eq hproper, fun roots listed => ⟨?_, ?_⟩⟩
  · exact Catalog.entries_build_perm h hproper roots listed
  · intro localDirs names
    exact (h.alike hproper roots listed localDirs).resolve_eq names

/-- A disk with three headers below `inc`, next to a source. -/
def listedDisk : Disk :=
  ⟨.dir [
    (Utf8.encode "inc", .dir [
      (Utf8.encode "a.h", .file []),
      (Utf8.encode "sys", .dir [(Utf8.encode "b.h", .file []), (Utf8.encode "c.h", .file [])])]),
    (Utf8.encode "main.c", .file (Utf8.encode "#include <b.h>"))], []⟩

/-- The same disk with every directory listed from the back. -/
def relistedDisk : Disk :=
  ⟨.dir [
    (Utf8.encode "main.c", .file (Utf8.encode "#include <b.h>")),
    (Utf8.encode "inc", .dir [
      (Utf8.encode "sys", .dir [(Utf8.encode "c.h", .file []), (Utf8.encode "b.h", .file [])]),
      (Utf8.encode "a.h", .file [])])], []⟩

theorem reordered_swap {name name' : Name} {first first' second second' : Node}
    (hfirst : first.Reordered first') (hsecond : second.Reordered second') :
    (Node.dir [(name, first), (name', second)]).Reordered
      (.dir [(name', second'), (name, first')]) := by
  refine .dir [(name, first, first'), (name', second, second')] (.refl _) (.swap _ _ _) ?_
  exact List.forall_mem_cons.2 ⟨hfirst, List.forall_mem_singleton.2 hsecond⟩

theorem reordered_relistedDisk : listedDisk.Reordered relistedDisk :=
  ⟨reordered_swap (reordered_swap (.file _) (reordered_swap (.file _) (.file _))) (.file _), rfl⟩

/-- The catalogs of the two disks list their headers from opposite ends, and agree otherwise. -/
theorem relistedDisk_agrees :
    (Catalog.build listedDisk [Path.ofString "inc"] []).entries =
      [Path.ofString "inc/a.h", Path.ofString "inc/sys/b.h", Path.ofString "inc/sys/c.h"] ∧
    (Catalog.build relistedDisk [Path.ofString "inc"] []).entries =
      [Path.ofString "inc/sys/c.h", Path.ofString "inc/sys/b.h", Path.ofString "inc/a.h"] ∧
    (∀ root, Project.scan listedDisk root = Project.scan relistedDisk root) ∧
    ∀ roots listed,
      (Catalog.build listedDisk roots listed).entries.Perm
        (Catalog.build relistedDisk roots listed).entries ∧
      ∀ localDirs names,
        (SearchSpace.mk (.build listedDisk roots listed) localDirs listedDisk).resolve names =
          (SearchSpace.mk (.build relistedDisk roots listed) localDirs relistedDisk).resolve
            names := by
  refine ⟨?_, ?_, scan_and_resolve_agree reordered_relistedDisk ?_⟩
  all_goals decide +kernel

end Disk.Reordered

end HeaderSearch
