/-
# The first stage that answers decides

A stage is asked only if the stages before it have failed. So the answer of the system stage rests
on whether the catalog has the name below each root and on nothing else, and that of the local stage
on what is found under the candidates. Two searches which agree on these questions give the same
answer, however they differ in what a later stage would have looked at.
-/

import HeaderSearch.Proofs.Resolution.Stages

namespace HeaderSearch.SearchSpace

open HeaderSearch.Path

/-- The catalog has the name below the root. -/
def HasBelow (space : SearchSpace) (root : Path) (name : String) : Prop :=
  root.cleanJoin (ofString name) ∈ space.catalog

instance (space : SearchSpace) (root : Path) (name : String) :
    Decidable (space.HasBelow root name) :=
  inferInstanceAs (Decidable (root.cleanJoin (ofString name) ∈ space.catalog))

/-- Two searches have the same roots, and they have the name below the same of them. -/
structure AgreeOnRoots (space other : SearchSpace) (name : String) : Prop where
  roots : space.catalog.roots = other.catalog.roots
  hasBelow : ∀ root ∈ space.catalog.roots, space.HasBelow root name ↔ other.HasBelow root name

/-- Two searches probe the same candidates for the name, and find something under the same of
them. -/
structure AgreeOnProbes (space other : SearchSpace) (name : String) : Prop where
  localDirs : space.localDirs = other.localDirs
  pathExists : ∀ candidate ∈ space.localDirs.candidates name,
    space.disk.pathExists candidate = other.disk.pathExists candidate

variable {space other : SearchSpace} {name : String}

theorem AgreeOnRoots.systemPath?_eq (h : space.AgreeOnRoots other name) :
    space.systemPath? name = other.systemPath? name := by
  rw [systemPath?, systemPath?, ← h.roots, ← List.head?_filter, ← List.head?_filter]
  congr 1
  apply List.filter_congr
  intro candidate hcandidate
  obtain ⟨root, hroot, rfl⟩ := List.mem_map.1 hcandidate
  exact decide_eq_decide.2 (h.hasBelow root hroot)

theorem AgreeOnProbes.localPath?_eq (h : space.AgreeOnProbes other name) :
    space.localPath? name = other.localPath? name := by
  rw [localPath?, localPath?, ← h.localDirs, ← List.head?_filter, ← List.head?_filter,
    List.filter_congr h.pathExists]

/-- If the catalog has the name below some root, the answer is the first such root's. -/
theorem locate?_of_hasBelow (h : ∃ root ∈ space.catalog.roots, space.HasBelow root name) :
    ∃ before root after, space.catalog.roots = before ++ root :: after ∧
      space.HasBelow root name ∧ (∀ earlier ∈ before, ¬ space.HasBelow earlier name) ∧
      space.systemPath? name = some (root.cleanJoin (ofString name)) := by
  obtain ⟨root, hroot, hbelow⟩ := h
  cases hfound : space.systemPath? name with
  | none => exact absurd hbelow (systemPath?_eq_none_iff.1 hfound root hroot)
  | some path =>
      obtain ⟨before, first, after, hsplit, rfl, hfirst, hbefore⟩ :=
        systemPath?_eq_some_iff.1 hfound
      exact ⟨before, first, after, hsplit, hfirst, hbefore, rfl⟩

/-- If there is anything under some candidate, the local stage takes the first such candidate. -/
theorem localPath?_of_pathExists
    (h : ∃ candidate ∈ space.localDirs.candidates name, space.disk.pathExists candidate = true) :
    ∃ before path after, space.localDirs.candidates name = before ++ path :: after ∧
      space.disk.pathExists path = true ∧
      (∀ earlier ∈ before, space.disk.pathExists earlier = false) ∧
      space.localPath? name = some path := by
  obtain ⟨candidate, hcandidate, hexists⟩ := h
  cases hfound : space.localPath? name with
  | none => exact absurd hexists (List.find?_eq_none.1 hfound candidate hcandidate)
  | some path =>
      obtain ⟨before, after, hsplit, hpath, hbefore⟩ := localPath?_eq_some_iff.1 hfound
      exact ⟨before, path, after, hsplit, hpath, hbefore, rfl⟩

/-- Two searches that have the name below the same roots, and below one of them at all, both answer
with the first such root. Two searches that have it below none, and find something under the same
candidates, and under one of them at all, both answer with the first such candidate. -/
theorem locate?_eq_of_earlier_stage (space other : SearchSpace) (name : String) :
    (space.AgreeOnRoots other name → (∃ root ∈ space.catalog.roots, space.HasBelow root name) →
      ∃ before root after, space.catalog.roots = before ++ root :: after ∧
        space.HasBelow root name ∧ (∀ earlier ∈ before, ¬ space.HasBelow earlier name) ∧
        space.locate? name = some ⟨root.cleanJoin (ofString name), .system⟩ ∧
        other.locate? name = some ⟨root.cleanJoin (ofString name), .system⟩) ∧
    ((∀ root ∈ space.catalog.roots, ¬ space.HasBelow root name) →
      (∀ root ∈ other.catalog.roots, ¬ other.HasBelow root name) →
      space.AgreeOnProbes other name →
      (∃ candidate ∈ space.localDirs.candidates name, space.disk.pathExists candidate = true) →
      ∃ before path after, space.localDirs.candidates name = before ++ path :: after ∧
        space.disk.pathExists path = true ∧
        (∀ earlier ∈ before, space.disk.pathExists earlier = false) ∧
        space.locate? name = some ⟨path, .localDir⟩ ∧
        other.locate? name = some ⟨path, .localDir⟩) := by
  constructor
  · intro hagree hbelow
    obtain ⟨before, root, after, hsplit, hroot, hbefore, hfound⟩ := locate?_of_hasBelow hbelow
    refine ⟨before, root, after, hsplit, hroot, hbefore, locate?_system_iff.2 hfound, ?_⟩
    rw [hagree.systemPath?_eq] at hfound
    exact locate?_system_iff.2 hfound
  · intro hnone hnone' hagree hexists
    obtain ⟨before, path, after, hsplit, hpath, hbefore, hfound⟩ :=
      localPath?_of_pathExists hexists
    have hsystem := systemPath?_eq_none_iff.2 hnone
    have hsystem' := systemPath?_eq_none_iff.2 hnone'
    refine ⟨before, path, after, hsplit, hpath, hbefore,
      locate?_localDir_iff.2 ⟨hsystem, hfound⟩, ?_⟩
    rw [hagree.localPath?_eq] at hfound
    exact locate?_localDir_iff.2 ⟨hsystem', hfound⟩

/-- A search below two roots among some headers, with a project beside it. -/
def twoRootSpace (headers : List Path) (project : List (Name × Node)) : SearchSpace :=
  ⟨.ofEntries [ofString "/a", ofString "/b"] headers, .conventional, ⟨.dir project, []⟩⟩

/-- A search that has `x.h` below the second root and nothing else. -/
def bareSpace : SearchSpace :=
  twoRootSpace [ofString "/b/x.h"] [(Utf8.encode "y.h", .file [])]

/-- A search that has more headers of both names in other places, and a local `x.h`. -/
def crowdedSpace : SearchSpace :=
  twoRootSpace [ofString "/a/c++/x.h", ofString "/b/./x.h", ofString "/a/c++/y.h"]
    [(Utf8.encode "x.h", .file []), (Utf8.encode "y.h", .file [])]

/-- Both searches answer `x.h` below the second root and `y.h` in the project. -/
theorem bareSpace_and_crowdedSpace_answer_alike :
    (∃ before root after, bareSpace.catalog.roots = before ++ root :: after ∧
      bareSpace.HasBelow root "x.h" ∧ (∀ earlier ∈ before, ¬ bareSpace.HasBelow earlier "x.h") ∧
      bareSpace.locate? "x.h" = some ⟨root.cleanJoin (ofString "x.h"), .system⟩ ∧
      crowdedSpace.locate? "x.h" = some ⟨root.cleanJoin (ofString "x.h"), .system⟩) ∧
    ∃ before path after, bareSpace.localDirs.candidates "y.h" = before ++ path :: after ∧
      bareSpace.disk.pathExists path = true ∧
      (∀ earlier ∈ before, bareSpace.disk.pathExists earlier = false) ∧
      bareSpace.locate? "y.h" = some ⟨path, .localDir⟩ ∧
      crowdedSpace.locate? "y.h" = some ⟨path, .localDir⟩ := by
  have hroots : bareSpace.AgreeOnRoots crowdedSpace "x.h" := by
    refine ⟨by decide +kernel, ?_⟩
    decide +kernel
  have hprobes : bareSpace.AgreeOnProbes crowdedSpace "y.h" := by
    refine ⟨by decide +kernel, ?_⟩
    decide +kernel
  obtain ⟨hsystem, -⟩ := locate?_eq_of_earlier_stage bareSpace crowdedSpace "x.h"
  obtain ⟨-, hlocal⟩ := locate?_eq_of_earlier_stage bareSpace crowdedSpace "y.h"
  exact ⟨hsystem hroots (by decide +kernel),
    hlocal (by decide +kernel) (by decide +kernel) hprobes (by decide +kernel)⟩

end HeaderSearch.SearchSpace
