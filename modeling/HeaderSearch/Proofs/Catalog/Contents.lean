/-
# What a built catalog contains

The steps of a walk are taken in one by one. Each of them adds the header that it finds, if it
finds one, and takes nothing away; what could not be indexed is noted beside the headers. So the
catalog of a list of roots contains exactly the headers that the walk of some root admits, and it
does not matter which root that was.
-/

import HeaderSearch.Catalog.Index

namespace HeaderSearch.Catalog

variable {disk : Disk} {listed : List String}

/-- The headers that the walk of one root admits, in the order of the walk. -/
def headersBelow (disk : Disk) (listed : List String) (root : Path) : List Path :=
  (disk.walk root).filterMap (Visit.header? disk listed)

/-- No walk leads anywhere from the empty path. -/
theorem bytes_ne_nil_of_mem_headersBelow {root p : Path} (h : p ∈ headersBelow disk listed root) :
    root.bytes ≠ [] := by
  intro hnil
  have hfind : disk.find false root = .error .missing := by
    simp [Disk.find, hnil]
  rw [headersBelow, Disk.walk, Disk.walkBy, hfind] at h
  simp [Visit.header?] at h

theorem notMem_empty (roots : List Path) (p : Path) : p ∉ empty roots := by
  rintro ⟨e, he, -⟩
  cases he

theorem roots_insert (catalog : Catalog) (p : Path) : (catalog.insert p).roots = catalog.roots := by
  unfold insert
  split <;> rfl

theorem roots_addVisit (root : Path) (catalog : Catalog) (visit : Visit) :
    (addVisit disk listed root catalog visit).roots = catalog.roots := by
  unfold addVisit
  split
  · rfl
  · exact roots_insert catalog _
  · rfl

/-- A step of a walk adds the header that it finds, and nothing else. -/
theorem mem_addVisit {root : Path} {catalog : Catalog} {visit : Visit} {p : Path} :
    p ∈ addVisit disk listed root catalog visit ↔
      p ∈ catalog ∨ ∃ q, visit.header? disk listed = some q ∧ q.Same p := by
  cases visit with
  | rootFailure fault => simp [addVisit, Visit.skipped?, Visit.header?, skip, Membership.mem]
  | dirFailure path fault => simp [addVisit, Visit.skipped?, Visit.header?, skip, Membership.mem]
  | entry path type =>
      unfold addVisit
      rw [show (Visit.entry path type).skipped? root = none from rfl]
      cases hvisit : (Visit.entry path type).header? disk listed with
      | none => simp
      | some q =>
          dsimp only
          rw [mem_insert]
          simp [or_comm]

theorem roots_addRoot (catalog : Catalog) (root : Path) :
    (addRoot disk listed catalog root).roots = catalog.roots := by
  unfold addRoot
  induction disk.walk root generalizing catalog with
  | nil => rfl
  | cons visit rest ih => rw [List.foldl_cons, ih, roots_addVisit]

/-- Taking in a root adds the headers that its walk admits. -/
theorem mem_addRoot {catalog : Catalog} {root p : Path} :
    p ∈ addRoot disk listed catalog root ↔
      p ∈ catalog ∨ ∃ q ∈ headersBelow disk listed root, q.Same p := by
  unfold addRoot headersBelow
  induction disk.walk root generalizing catalog with
  | nil => simp
  | cons visit rest ih =>
      rw [List.foldl_cons, ih, mem_addVisit, or_assoc]
      cases hvisit : visit.header? disk listed with
      | none => simp [hvisit]
      | some q => simp [hvisit]

theorem roots_foldl_addRoot (roots : List Path) (catalog : Catalog) :
    (roots.foldl (addRoot disk listed) catalog).roots = catalog.roots := by
  induction roots generalizing catalog with
  | nil => rfl
  | cons root rest ih => rw [List.foldl_cons, ih, roots_addRoot]

/-- The roots of a built catalog are searched in the order in which they were indexed. -/
theorem roots_build (disk : Disk) (roots : List Path) (listed : List String) :
    (build disk roots listed).roots = roots := roots_foldl_addRoot roots (empty roots)

theorem mem_foldl_addRoot {roots : List Path} {catalog : Catalog} {p : Path} :
    p ∈ roots.foldl (addRoot disk listed) catalog ↔
      p ∈ catalog ∨ ∃ root ∈ roots, ∃ q ∈ headersBelow disk listed root, q.Same p := by
  induction roots generalizing catalog with
  | nil => simp
  | cons root rest ih =>
      rw [List.foldl_cons, ih, mem_addRoot, or_assoc]
      simp

/-- A built catalog contains exactly what the walk of some root admits. -/
theorem mem_build {roots : List Path} {p : Path} :
    p ∈ build disk roots listed ↔
      ∃ root ∈ roots, ∃ q ∈ headersBelow disk listed root, q.Same p := by
  rw [build, mem_foldl_addRoot]
  simp [notMem_empty]

end HeaderSearch.Catalog
