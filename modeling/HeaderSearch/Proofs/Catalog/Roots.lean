/-
# Roots do not disturb one another

A catalog of several roots is put together from the catalogs of the single roots. Each root adds its
own headers behind those of the roots before it, as far as they are not listed yet, and notes its
own failures behind theirs. Nothing that happens in the walk of one root, be it that the root is
missing or that a directory in it cannot be listed, changes what is found below another.
-/

import HeaderSearch.Proofs.Catalog.Spellings
import HeaderSearch.Proofs.Disk.Order

namespace HeaderSearch.Catalog

variable {disk : Disk} {listed : List String} {catalog : Catalog} {root p : Path}

/-! ## Headers -/

theorem mem_foldl_insert {paths : List Path} :
    p ∈ paths.foldl insert catalog ↔ p ∈ catalog ∨ ∃ q ∈ paths, q.Same p := by
  induction paths generalizing catalog with
  | nil => simp
  | cons first rest ih =>
      rw [List.foldl_cons, ih, mem_insert]
      simp [or_assoc, or_left_comm]

theorem mem_ofEntries {roots paths : List Path} :
    p ∈ ofEntries roots paths ↔ ∃ q ∈ paths, q.Same p := by
  rw [ofEntries, mem_foldl_insert, or_iff_right (notMem_empty roots p)]

/-- To a catalog those paths are added that a catalog of their own would list, as far as they are
new, and in the same order. -/
theorem entries_foldl_insert (catalog : Catalog) (paths : List Path) :
    (paths.foldl insert catalog).entries =
      catalog.entries ++ (ofEntries [] paths).entries.filter (· ∉ catalog) := by
  induction paths using List.reverseRecOn with
  | nil => simp [ofEntries, empty]
  | append_singleton paths p ih =>
      have hown : ofEntries [] (paths ++ [p]) = (ofEntries [] paths).insert p :=
        List.foldl_concat ..
      have hmem : p ∈ paths.foldl insert catalog ↔ p ∈ catalog ∨ p ∈ ofEntries [] paths := by
        rw [mem_foldl_insert, mem_ofEntries]
      rw [List.foldl_concat, hown, entries_insert, entries_insert, ih]
      simp only [hmem]
      by_cases hold : p ∈ catalog
      · by_cases hlisted : p ∈ ofEntries [] paths <;> simp [hold, hlisted]
      · by_cases hlisted : p ∈ ofEntries [] paths <;> simp [hold, hlisted]

/-- To the entries roots add the headers of their walks, one root after another. -/
theorem entries_foldl_addRoot {catalog' : Catalog} {roots : List Path}
    (h : catalog.entries = catalog'.entries) :
    (roots.foldl (addRoot disk listed) catalog).entries =
      ((roots.flatMap (headersBelow disk listed)).foldl insert catalog').entries := by
  induction roots generalizing catalog catalog' with
  | nil => exact h
  | cons root rest ih =>
      rw [List.foldl_cons, List.flatMap_cons, List.foldl_append]
      exact ih (entries_addRoot h)

/-- A catalog lists what the walks find, one walk behind the other. -/
theorem entries_build (disk : Disk) (roots : List Path) (listed : List String) :
    (build disk roots listed).entries =
      (ofEntries [] (roots.flatMap (headersBelow disk listed))).entries :=
  entries_foldl_addRoot rfl

/-- Roots that are taken in later add what they would list on their own, as far as it is new. -/
theorem entries_build_append (disk : Disk) (front back : List Path) (listed : List String) :
    (build disk (front ++ back) listed).entries =
      (build disk front listed).entries ++
        (build disk back listed).entries.filter (· ∉ build disk front listed) := by
  have hfront : (front.foldl (addRoot disk listed) (empty (front ++ back))).entries =
      (build disk front listed).entries := by
    rw [entries_build, ofEntries]
    exact entries_foldl_addRoot rfl
  rw [build, List.foldl_append, entries_foldl_addRoot hfront, entries_foldl_insert,
    ← entries_build]

/-- The headers that one root does not find are listed as if it were not there. -/
theorem filter_entries_build_insert (disk : Disk) (front back : List Path) (root : Path)
    (listed : List String) :
    (build disk (front ++ root :: back) listed).entries.filter (· ∉ build disk [root] listed) =
      (build disk (front ++ back) listed).entries.filter (· ∉ build disk [root] listed) := by
  have hback : (build disk (root :: back) listed).entries = (build disk [root] listed).entries ++
      (build disk back listed).entries.filter (· ∉ build disk [root] listed) :=
    entries_build_append disk [root] back listed
  have hown : ∀ e ∈ (build disk [root] listed).entries, e ∈ build disk [root] listed :=
    fun e he => ⟨e, he, .refl e⟩
  rw [entries_build_append, entries_build_append, hback]
  simp only [List.filter_append, List.filter_filter]
  congr 1
  rw [List.filter_eq_nil_iff.2 fun e he => by simp [hown e he], List.nil_append]
  apply List.filter_congr
  intro e _
  rw [Bool.and_comm, Bool.and_assoc, Bool.and_self, Bool.and_comm]

/-! ## Failures -/

/-- What the walk of one root could not index. -/
def skippedBelow (disk : Disk) (root : Path) : List Skipped :=
  (disk.walk root).filterMap (Visit.skipped? root)

theorem skipped_insert (catalog : Catalog) (p : Path) :
    (catalog.insert p).skipped = catalog.skipped := by
  unfold insert
  split <;> rfl

theorem skipped_addVisit (catalog : Catalog) (root : Path) (visit : Visit) :
    (addVisit disk listed root catalog visit).skipped =
      catalog.skipped ++ (visit.skipped? root).toList := by
  cases visit with
  | rootFailure fault => rfl
  | dirFailure path fault => rfl
  | entry path type =>
      unfold addVisit
      rw [show (Visit.entry path type).skipped? root = none from rfl]
      cases (Visit.entry path type).header? disk listed with
      | none => exact (List.append_nil _).symm
      | some header => exact (skipped_insert catalog header).trans (List.append_nil _).symm

theorem skipped_addRoot (catalog : Catalog) (root : Path) :
    (addRoot disk listed catalog root).skipped = catalog.skipped ++ skippedBelow disk root := by
  unfold addRoot skippedBelow
  induction disk.walk root generalizing catalog with
  | nil => simp
  | cons visit rest ih =>
      rw [List.foldl_cons, ih, skipped_addVisit, List.append_assoc]
      cases hvisit : visit.skipped? root with
      | none => simp [hvisit]
      | some skipped => simp [hvisit]

/-- What is noted are the failures of the walks, root by root. -/
theorem skipped_build (disk : Disk) (roots : List Path) (listed : List String) :
    (build disk roots listed).skipped = roots.flatMap (skippedBelow disk) := by
  have fold (catalog : Catalog) : (roots.foldl (addRoot disk listed) catalog).skipped =
      catalog.skipped ++ roots.flatMap (skippedBelow disk) := by
    induction roots generalizing catalog with
    | nil => simp
    | cons root rest ih =>
        rw [List.foldl_cons, ih, skipped_addRoot, List.flatMap_cons, List.append_assoc]
  exact fold (empty roots)

/-- How the failing step of a walk of `root` is noted. -/
inductive NotedAs (root : Path) : Visit → Skipped → Prop where
  | root (fault : Fault) : NotedAs root (.rootFailure fault) (.root root fault)
  | dir (path : Path) (fault : Fault) : NotedAs root (.dirFailure path fault) (.dir path fault)

/-- Each failing step of a walk is noted once. -/
theorem forall₂_notedAs (disk : Disk) (root : Path) :
    List.Forall₂ (NotedAs root) ((disk.walk root).filter (·.entryPath?.isNone))
      (skippedBelow disk root) := by
  unfold skippedBelow
  induction disk.walk root with
  | nil => exact .nil
  | cons visit rest ih =>
      cases visit with
      | entry path type => exact ih
      | rootFailure fault => exact .cons (.root fault) ih
      | dirFailure path fault => exact .cons (.dir path fault) ih

/-- A root that cannot be entered has no headers. -/
theorem headersBelow_of_rootFailure {fault : Fault}
    (h : Visit.rootFailure fault ∈ disk.walk root) : headersBelow disk listed root = [] := by
  rw [headersBelow, Disk.rootFailure_mem_walk_iff.1 h]
  rfl

/-! ## Isolation -/

/-- The catalog of roots that are put together is that of the former, then what is new in that of
the latter, and the failures of both. So a root changes nothing about the headers that it does not
find itself, and one that cannot be entered changes nothing about the headers at all. Each failing
step of a walk is noted once: at the root, or at a directory below it. -/
theorem build_append_isolates_roots (disk : Disk) (front back : List Path) (listed : List String) :
    (build disk (front ++ back) listed).roots = front ++ back ∧
    (build disk (front ++ back) listed).entries =
      (build disk front listed).entries ++
        (build disk back listed).entries.filter (· ∉ build disk front listed) ∧
    (build disk (front ++ back) listed).skipped =
      (build disk front listed).skipped ++ (build disk back listed).skipped ∧
    (∀ root,
      (build disk (front ++ root :: back) listed).entries.filter (· ∉ build disk [root] listed) =
        (build disk (front ++ back) listed).entries.filter (· ∉ build disk [root] listed)) ∧
    (∀ root, List.Forall₂ (NotedAs root) ((disk.walk root).filter (·.entryPath?.isNone))
      (build disk [root] listed).skipped) ∧
    (∀ root fault, Visit.rootFailure fault ∈ disk.walk root →
      (build disk [root] listed).skipped = [.root root fault] ∧
        (build disk (front ++ root :: back) listed).entries =
          (build disk (front ++ back) listed).entries) ∧
    (∀ root path fault, Visit.dirFailure path fault ∈ disk.walk root →
      ∃ place entries inner, disk.find true root = .ok place ∧ place.node = .dir entries ∧
        Node.Below root entries path (.dir inner)) := by
  have hsingle (root : Path) : (build disk [root] listed).skipped = skippedBelow disk root := by
    rw [skipped_build, List.flatMap_singleton]
  refine ⟨roots_build _ _ _, entries_build_append _ _ _ _, ?_,
    fun root => filter_entries_build_insert _ _ _ _ _, ?_, ?_, ?_⟩
  · rw [skipped_build, skipped_build, skipped_build, List.flatMap_append]
  · intro root
    rw [hsingle]
    exact forall₂_notedAs disk root
  · intro root fault hfail
    constructor
    · rw [hsingle, skippedBelow, Disk.rootFailure_mem_walk_iff.1 hfail]
      rfl
    · simp only [entries_build, List.flatMap_append, List.flatMap_cons,
        headersBelow_of_rootFailure hfail, List.nil_append]
  · intro root path fault hfail
    exact (Disk.dirFailure_mem_walk_iff.1 hfail).2.2

/-- A disk on which `inc/sys` lies in `inc`, and nothing else is there. -/
def nestedDisk : Disk :=
  ⟨.dir [(Utf8.encode "inc", .dir [
    (Utf8.encode "sys", .dir [(Utf8.encode "b.h", .file [])]),
    (Utf8.encode "a.h", .file [])])], []⟩

/-- A root that is missing is noted between two others, the second of which lists what the first
has not listed yet. -/
theorem build_nestedDisk_isolated :
    (build nestedDisk [Path.ofString "inc/sys", Path.ofString "inc/"] []).entries =
      [Path.ofString "inc/sys/b.h", Path.ofString "inc/a.h"] ∧
    (build nestedDisk [Path.ofString "gone"] []).skipped = [.root (Path.ofString "gone") .missing] ∧
    (build nestedDisk [Path.ofString "inc/sys", Path.ofString "gone", Path.ofString "inc/"]
      []).entries =
        (build nestedDisk [Path.ofString "inc/sys", Path.ofString "inc/"] []).entries := by
  obtain ⟨-, -, -, -, -, hgone, -⟩ := build_append_isolates_roots nestedDisk
    [Path.ofString "inc/sys"] [Path.ofString "inc/"] []
  refine ⟨by decide +kernel, hgone _ .missing ?_⟩
  decide +kernel

end HeaderSearch.Catalog
