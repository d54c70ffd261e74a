/-
# The sources of a project

What a scan has to read are the entries that its walk visits as something other than a directory,
as far as their extensions are recognised. They are sorted into one list for each kind. Since the
kind is told by the path alone, each source goes into exactly one of the lists, and none of the
lists changes the order.
-/

import HeaderSearch.Project.Scan
import HeaderSearch.Proofs.Disk.Order

namespace HeaderSearch

namespace Visit

variable {visit : Visit} {path : Path} {kind : SourceKind}

/-- The path that a step visits as something other than a directory, if its extension is
recognised. -/
def sourcePath? : Visit → Option Path
  | .entry path type => if type ≠ .dir ∧ (SourceKind.ofPath? path).isSome then some path else none
  | _ => none

theorem sourcePath?_eq_some_iff : visit.sourcePath? = some path ↔
    ∃ type, visit = .entry path type ∧ type ≠ .dir ∧ (SourceKind.ofPath? path).isSome := by
  cases visit with
  | entry own type =>
      simp only [sourcePath?, Option.ite_none_right_eq_some, Option.some.injEq, entry.injEq]
      constructor
      · rintro ⟨htests, rfl⟩
        exact ⟨type, ⟨rfl, rfl⟩, htests⟩
      · rintro ⟨_, ⟨rfl, rfl⟩, htests⟩
        exact ⟨htests, rfl⟩
  | rootFailure fault => simp [sourcePath?]
  | dirFailure own fault => simp [sourcePath?]

theorem source?_eq_some_iff : visit.source? = some (path, kind) ↔
    visit.sourcePath? = some path ∧ SourceKind.ofPath? path = some kind := by
  cases visit with
  | entry own type =>
      cases type with
      | dir => simp [source?, sourcePath?]
      | file | link =>
          show (SourceKind.ofPath? own).map (own, ·) = some (path, kind) ↔ _
          rw [Option.map_eq_some_iff, sourcePath?_eq_some_iff]
          constructor
          · rintro ⟨own, hkind, hpair⟩
            cases hpair
            exact ⟨⟨_, rfl, nofun, Option.isSome_of_eq_some hkind⟩, hkind⟩
          · rintro ⟨⟨_, hentry, -⟩, hkind⟩
            cases hentry
            exact ⟨kind, hkind, rfl⟩
  | rootFailure fault => simp [source?, sourcePath?]
  | dirFailure own fault => simp [source?, sourcePath?]

end Visit

namespace SourceFiles

/-- The files of one kind. -/
def get (files : SourceFiles) : SourceKind → List Path
  | .header => files.headers
  | .c => files.c
  | .cpp => files.cpp

/-- The sources are sorted by kind: each of them is put once into the list of its own kind and into
no other list, and sources of one kind keep their order. -/
structure Sorts (files : SourceFiles) (sources : List Path) : Prop where
  sublist : ∀ kind, (files.get kind).Sublist sources
  kind : ∀ kind, ∀ file ∈ files.get kind, SourceKind.ofPath? file = some kind
  disjoint : ∀ kind other, kind ≠ other → (files.get kind).Disjoint (files.get other)
  perm : files.all.Perm sources

theorem get_ofVisits (visits : List Visit) (kind : SourceKind) :
    (ofVisits visits).get kind =
      (visits.filterMap Visit.sourcePath?).filter (SourceKind.ofPath? · = some kind) := by
  have hget : (ofVisits visits).get kind = ofVisits.ofKind visits kind := by
    cases kind <;> rfl
  rw [hget, ofVisits.ofKind, List.filterMap_filterMap, List.filter_filterMap]
  apply List.filterMap_congr
  intro visit _
  ext path
  rw [Option.bind_eq_some_iff, Option.filter_eq_some_iff, decide_eq_true_eq,
    ← Visit.source?_eq_some_iff]
  constructor
  · rintro ⟨⟨own, ownKind⟩, hsource, hkind⟩
    obtain ⟨rfl, hpath⟩ := Option.ite_none_right_eq_some.1 hkind
    cases hpath
    exact hsource
  · intro hsource
    exact ⟨(path, kind), hsource, if_pos rfl⟩

/-- Lists of one kind each, taken from files that all have a kind, hold each of the files once. -/
theorem perm_of_kinds {sources : List Path}
    (hkinds : ∀ file ∈ sources, (SourceKind.ofPath? file).isSome) :
    (sources.filter (SourceKind.ofPath? · = some .header) ++
      sources.filter (SourceKind.ofPath? · = some .c) ++
      sources.filter (SourceKind.ofPath? · = some .cpp)).Perm sources := by
  induction sources with
  | nil => exact .refl _
  | cons file rest ih =>
      obtain ⟨hfile, hrest⟩ := List.forall_mem_cons.1 hkinds
      obtain ⟨kind, hkind⟩ := Option.isSome_iff_exists.1 hfile
      have hperm := (ih hrest).cons file
      simp only [List.filter_cons, hkind, Option.some.injEq]
      cases kind with
      | header => exact hperm
      | c => exact (List.perm_middle.append_right _).trans hperm
      | cpp => exact List.perm_middle.trans hperm

/-- Whatever a walk visits, its sources are sorted. -/
theorem sorts_ofVisits (visits : List Visit) :
    (ofVisits visits).Sorts (visits.filterMap Visit.sourcePath?) where
  sublist kind := by
    rw [get_ofVisits]
    exact List.filter_sublist
  kind kind file hfile := by
    rw [get_ofVisits, List.mem_filter] at hfile
    exact of_decide_eq_true hfile.2
  disjoint kind other hne file hfile hfile' := by
    rw [get_ofVisits, List.mem_filter] at hfile hfile'
    have hkind := of_decide_eq_true hfile.2
    rw [of_decide_eq_true hfile'.2] at hkind
    exact hne (Option.some.inj hkind).symm
  perm := by
    have hall : (ofVisits visits).all = (ofVisits visits).get .header ++
        (ofVisits visits).get .c ++ (ofVisits visits).get .cpp := rfl
    rw [hall, get_ofVisits, get_ofVisits, get_ofVisits]
    apply perm_of_kinds
    intro file hfile
    obtain ⟨visit, -, hsource⟩ := List.mem_filterMap.1 hfile
    obtain ⟨-, -, -, hkind⟩ := Visit.sourcePath?_eq_some_iff.1 hsource
    exact hkind

end SourceFiles

namespace Disk

/-- The sources below a root, in the order of names. -/
def sources (disk : Disk) (root : Path) : List Path :=
  (disk.sortedWalk root).filterMap Visit.sourcePath?

variable {disk : Disk} {root path : Path}

theorem mem_sources_iff : path ∈ disk.sources root ↔
    ∃ type, Visit.entry path type ∈ disk.walk root ∧ type ≠ .dir ∧
      (SourceKind.ofPath? path).isSome := by
  rw [sources, List.mem_filterMap]
  constructor
  · rintro ⟨visit, hvisit, hsource⟩
    obtain ⟨type, rfl, htests⟩ := Visit.sourcePath?_eq_some_iff.1 hsource
    exact ⟨type, mem_sortedWalk_iff.1 hvisit, htests⟩
  · rintro ⟨type, hvisit, htests⟩
    exact ⟨_, mem_sortedWalk_iff.2 hvisit, Visit.sourcePath?_eq_some_iff.2 ⟨type, rfl, htests⟩⟩

theorem mem_all_iff_mem_sources :
    path ∈ (SourceFiles.ofVisits (disk.sortedWalk root)).all ↔ path ∈ disk.sources root :=
  (SourceFiles.sorts_ofVisits (disk.sortedWalk root)).perm.mem_iff

/-- On a proper disk no source is met twice, also if separators do not count. -/
theorem pairwise_sources (hproper : disk.root.Proper) (root : Path) :
    (disk.sources root).Pairwise fun p q => ¬ p.Same q := by
  apply Visit.pairwise_filterMap (pairwise_sortedWalk hproper root)
  intro visit path hsource
  obtain ⟨type, rfl, -⟩ := Visit.sourcePath?_eq_some_iff.1 hsource
  rfl

end Disk

end HeaderSearch
