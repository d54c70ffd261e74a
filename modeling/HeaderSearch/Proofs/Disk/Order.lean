/-
# Walks in another order

A sorted walk visits what an unsorted one visits, in another order. So what a walk visits, and what
it cannot list, can be told from either.

On a proper disk no walk visits an entry twice. It goes on from a directory to its entries by their
names, and these are all different; so the paths of two steps differ from the name on at which the
walk parted, and neither is another spelling of the other.
-/

import HeaderSearch.Proofs.Disk.Reordered
import Mathlib.Data.List.Perm.Basic

namespace HeaderSearch

open HeaderSearch.Path

/-- The path of the entry that a step visits, if the step does not fail. -/
def Visit.entryPath? : Visit → Option Path
  | .entry path _ => some path
  | _ => none

theorem Visit.entryPath?_eq_some_iff {visit : Visit} {path : Path} :
    visit.entryPath? = some path ↔ ∃ type, visit = .entry path type := by
  cases visit <;> simp [entryPath?]

/-- What holds between the paths of different steps holds between those that are picked out. -/
theorem Visit.pairwise_filterMap {visits : List Visit} {R : Path → Path → Prop}
    {pick : Visit → Option Path} (h : (visits.filterMap entryPath?).Pairwise R)
    (hpick : ∀ {visit path}, pick visit = some path → visit.entryPath? = some path) :
    (visits.filterMap pick).Pairwise R := by
  rw [List.pairwise_filterMap] at h ⊢
  apply h.imp
  intro first second hfirst p hp q hq
  exact hfirst p (hpick hp) q (hpick hq)

theorem Visit.filterMap_entryPath?_cons (path : Path) (type : EntryType) (rest : List Visit) :
    (Visit.entry path type :: rest).filterMap entryPath? = path :: rest.filterMap entryPath? := rfl

namespace Node

variable {node other : Node} {entries others : List (Name × Node)} {parent path : Path}

/-! ## Reordered trees -/

theorem visitsAll_perm_of_pairs {pairs : List (Name × Node × Node)}
    (left : entries.Perm (pairs.map fun pair => (pair.1, pair.2.1)))
    (right : others.Perm (pairs.map fun pair => (pair.1, pair.2.2)))
    (hvisits : ∀ pair ∈ pairs, ∀ path, (visits path pair.2.1).Perm (visits path pair.2.2))
    (parent : Path) : (visitsAll parent entries).Perm (visitsAll parent others) := by
  rw [visitsAll_eq_flatMap, visitsAll_eq_flatMap]
  apply (left.flatMap_right _).trans
  apply List.Perm.trans _ (right.flatMap_right _).symm
  rw [List.flatMap_map, List.flatMap_map]
  exact .flatMap_left pairs fun pair hpair => hvisits pair hpair _

/-- The order in which directories list their entries decides only on the order of the visits. -/
theorem Reordered.visits_perm (h : node.Reordered other) (path : Path) :
    (visits path node).Perm (visits path other) := by
  induction h generalizing path with
  | file data => exact .refl _
  | link target => exact .refl _
  | dir pairs left right _ ih =>
      rw [visits, visits]
      apply List.Perm.cons
      split
      · exact .refl _
      · exact visitsAll_perm_of_pairs left right ih path

theorem Reordered.visitsAll_perm (h : (Node.dir entries).Reordered (.dir others))
    (parent : Path) : (visitsAll parent entries).Perm (visitsAll parent others) := by
  cases h with
  | dir pairs left right nodes =>
      exact visitsAll_perm_of_pairs left right (fun pair hpair => (nodes pair hpair).visits_perm)
        parent

/-- Sorting does nothing but reorder. -/
theorem reordered_sorted (node : Node) : node.Reordered node.sorted := by
  induction node using Node.induction with
  | file data => exact .file data
  | link target => exact .link target
  | dir entries ih =>
      refine .dir (entries.map fun entry => (entry.1, entry.2, entry.2.sorted)) ?_ ?_ ?_
      · rw [List.map_map]
        exact .of_eq (List.map_id entries).symm
      · apply (List.mergeSort_perm _ _).trans
        rw [sortedAll_eq_map, List.map_map]
        exact .refl _
      · intro pair hpair
        obtain ⟨entry, hentry, rfl⟩ := List.mem_map.1 hpair
        exact ih entry hentry

/-! ## Proper trees -/

/-- The walk of a proper node comes to paths that lead down from the node by names. -/
theorem exists_descend_of_mem_visits (hproper : node.Proper)
    (h : path ∈ (visits parent node).filterMap Visit.entryPath?) :
    ∃ names, path = parent.descend names ∧
      ∀ name ∈ names, (Component.name name).Spellable := by
  obtain ⟨visit, hvisit, hpath⟩ := List.mem_filterMap.1 h
  obtain ⟨type, rfl⟩ := Visit.entryPath?_eq_some_iff.1 hpath
  rcases mem_visits_iff.1 hvisit with hown | ⟨entries, rfl, -, hinside⟩
  · obtain ⟨rfl, -⟩ := entry_mem_ownVisits.1 hown
    exact ⟨[], rfl, List.forall_mem_nil _⟩
  · obtain ⟨_, node, hbelow, hown⟩ := mem_visitsAll_iff_below.1 hinside
    obtain ⟨rfl, -⟩ := entry_mem_ownVisits.1 hown
    obtain ⟨name, names, rfl, hleads⟩ := hbelow.exists_leads
    exact ⟨name :: names, rfl, hleads.spellable hproper⟩

theorem exists_descend_of_mem_visitsAll (hproper : (Node.dir entries).Proper)
    (h : path ∈ (visitsAll parent entries).filterMap Visit.entryPath?) :
    ∃ entry ∈ entries, ∃ names, path = parent.descend (entry.1 :: names) ∧
      ∀ name ∈ entry.1 :: names, (Component.name name).Spellable := by
  obtain ⟨-, hnames, hnodes⟩ := proper_dir_iff.1 hproper
  rw [visitsAll_eq_flatMap, List.filterMap_flatMap] at h
  obtain ⟨entry, hentry, hpath⟩ := List.mem_flatMap.1 h
  obtain ⟨names, rfl, hspell⟩ := exists_descend_of_mem_visits (hnodes entry hentry) hpath
  exact ⟨entry, hentry, names, rfl, List.forall_mem_cons.2 ⟨hnames entry hentry, hspell⟩⟩

/-- The walk of a proper directory comes back to the directory nowhere inside. -/
theorem not_same_of_mem_visitsAll (hproper : (Node.dir entries).Proper)
    (hparent : parent.bytes ≠ [])
    (h : path ∈ (visitsAll parent entries).filterMap Visit.entryPath?) : ¬ parent.Same path := by
  intro hsame
  obtain ⟨entry, -, names, rfl, hspell⟩ := exists_descend_of_mem_visitsAll hproper h
  exact List.cons_ne_nil _ _
    (eq_of_same_descend hparent (List.forall_mem_nil _) hspell hsame).symm

/-- If the walk of no entry comes to a path twice, neither does that of the directory: the walks of
two entries part at their names. -/
theorem pairwise_visitsAll_of_entries (hproper : (Node.dir entries).Proper)
    (hparent : parent.bytes ≠ [])
    (hvisits : ∀ entry ∈ entries, ∀ path : Path, path.bytes ≠ [] →
      ((visits path entry.2).filterMap Visit.entryPath?).Pairwise fun p q => ¬ p.Same q) :
    ((visitsAll parent entries).filterMap Visit.entryPath?).Pairwise fun p q => ¬ p.Same q := by
  obtain ⟨hdistinct, hnames, hnodes⟩ := proper_dir_iff.1 hproper
  rw [visitsAll_eq_flatMap, List.filterMap_flatMap, List.pairwise_flatMap]
  constructor
  · intro entry hentry
    exact hvisits entry hentry _ (bytes_child_ne_nil hparent entry.1)
  · apply (List.pairwise_map.1 hdistinct).imp_of_mem
    intro first second hfirst hsecond hne p hp q hq hsame
    obtain ⟨names, rfl, hspell⟩ := exists_descend_of_mem_visits (hnodes first hfirst) hp
    obtain ⟨others, rfl, hspell'⟩ := exists_descend_of_mem_visits (hnodes second hsecond) hq
    have hparted : first.1 :: names = second.1 :: others :=
      eq_of_same_descend hparent (List.forall_mem_cons.2 ⟨hnames first hfirst, hspell⟩)
        (List.forall_mem_cons.2 ⟨hnames second hsecond, hspell'⟩) hsame
    exact hne (List.cons.inj hparted).1

/-- The walk of a proper node comes to no path twice, also if separators do not count. -/
theorem pairwise_visits (hproper : node.Proper) (hpath : path.bytes ≠ []) :
    ((visits path node).filterMap Visit.entryPath?).Pairwise fun p q => ¬ p.Same q := by
  induction node using Node.induction generalizing path with
  | file data => exact List.pairwise_singleton _ _
  | link target => exact List.pairwise_singleton _ _
  | dir entries ih =>
      obtain ⟨-, -, hnodes⟩ := proper_dir_iff.1 hproper
      rw [visits, Visit.filterMap_entryPath?_cons, List.pairwise_cons]
      split
      · exact ⟨List.forall_mem_nil _, .nil⟩
      · constructor
        · intro below hbelow
          exact not_same_of_mem_visitsAll hproper hpath hbelow
        · apply pairwise_visitsAll_of_entries hproper hpath
          intro entry hentry path hpath
          exact ih entry hentry (hnodes entry hentry) hpath

theorem pairwise_visitsAll (hproper : (Node.dir entries).Proper) (hparent : parent.bytes ≠ []) :
    ((visitsAll parent entries).filterMap Visit.entryPath?).Pairwise fun p q => ¬ p.Same q := by
  apply pairwise_visitsAll_of_entries hproper hparent
  intro entry hentry path hpath
  exact pairwise_visits ((proper_dir_iff.1 hproper).2.2 entry hentry) hpath

end Node

namespace Disk

variable {disk : Disk} {root : Path}

theorem contents_sorted_perm (root : Path) (node : Node) :
    (walkBy.contents Node.sorted root node).Perm (walkBy.contents id root node) := by
  cases node with
  | file data => exact .refl _
  | link target => exact .refl _
  | dir entries => exact (Node.reordered_sorted (.dir entries)).symm.visitsAll_perm root

/-- A sorted walk takes the steps of an unsorted one in another order. -/
theorem sortedWalk_perm (disk : Disk) (root : Path) :
    (disk.sortedWalk root).Perm (disk.walk root) := by
  unfold sortedWalk walk walkBy
  split
  · exact .refl _
  · exact .refl _
  · exact (contents_sorted_perm root _).cons _
  · split
    · exact .refl _
    · exact (contents_sorted_perm root _).cons _

theorem mem_sortedWalk_iff {visit : Visit} :
    visit ∈ disk.sortedWalk root ↔ visit ∈ disk.walk root :=
  (disk.sortedWalk_perm root).mem_iff

/-- On a proper disk a walk comes to no path twice, also if separators do not count. -/
theorem pairwise_walk (hproper : disk.root.Proper) (root : Path) :
    ((disk.walk root).filterMap Visit.entryPath?).Pairwise fun p q => ¬ p.Same q := by
  rcases disk.walk_cases root with ⟨-, fault, hwalk⟩ | ⟨stopped, place, -, hplace, hwalk⟩
  · rw [hwalk]
    exact .nil
  · have hroot := (exists_start_of_find hplace).1
    have hnode := proper_of_find hproper hplace
    rw [hwalk, Visit.filterMap_entryPath?_cons, List.pairwise_cons]
    unfold walkBy.contents
    split
    · next entries hdir =>
      obtain hdir : place.node = .dir entries := hdir
      rw [hdir] at hnode
      refine ⟨?_, Node.pairwise_visitsAll hnode hroot⟩
      intro below hbelow
      exact Node.not_same_of_mem_visitsAll hnode hroot hbelow
    · exact ⟨List.forall_mem_nil _, .nil⟩

theorem pairwise_sortedWalk (hproper : disk.root.Proper) (root : Path) :
    ((disk.sortedWalk root).filterMap Visit.entryPath?).Pairwise fun p q => ¬ p.Same q := by
  have hperm := (disk.sortedWalk_perm root).filterMap Visit.entryPath?
  apply (hperm.pairwise_iff fun hne hsame => hne hsame.symm).2
  exact pairwise_walk hproper root

end Disk

end HeaderSearch
