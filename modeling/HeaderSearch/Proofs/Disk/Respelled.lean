/-
# Walks of a root under two spellings

The text of a root goes into the path of everything that a walk of it visits. Apart from that it is
of no account: if a root leads to a directory, any other spelling of it leads to the same directory,
and the two walks go down the same ways in the same order. What is visited differs in the text of
the root, and is the same path otherwise.

There are two things that a spelling can spoil. A separator at the end asks for a directory, so it
refuses a root that is a file. And a path that is too long is not handed to the disk.
-/

import HeaderSearch.Proofs.Catalog.Admitted

namespace HeaderSearch

open HeaderSearch.Path

/-- The path of a visit is not too long. The path of a file need not be short, since it is not
handed to the disk. -/
def Visit.IsShort : Visit → Prop
  | .entry path type => type ≠ .file → path.isTooLong = false
  | _ => True

instance : DecidablePred Visit.IsShort
  | .entry path type => inferInstanceAs (Decidable (type ≠ .file → path.isTooLong = false))
  | .rootFailure _ | .dirFailure .. => .isTrue trivial

/-! ## Ways -/

namespace Node

mutual

/-- The names that lead from a node to itself and to everything below it, with what they lead to, in
the order of a walk. -/
def ways : Node → List (List Name × EntryType)
  | .file _ => [([], .file)]
  | .link _ => [([], .link)]
  | .dir entries => ([], .dir) :: waysAll entries

/-- The names that lead from a directory to everything below it. -/
def waysAll : List (Name × Node) → List (List Name × EntryType)
  | [] => []
  | (name, node) :: rest =>
    (ways node).map (fun way => (name :: way.1, way.2)) ++ waysAll rest

end

variable {node : Node} {entries : List (Name × Node)} {path parent : Path}

theorem waysAll_eq_flatMap (entries : List (Name × Node)) : waysAll entries =
    entries.flatMap fun entry => (ways entry.2).map fun way => (entry.1 :: way.1, way.2) := by
  induction entries with
  | nil => rfl
  | cons entry rest ih => rw [waysAll, ih, List.flatMap_cons]

/-- A step of a walk of the node at `path`, by the way that leads there. -/
def visitOf (path : Path) (way : List Name × EntryType) : Visit :=
  .entry (path.descend way.1) way.2

theorem visitsAll_eq_map_ways_of_entries
    (h : ∀ entry ∈ entries, visits (parent.child entry.1) entry.2 =
      (ways entry.2).map (visitOf (parent.child entry.1))) :
    visitsAll parent entries = (waysAll entries).map (visitOf parent) := by
  rw [visitsAll_eq_flatMap, waysAll_eq_flatMap, List.map_flatMap]
  apply List.flatMap_congr
  intro entry hentry
  rw [h entry hentry, List.map_map]
  rfl

/-- If no directory has too long a path, the walk of a node goes down all the ways from it. -/
theorem visits_eq_map_ways
    (h : ∀ visit ∈ visits path node, visit.IsShort) :
    visits path node = (ways node).map (visitOf path) := by
  induction node using Node.induction generalizing path with
  | file data => rfl
  | link target => rfl
  | dir entries ih =>
      have hshort : path.isTooLong = false := by
        refine h (.entry path .dir) ?_ nofun
        rw [visits]
        exact List.mem_cons_self
      rw [visits, ways, List.map_cons, if_neg (by simp [hshort])]
      congr 1
      apply visitsAll_eq_map_ways_of_entries
      intro entry hentry
      apply ih entry hentry
      intro visit hvisit
      apply h
      rw [visits, if_neg (by simp [hshort])]
      exact List.mem_cons_of_mem _ (mem_visitsAll.2 ⟨entry, hentry, hvisit⟩)

theorem visitsAll_eq_map_ways
    (h : ∀ visit ∈ visitsAll parent entries, visit.IsShort) :
    visitsAll parent entries = (waysAll entries).map (visitOf parent) := by
  apply visitsAll_eq_map_ways_of_entries
  intro entry hentry
  apply visits_eq_map_ways
  exact fun visit hvisit => h visit (mem_visitsAll.2 ⟨entry, hentry, hvisit⟩)

theorem exists_leads_of_mem_ways {way : List Name × EntryType} (h : way ∈ ways node) :
    ∃ target, Leads node way.1 target := by
  induction node using Node.induction generalizing way with
  | file data =>
      obtain rfl := List.mem_singleton.1 h
      exact ⟨_, .here _⟩
  | link target =>
      obtain rfl := List.mem_singleton.1 h
      exact ⟨_, .here _⟩
  | dir entries ih =>
      rw [ways, waysAll_eq_flatMap, List.mem_cons, List.mem_flatMap] at h
      rcases h with rfl | ⟨entry, hentry, hway⟩
      · exact ⟨_, .here _⟩
      · obtain ⟨inner, hinner, rfl⟩ := List.mem_map.1 hway
        obtain ⟨target, hleads⟩ := ih entry hentry hinner
        exact ⟨target, .enter hentry hleads⟩

/-- In a proper directory each way begins with the name of an entry, and all names of a way can
stand in a path. -/
theorem spellable_of_mem_waysAll (hproper : (Node.dir entries).Proper)
    {way : List Name × EntryType} (h : way ∈ waysAll entries) :
    ∃ name names, way.1 = name :: names ∧
      ∀ name ∈ way.1, (Component.name name).Spellable := by
  have hall : way ∈ ways (.dir entries) := by
    rw [ways]
    exact List.mem_cons_of_mem _ h
  obtain ⟨target, hleads⟩ := exists_leads_of_mem_ways hall
  rw [waysAll_eq_flatMap, List.mem_flatMap] at h
  obtain ⟨entry, -, hway⟩ := h
  obtain ⟨inner, -, rfl⟩ := List.mem_map.1 hway
  exact ⟨entry.1, inner.1, rfl, hleads.spellable hproper⟩

end Node

/-! ## Look-ups -/

namespace Path

/-- The path of an entry ends in the name of the entry. -/
theorem exists_segments_child {name : Name} (hname : (Component.name name).Spellable) (p : Path) :
    ∃ front, (p.child name).segments = front ++ [name] ∧ isVoid name = false := by
  have hsplit := splitOn_of_spellable hname
  have hvoid : isVoid name = false := by
    rw [isVoid, hname.1]
    rfl
  unfold child segments
  split
  · next hlast =>
    obtain ⟨front, hfront⟩ := List.getLast?_eq_some_iff.1 hlast
    refine ⟨front.splitOn slash, ?_, hvoid⟩
    rw [hfront, List.append_assoc, List.singleton_append, List.splitOn_append_cons_self, hsplit]
  · refine ⟨p.bytes.splitOn slash, ?_, hvoid⟩
    rw [List.splitOn_append_cons_self, hsplit]

theorem descend_concat (p : Path) (names : List Name) (name : Name) :
    p.descend (names ++ [name]) = (p.descend names).child name := List.foldl_concat ..

theorem Same.descend {p q : Path} (h : p.Same q) (hp : p.bytes ≠ []) {names : List Name}
    (hnames : ∀ name ∈ names, (Component.name name).Spellable) :
    (p.descend names).Same (q.descend names) := by
  have hq : q.bytes ≠ [] := fun hnil => hp (h.bytes_eq_nil_iff.2 hnil)
  rw [Same, components_descend hp hnames, components_descend hq hnames,
    show p.components = q.components from h]

end Path

namespace Disk

variable {disk : Disk} {followLast : Bool} {root root' : Path} {place : Place}

/-- Two spellings of a path that both end in a name, and are short enough, are looked up alike. -/
theorem find_child_eq_of_same {p q : Path} {name : Name}
    (hname : (Component.name name).Spellable) (h : (p.child name).Same (q.child name))
    (hp : (p.child name).isTooLong = false) (hq : (q.child name).isTooLong = false) :
    disk.find followLast (p.child name) = disk.find followLast (q.child name) := by
  by_cases hnul : 0 ∈ (p.child name).bytes
  · have hnul' := h.nul_mem_iff.1 hnul
    rw [find, find, if_pos (by simpa using hnul), if_pos (by simpa using hnul')]
  · have hnul' : 0 ∉ (q.child name).bytes := fun hmem => hnul (h.nul_mem_iff.2 hmem)
    have hempty (p : Path) : (p.child name).bytes ≠ [] := by
      unfold child
      split
      · next hlast =>
        obtain ⟨front, hfront⟩ := List.getLast?_eq_some_iff.1 hlast
        simp [hfront]
      · simp
    obtain ⟨front, hsegments, hlast⟩ := exists_segments_child hname p
    obtain ⟨front', hsegments', -⟩ := exists_segments_child hname q
    rw [find_eq_seek hnul (hempty p) hp hsegments hlast,
      find_eq_seek hnul' (hempty q) hq hsegments' hlast, seek_eq_of_same h]

/-- The disk takes a root as it is spelled. The root leads to no file, so that a separator at its
end makes no difference, and no path that a walk hands to the disk is too long. -/
structure TakesRoot (disk : Disk) (root : Path) : Prop where
  notFile : disk.isFile root = false
  short : root.isTooLong = false
  shortBelow : ∀ visit ∈ disk.walk root, visit.IsShort

instance (disk : Disk) (root : Path) : Decidable (disk.TakesRoot root) :=
  decidable_of_iff (disk.isFile root = false ∧ root.isTooLong = false ∧
      ∀ visit ∈ disk.walk root, visit.IsShort)
    ⟨fun ⟨notFile, short, shortBelow⟩ => ⟨notFile, short, shortBelow⟩,
      fun ⟨notFile, short, shortBelow⟩ => ⟨notFile, short, shortBelow⟩⟩

/-- Two spellings of a root, both of which the disk takes. -/
structure Respells (disk : Disk) (root root' : Path) : Prop where
  same : root.Same root'
  left : disk.TakesRoot root
  right : disk.TakesRoot root'

instance (disk : Disk) (root root' : Path) : Decidable (disk.Respells root root') :=
  decidable_of_iff (root.Same root' ∧ disk.TakesRoot root ∧ disk.TakesRoot root')
    ⟨fun ⟨same, left, right⟩ => ⟨same, left, right⟩, fun ⟨same, left, right⟩ => ⟨same, left, right⟩⟩

theorem Respells.symm (h : disk.Respells root root') : disk.Respells root' root :=
  ⟨h.same.symm, h.right, h.left⟩

theorem TakesRoot.isDir (h : disk.TakesRoot root) (hfind : disk.find true root = .ok place) :
    place.node.IsDir := by
  have hlink := not_isLink_of_find hfind
  have hfile := h.notFile
  rw [← Bool.not_eq_true, isFile_iff] at hfile
  cases hnode : place.node with
  | file data => exact absurd ⟨place, hfind, by rw [hnode]; rfl⟩ hfile
  | link target => exact absurd ⟨target, hnode⟩ hlink
  | dir entries => exact ⟨entries, rfl⟩

/-- Where a root leads to a directory, it leads to the same place under the other spelling. -/
theorem Respells.find_true (h : disk.Respells root root')
    (hfind : disk.find true root = .ok place) : disk.find true root' = .ok place := by
  have hseek : disk.seek true root' = .ok place := by
    rw [← seek_eq_of_same h.same]
    exact seek_true_of_find_true hfind
  have hnul : 0 ∉ root'.bytes := fun hmem =>
    nul_notMem_of_find hfind (h.same.nul_mem_iff.2 hmem)
  have hempty : root'.bytes ≠ [] := fun hnil =>
    (exists_start_of_find hfind).1 (h.same.bytes_eq_nil_iff.2 hnil)
  exact find_true_of_seek hnul hempty h.right.short hseek (h.left.isDir hfind)

/-- The walk of a root visits the root, which is no file, and goes down all the ways from the
directory that it leads to. -/
theorem TakesRoot.walk_eq (h : disk.TakesRoot root) (hfind : disk.find true root = .ok place)
    {entries : List (Name × Node)} (hdir : place.node = .dir entries) :
    ∃ type, type ≠ .file ∧
      disk.walk root = .entry root type :: (Node.waysAll entries).map (Node.visitOf root) := by
  rcases disk.walk_cases root with ⟨hnone, -⟩ | ⟨stopped, found, hstopped, hfound, hwalk⟩
  · rw [pathExists, hfind] at hnone
    cases hnone
  · rw [hfind] at hfound
    cases hfound
    refine ⟨stopped.node.type, ?_, ?_⟩
    · intro hfile
      have hlink : ¬ stopped.node.IsLink := by simp [Node.isLink_iff_type, hfile]
      have hisFile := isFile_iff.2 ⟨stopped, find_true_of_find_false hstopped hlink, hfile⟩
      rw [h.notFile] at hisFile
      cases hisFile
    · have hcontents : walkBy.contents id root place.node = Node.visitsAll root entries := by
        rw [hdir]
        rfl
      rw [hwalk, hcontents, Node.visitsAll_eq_map_ways]
      intro visit hvisit
      apply h.shortBelow
      rw [hwalk, hcontents]
      exact List.mem_cons_of_mem _ hvisit

end Disk

end HeaderSearch
