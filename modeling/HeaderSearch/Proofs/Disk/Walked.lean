/-
# What a walk visits

A walk visits its root, if there is anything, and whatever lies below the directory that the root
leads to, links not followed. `Reaches` says this without mentioning order or failures, so it does
not depend on how directories are listed.

On a disk with a proper tree the path of a visited entry also leads back to it: a look-up of the
same path, however it is spelled, ends at the node that the walk was at, or follows it if it is a
link.
-/

import HeaderSearch.Proofs.Disk.Bisimulation
import HeaderSearch.Proofs.Disk.Seek

namespace HeaderSearch

open HeaderSearch.Path

namespace Node

variable {parent path : Path} {entries : List (Name × Node)} {node : Node} {type : EntryType}

theorem visitsAll_eq_flatMap (parent : Path) (entries : List (Name × Node)) :
    visitsAll parent entries =
      entries.flatMap fun entry => visits (parent.child entry.1) entry.2 := by
  induction entries with
  | nil => rfl
  | cons entry rest ih => rw [visitsAll, ih, List.flatMap_cons]

/-- The steps of a walk that are about a node itself. It is visited, and if it is a directory that
cannot be listed, this is reported. -/
def ownVisits (path : Path) (node : Node) : List Visit :=
  .entry path node.type ::
    if node.type = .dir ∧ path.isTooLong then [.dirFailure path .nameTooLong] else []

theorem entry_mem_ownVisits {own : Path} :
    Visit.entry path type ∈ ownVisits own node ↔ path = own ∧ type = node.type := by
  unfold ownVisits
  split <;> simp

theorem dirFailure_mem_ownVisits {own : Path} {fault : Fault} :
    Visit.dirFailure path fault ∈ ownVisits own node ↔
      path = own ∧ fault = .nameTooLong ∧ node.type = .dir ∧ own.isTooLong = true := by
  unfold ownVisits
  split
  · next h => simp [h]
  · next h => simp [h]

theorem rootFailure_notMem_ownVisits {fault : Fault} :
    Visit.rootFailure fault ∉ ownVisits path node := by
  unfold ownVisits
  split <;> simp

/-- The walk of a node is about the node, and goes on below it if it can be listed. -/
theorem mem_visits_iff {visit : Visit} : visit ∈ visits path node ↔
    visit ∈ ownVisits path node ∨ ∃ entries, node = .dir entries ∧
      path.isTooLong = false ∧ visit ∈ visitsAll path entries := by
  cases node with
  | file data => simp [visits, ownVisits, Node.type]
  | link target => simp [visits, ownVisits, Node.type]
  | dir entries => cases hlong : path.isTooLong <;> simp [visits, ownVisits, Node.type, hlong]

theorem mem_visitsAll {visit : Visit} : visit ∈ visitsAll parent entries ↔
    ∃ entry ∈ entries, visit ∈ visits (parent.child entry.1) entry.2 := by
  rw [visitsAll_eq_flatMap, List.mem_flatMap]

/-- The walk of a directory is about the nodes that lie below it. -/
theorem mem_visitsAll_iff_below {visit : Visit} : visit ∈ visitsAll parent entries ↔
    ∃ path node, Below parent entries path node ∧ visit ∈ ownVisits path node := by
  constructor
  · intro h
    -- The induction is on the directory as a node; of files and links there is nothing to say.
    generalize hdir : Node.dir entries = dir at h
    induction dir using Node.induction generalizing parent entries with
    | file data => cases hdir
    | link target => cases hdir
    | dir inner ih =>
        cases hdir
        obtain ⟨⟨name, next⟩, hentry, hvisit⟩ := mem_visitsAll.1 h
        rcases mem_visits_iff.1 hvisit with hown | ⟨deeper, hnext, hlist, hvisit⟩
        · exact ⟨_, next, .entry hentry, hown⟩
        · obtain ⟨path, node, hbelow, hown⟩ := ih _ hentry hvisit hnext.symm
          obtain rfl : next = .dir deeper := hnext
          exact ⟨path, node, .inside hentry hlist hbelow, hown⟩
  · rintro ⟨path, node, hbelow, hown⟩
    induction hbelow with
    | entry mem => exact mem_visitsAll.2 ⟨_, mem, mem_visits_iff.2 (.inl hown)⟩
    | inside mem listable _ ih =>
        exact mem_visitsAll.2 ⟨_, mem, mem_visits_iff.2 (.inr ⟨_, rfl, listable, ih hown⟩)⟩

end Node

namespace Disk

variable {disk : Disk} {root path : Path} {node : Node}

/-- A walk fails at its root, or visits the root and then what is below the place it leads to. -/
theorem walk_cases (disk : Disk) (root : Path) :
    (disk.pathExists root = false ∧ ∃ fault, disk.walk root = [.rootFailure fault]) ∨
      ∃ stopped place, disk.find false root = .ok stopped ∧ disk.find true root = .ok place ∧
        disk.walk root = .entry root stopped.node.type :: walkBy.contents id root place.node := by
  cases hstopped : disk.find false root with
  | error fault =>
      refine .inl ⟨?_, fault, by rw [walk, walkBy, hstopped]⟩
      rw [← Bool.not_eq_true, pathExists_iff]
      rintro ⟨place, hplace⟩
      obtain ⟨stopped, hfound⟩ := exists_find_false_of_find_true hplace
      rw [hstopped] at hfound
      cases hfound
  | ok stopped =>
      obtain ⟨node, trail⟩ := stopped
      cases node with
      | file data =>
          refine .inr ⟨_, _, rfl, find_true_of_find_false hstopped nofun, ?_⟩
          rw [walk, walkBy, hstopped]
          rfl
      | dir entries =>
          refine .inr ⟨_, _, rfl, find_true_of_find_false hstopped nofun, ?_⟩
          rw [walk, walkBy, hstopped]
          rfl
      | link target =>
          cases hplace : disk.find true root with
          | error fault =>
              refine .inl ⟨?_, fault, by rw [walk, walkBy, hstopped, hplace]⟩
              rw [pathExists, hplace]
              rfl
          | ok place =>
              refine .inr ⟨_, _, rfl, rfl, ?_⟩
              rw [walk, walkBy, hstopped, hplace]
              rfl

/-- The walk of `root` comes to the node at `path`: it is the root itself, if that leads anywhere,
or it lies below the directory that the root leads to. -/
inductive Reaches (disk : Disk) (root : Path) : Path → Node → Prop where
  | root {stopped : Place} (leads : disk.pathExists root = true)
      (found : disk.find false root = .ok stopped) : Reaches disk root root stopped.node
  | below {place : Place} {entries : List (Name × Node)} {path : Path} {node : Node}
      (found : disk.find true root = .ok place) (dir : place.node = .dir entries)
      (below : Node.Below root entries path node) : Reaches disk root path node

/-- A step of a walk is the failure to enter the root, or the visit of the root, or it is about a
node below the directory that the root leads to. -/
theorem mem_walk_iff {visit : Visit} : visit ∈ disk.walk root ↔
    (∃ fault, visit = .rootFailure fault ∧ disk.walk root = [.rootFailure fault]) ∨
    (∃ stopped, disk.pathExists root = true ∧ disk.find false root = .ok stopped ∧
      visit = .entry root stopped.node.type) ∨
    ∃ place entries path node, disk.find true root = .ok place ∧ place.node = .dir entries ∧
      Node.Below root entries path node ∧ visit ∈ Node.ownVisits path node := by
  rcases disk.walk_cases root with ⟨hnone, fault, hwalk⟩ | ⟨stopped, place, hstopped, hplace, hwalk⟩
  · rw [hwalk, List.mem_singleton]
    constructor
    · rintro rfl
      exact .inl ⟨fault, rfl, rfl⟩
    · rintro (⟨fault', rfl, hsame⟩ | ⟨_, hsome, -⟩ | ⟨place, _, _, _, hplace, -⟩)
      · rw [List.cons.inj hsame |>.1]
      · rw [hnone] at hsome
        cases hsome
      · rw [pathExists, hplace] at hnone
        cases hnone
  · have hleads : disk.pathExists root = true := pathExists_iff.2 ⟨place, hplace⟩
    rw [hwalk, List.mem_cons]
    constructor
    · rintro (rfl | hinside)
      · exact .inr (.inl ⟨stopped, hleads, hstopped, rfl⟩)
      · unfold walkBy.contents at hinside
        split at hinside
        · next entries hdir =>
          obtain ⟨path, node, hbelow, hown⟩ := Node.mem_visitsAll_iff_below.1 hinside
          exact .inr (.inr ⟨place, entries, path, node, hplace, hdir, hbelow, hown⟩)
        · cases hinside
    · rintro (⟨fault, rfl, hfail⟩ | ⟨found, -, hfound, rfl⟩ |
        ⟨found, entries, path, node, hfound, hdir, hbelow, hown⟩)
      · cases (List.cons.inj hfail).1
      · rw [hstopped] at hfound
        cases hfound
        exact .inl rfl
      · rw [hplace] at hfound
        cases hfound
        right
        rw [walkBy.contents, id, hdir]
        exact Node.mem_visitsAll_iff_below.2 ⟨path, node, hbelow, hown⟩

/-- A walk visits exactly what it reaches, as what it is if links are not followed. -/
theorem entry_mem_walk_iff {type : EntryType} : Visit.entry path type ∈ disk.walk root ↔
    ∃ node, disk.Reaches root path node ∧ node.type = type := by
  rw [mem_walk_iff]
  constructor
  · rintro (⟨_, hentry, -⟩ | ⟨stopped, leads, found, hentry⟩ |
      ⟨place, entries, _, node, found, hdir, below, hown⟩)
    · cases hentry
    · cases hentry
      exact ⟨stopped.node, .root leads found, rfl⟩
    · obtain ⟨rfl, rfl⟩ := Node.entry_mem_ownVisits.1 hown
      exact ⟨node, .below found hdir below, rfl⟩
  · rintro ⟨node, hreaches, rfl⟩
    cases hreaches with
    | root leads found => exact .inr (.inl ⟨_, leads, found, rfl⟩)
    | below found dir below =>
        exact .inr (.inr ⟨_, _, _, _, found, dir, below, Node.entry_mem_ownVisits.2 ⟨rfl, rfl⟩⟩)

/-- If the root cannot be entered, nothing else happens in the walk. -/
theorem rootFailure_mem_walk_iff {fault : Fault} :
    Visit.rootFailure fault ∈ disk.walk root ↔ disk.walk root = [.rootFailure fault] := by
  constructor
  · intro h
    rcases mem_walk_iff.1 h with ⟨_, hvisit, hwalk⟩ | ⟨_, -, -, hvisit⟩ |
      ⟨_, _, _, _, -, -, -, hown⟩
    · cases hvisit
      exact hwalk
    · cases hvisit
    · exact absurd hown Node.rootFailure_notMem_ownVisits
  · intro h
    rw [h]
    exact List.mem_singleton_self _

/-- What cannot be listed are the directories below the root whose paths are too long. -/
theorem dirFailure_mem_walk_iff {fault : Fault} : Visit.dirFailure path fault ∈ disk.walk root ↔
    fault = .nameTooLong ∧ path.isTooLong = true ∧ ∃ place entries inner,
      disk.find true root = .ok place ∧ place.node = .dir entries ∧
        Node.Below root entries path (.dir inner) := by
  rw [mem_walk_iff]
  constructor
  · rintro (⟨_, hvisit, -⟩ | ⟨_, -, -, hvisit⟩ |
      ⟨place, entries, _, node, found, hdir, below, hown⟩)
    · cases hvisit
    · cases hvisit
    · obtain ⟨rfl, rfl, htype, hlong⟩ := Node.dirFailure_mem_ownVisits.1 hown
      obtain ⟨inner, rfl⟩ := Node.isDir_iff_type.2 htype
      exact ⟨rfl, hlong, place, entries, inner, found, hdir, below⟩
  · rintro ⟨rfl, hlong, place, entries, inner, found, hdir, below⟩
    exact .inr (.inr ⟨place, entries, path, .dir inner, found, hdir, below,
      Node.dirFailure_mem_ownVisits.2 ⟨rfl, rfl, rfl, hlong⟩⟩)

/-- On a proper disk a walk writes the path of whatever it reaches as the root and then names. -/
theorem Reaches.exists_descend (h : disk.Reaches root path node) (hproper : disk.root.Proper) :
    root.bytes ≠ [] ∧ ∃ names, path = root.descend names ∧
      ∀ name ∈ names, (Component.name name).Spellable := by
  cases h with
  | root _ found => exact ⟨(exists_start_of_find found).1, [], rfl, List.forall_mem_nil _⟩
  | below found dir below =>
      obtain ⟨name, names, rfl, hleads⟩ := below.exists_leads
      rw [← dir] at hleads
      exact ⟨(exists_start_of_find found).1, name :: names, rfl,
        hleads.spellable (proper_of_find hproper found)⟩

/-- One walk never writes a path in two ways. -/
theorem Reaches.eq_of_same {other : Path} {node' : Node} (hproper : disk.root.Proper)
    (h : disk.Reaches root path node) (h' : disk.Reaches root other node')
    (hsame : path.Same other) : path = other := by
  obtain ⟨hroot, names, rfl, hnames⟩ := h.exists_descend hproper
  obtain ⟨-, others, rfl, hothers⟩ := h'.exists_descend hproper
  rw [eq_of_same_descend hroot hnames hothers hsame]

/-! ## Looking up what was visited -/

/-- On a proper disk names lead a look-up to the node that they lead to, unless that is a link and
the look-up follows it. -/
theorem node_of_travel_leads {followLast : Bool} {links : Nat} {place reached : Place}
    {names : List Name} (hleads : place.node.Leads names node) (hproper : place.node.Proper)
    (hfollow : followLast = true → ¬ node.IsLink)
    (h : disk.travel followLast links place names = .ok reached) : reached.node = node := by
  obtain ⟨onLink, honLink⟩ := disk.exists_travel_eq followLast links
  rw [honLink] at h
  generalize hstart : place.node = start at hleads hproper
  induction hleads generalizing place with
  | here node =>
      cases h
      exact hstart
  | @enter entries name next names target hentry rest ih =>
      obtain ⟨-, hnames, hnodes⟩ := Node.proper_dir_iff.1 hproper
      rcases Place.travel_cons_name_cases hstart (hnames _ hentry).1
        (hproper.lookup_eq_some_iff.2 hentry) h with ⟨-, hgo⟩ | ⟨link, rfl, hlink⟩
      · exact ih hfollow hgo rfl (hnodes _ hentry)
      · -- Names do not lead on from a link, so this one is the end.
        cases rest with
        | here =>
            rcases hlink with ⟨-, -, rfl⟩ | ⟨hlast, -⟩
            · rfl
            · exact absurd ⟨link, rfl⟩ (hfollow (hlast rfl))

/-- On a proper disk the path of what a walk came to leads back there, if it leads anywhere. If it
is a link, a look-up that follows the last link leads further. -/
theorem node_of_seek_reaches {followLast : Bool} {reached : Place} (hproper : disk.root.Proper)
    (hreaches : disk.Reaches root path node) (hdir : ¬ node.IsDir)
    (hfollow : followLast = true → ¬ node.IsLink)
    (h : disk.seek followLast path = .ok reached) : reached.node = node := by
  cases hreaches with
  | @root stopped _ found =>
      have hseek : disk.seek followLast root = .ok stopped := by
        cases followLast with
        | false =>
            rcases find_cases found with hsame | ⟨hisDir, -⟩
            · rw [← hsame, found]
            · exact absurd hisDir hdir
        | true => exact seek_true_of_find_true (find_true_of_find_false found (hfollow rfl))
      rw [hseek] at h
      cases h
      rfl
  | @below top entries _ _ found hentries below =>
      obtain ⟨name, names, rfl, hleads⟩ := below.exists_leads
      have htop := proper_of_find hproper found
      rw [← hentries] at hleads
      have hspell := hleads.spellable htop
      obtain ⟨hroot, start, hstart, -⟩ := exists_start_of_find found
      have hseek := seek_true_of_find_true found
      have hnames : disk.startNames (root.descend (name :: names)) = disk.startNames root := by
        rw [startNames, startNames, isAbsolute_descend hroot hspell]
      rw [seek, hstart] at hseek
      rw [seek, hnames, hstart] at h
      dsimp only at h hseek
      rw [steps_descend hroot hspell] at h
      obtain ⟨middle, hmiddle, left, -, hrest⟩ := exists_middle_of_travel_append (by simp) h
      rw [hmiddle] at hseek
      cases hseek
      exact node_of_travel_leads hleads htop hfollow hrest

/-- On a proper disk whatever leads to a place where a walk found a file, or a link to one, leads
to a file or to a link to one, however the path is spelled. -/
theorem type_of_find_of_reaches {other : Path} {reached : Place} (hproper : disk.root.Proper)
    (hreaches : disk.Reaches root path node)
    (hfile : node.type = .file ∨ node.type = .link ∧ disk.isFile path = true)
    (hsame : path.Same other) (h : disk.find false other = .ok reached) :
    reached.node.type = .file ∨ reached.node.type = .link ∧ disk.isFile other = true := by
  have hdir : ¬ node.IsDir := by
    rw [Node.isDir_iff_type]
    rcases hfile with htype | ⟨htype, -⟩ <;> simp [htype]
  have hend : disk.isFile path = true →
      ∃ place, disk.seek true other = .ok place ∧ place.node.type = .file := by
    intro hisFile
    obtain ⟨place, hfind, htype⟩ := isFile_iff.1 hisFile
    exact ⟨place, by rw [← seek_eq_of_same hsame, seek_true_of_find_true hfind], htype⟩
  rcases find_cases h with hseek | ⟨hisDir, hseek⟩
  · rw [hseek, ← seek_eq_of_same hsame] at h
    obtain rfl := node_of_seek_reaches hproper hreaches hdir (absurd · Bool.false_ne_true) h
    rcases hfile with htype | ⟨htype, hisFile⟩
    · exact .inl htype
    · obtain ⟨place, hplace, hplaceType⟩ := hend hisFile
      exact .inr ⟨htype, isFile_iff.2 ⟨place, by rw [hseek, hplace], hplaceType⟩⟩
  · -- A directory at the end can be neither the file nor what the link leads to.
    rw [Node.isDir_iff_type] at hisDir
    rcases hfile with htype | ⟨-, hisFile⟩
    · have hlink : ¬ node.IsLink := by simp [Node.isLink_iff_type, htype]
      rw [← seek_eq_of_same hsame] at hseek
      rw [node_of_seek_reaches hproper hreaches hdir (fun _ => hlink) hseek, htype] at hisDir
      cases hisDir
    · obtain ⟨place, hplace, hplaceType⟩ := hend hisFile
      rw [hseek] at hplace
      cases hplace
      rw [hplaceType] at hisDir
      cases hisDir

end Disk

end HeaderSearch
