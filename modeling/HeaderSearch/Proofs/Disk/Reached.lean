/-
# Where a look-up ends

A place is entered from a directory only, so on the way from the root to it there are directories
and nothing else. Going to the parent therefore leads to a directory, a segment that leads nowhere
asks for one, and a link on the way is replaced by what it leads to. A look-up that follows links to
the end can then stop at a file or at a directory, but never at a link: one that dangles, or that
leads to itself, is a failure.
-/

import HeaderSearch.Disk.Lookup
import HeaderSearch.Proofs.Path.Spelling
import Mathlib.Data.List.Induction

namespace HeaderSearch

/-- Is the node a directory? -/
def Node.IsDir (node : Node) : Prop := ∃ entries, node = .dir entries

/-- Is the node a link? -/
def Node.IsLink (node : Node) : Prop := ∃ target, node = .link target

theorem Node.IsDir.not_isLink {node : Node} (h : node.IsDir) : ¬ node.IsLink := by
  obtain ⟨entries, rfl⟩ := h
  rintro ⟨target, htarget⟩
  cases htarget

namespace Place

/-- Every name on the way was entered from a directory. -/
def Grounded (place : Place) : Prop := ∀ step ∈ place.trail, step.2.IsDir

theorem Grounded.parent {place : Place} (h : place.Grounded) : place.parent.Grounded := by
  unfold Place.parent
  split
  · exact h
  · next htrail =>
    intro step hstep
    apply h
    rw [htrail]
    exact List.mem_cons_of_mem _ hstep

theorem Grounded.isDir_parent {place : Place} (h : place.Grounded) (hnode : place.node.IsDir) :
    place.parent.node.IsDir := by
  unfold Place.parent
  split
  · exact hnode
  · next name node trail htrail =>
    apply h (name, node)
    rw [htrail]
    exact List.mem_cons_self

theorem Grounded.enter {place : Place} (h : place.Grounded) (hnode : place.node.IsDir)
    (name : Name) (node : Node) : (place.enter name node).Grounded := by
  intro step hstep
  rcases List.mem_cons.1 hstep with rfl | hstep
  · exact hnode
  · exact h step hstep

/-- What taking one segment can do, if it does not fail: from a directory, the way goes on at the
same place, at the parent or at an entry that is no link, or it is handed on at a link, or it ends
there. -/
theorem travel_cons_cases {onLink : Place → Path → List Name → Except Fault Place}
    {followLast : Bool} {place reached : Place} {segment : Name} {rest : List Name}
    (h : travel onLink followLast place (segment :: rest) = .ok reached) :
    ∃ entries, place.node = .dir entries ∧
      ((Component.ofSegment? segment = none ∧ travel onLink followLast place rest = .ok reached) ∨
      (Component.ofSegment? segment = some .up ∧
        travel onLink followLast place.parent rest = .ok reached) ∨
      ∃ name node, Component.ofSegment? segment = some (.name name) ∧
        name.length ≤ nameLimit ∧ entries.lookup name = some node ∧
        ((¬ node.IsLink ∧ travel onLink followLast (place.enter name node) rest = .ok reached) ∨
        ∃ target, node = .link target ∧
          ((rest = [] ∧ followLast = false ∧ reached = place.enter name node) ∨
          ((rest = [] → followLast = true) ∧ onLink place target rest = .ok reached)))) := by
  unfold travel at h
  cases hnode : place.node with
  | file data =>
      rw [hnode] at h
      cases h
  | link target =>
      rw [hnode] at h
      cases h
  | dir entries =>
      refine ⟨entries, rfl, ?_⟩
      rw [hnode] at h
      dsimp only at h
      cases hread : Component.ofSegment? segment with
      | none =>
          rw [hread] at h
          exact .inl ⟨rfl, h⟩
      | some component =>
          rw [hread] at h
          rcases Component.eq_up_or_name_of_ofSegment? hread with ⟨rfl, _⟩ | rfl
          · exact .inr (.inl ⟨rfl, h⟩)
          · refine .inr (.inr ⟨segment, ?_⟩)
            dsimp only at h
            split at h
            · cases h
            · next hlimit =>
              cases hlookup : entries.lookup segment with
              | none =>
                  rw [hlookup] at h
                  cases h
              | some node =>
                  refine ⟨node, rfl, Nat.not_lt.1 hlimit, rfl, ?_⟩
                  rw [hlookup] at h
                  cases node with
                  | file data => exact .inl ⟨nofun, h⟩
                  | dir entries => exact .inl ⟨nofun, h⟩
                  | link target =>
                      refine .inr ⟨target, rfl, ?_⟩
                      dsimp only at h
                      split at h
                      · next hlast =>
                        cases h
                        exact .inl ⟨hlast.1, hlast.2, rfl⟩
                      · next hlast =>
                        refine .inr ⟨fun hrest => ?_, h⟩
                        rw [← Bool.not_eq_false]
                        exact fun hfollow => hlast ⟨hrest, hfollow⟩

/-- If links are handed to a way that never ends at a link, then following the last one as well
never ends at a link. -/
theorem not_isLink_of_travel {onLink : Place → Path → List Name → Except Fault Place}
    (honLink : ∀ (dir : Place) (target : Path) (rest : List Name) (reached : Place), dir.Grounded →
      onLink dir target rest = .ok reached → ¬ reached.node.IsLink)
    {place reached : Place} {segments : List Name} (hground : place.Grounded)
    (hstart : segments = [] → ¬ place.node.IsLink)
    (h : travel onLink true place segments = .ok reached) : ¬ reached.node.IsLink := by
  induction segments generalizing place with
  | nil =>
      cases h
      exact hstart rfl
  | cons segment rest ih =>
      obtain ⟨entries, hentries, hstep⟩ := travel_cons_cases h
      have hdir : place.node.IsDir := ⟨entries, hentries⟩
      rcases hstep with ⟨-, hstay⟩ | ⟨-, hup⟩ | ⟨name, node, -, -, -, hentry⟩
      · exact ih hground (fun _ => hdir.not_isLink) hstay
      · exact ih hground.parent (fun _ => (hground.isDir_parent hdir).not_isLink) hup
      · rcases hentry with ⟨hlink, hentry⟩ | ⟨target, -, hlast | ⟨-, hfollow⟩⟩
        · exact ih (hground.enter hdir name node) (fun _ => hlink) hentry
        · cases hlast.2.1
        · exact honLink place target rest reached hground hfollow

end Place

namespace Disk

variable {disk : Disk}

theorem grounded_rootPlace (disk : Disk) : disk.rootPlace.Grounded := nofun

theorem grounded_startOf {place : Place} (h : place.Grounded) (path : Path) :
    (disk.startOf place path).Grounded := by
  unfold startOf
  split
  · exact disk.grounded_rootPlace
  · exact h

theorem placeAt?_concat (disk : Disk) (names : List Name) (name : Name) :
    disk.placeAt? (names ++ [name]) =
      match disk.placeAt? names with
      | some place => match place.node with
        | .dir entries => (entries.lookup name).map (place.enter name)
        | _ => none
      | none => none := by
  rw [placeAt?, List.foldl_concat]
  rfl

/-- The working directory, if it is there, was reached through directories. -/
theorem grounded_placeAt? {names : List Name} {place : Place}
    (h : disk.placeAt? names = some place) : place.Grounded := by
  induction names using List.reverseRecOn generalizing place with
  | nil =>
      cases h
      exact disk.grounded_rootPlace
  | append_singleton names name ih =>
      rw [placeAt?_concat] at h
      split at h
      · next before hbefore =>
        split at h
        · next entries hentries =>
          obtain ⟨node, -, rfl⟩ := Option.map_eq_some_iff.1 h
          exact (ih hbefore).enter ⟨entries, hentries⟩ name node
        · cases h
      · cases h

/-- However many links may be followed, taking at least one segment and following the last link
never ends at a link. -/
theorem not_isLink_of_travel {links : Nat} {place reached : Place} {segments : List Name}
    (hground : place.Grounded) (hsegments : segments ≠ [])
    (h : disk.travel true links place segments = .ok reached) : ¬ reached.node.IsLink := by
  induction links generalizing place segments reached with
  | zero =>
      refine Place.not_isLink_of_travel ?_ hground (absurd · hsegments) h
      intro dir target rest reached _ hreached
      cases hreached
  | succ links ih =>
      refine Place.not_isLink_of_travel ?_ hground (absurd · hsegments) h
      intro dir target rest reached hdir hreached
      refine ih (grounded_startOf hdir target) ?_ hreached
      intro hnil
      exact List.splitOn_ne_nil slash target.bytes (List.append_eq_nil_iff.1 hnil).1

/-- A look-up that follows links to the end never ends at a link. -/
theorem not_isLink_of_find {path : Path} {reached : Place}
    (h : disk.find true path = .ok reached) : ¬ reached.node.IsLink := by
  unfold find at h
  split at h
  · cases h
  · split at h
    · cases h
    · split at h
      · cases h
      · split at h
        · cases h
        · next place hplace =>
          exact not_isLink_of_travel (grounded_placeAt? hplace)
            (List.splitOn_ne_nil slash path.bytes) h

/-- Does the path lead to a directory, links followed? -/
def isDirectory (disk : Disk) (path : Path) : Bool :=
  match disk.find true path with
  | .ok ⟨.dir _, _⟩ => true
  | _ => false

/-- Where there is anything, there is either a file or a directory. -/
theorem isFile_eq_not_isDirectory {path : Path} (h : disk.pathExists path = true) :
    disk.isFile path = !disk.isDirectory path := by
  unfold pathExists at h
  unfold isFile isDirectory
  cases hfind : disk.find true path with
  | error fault =>
      rw [hfind] at h
      cases h
  | ok reached =>
      have hlink := not_isLink_of_find hfind
      obtain ⟨node, trail⟩ := reached
      cases node with
      | file data => rfl
      | link target => exact absurd ⟨target, rfl⟩ hlink
      | dir entries => rfl

/-- What can be read are the files that a look-up leads to, and nothing else. -/
theorem readFile_eq_ok_iff {path : Path} {data : List UInt8} : disk.readFile path = .ok data ↔
    ∃ place, disk.find true path = .ok place ∧ place.node = .file data := by
  unfold readFile
  cases disk.find true path with
  | error fault => exact iff_of_false nofun nofun
  | ok place =>
      obtain ⟨node, trail⟩ := place
      cases node with
      | file bytes => simp [bind, Except.bind]
      | link target => simp [bind, Except.bind]
      | dir entries => simp [bind, Except.bind]

theorem exists_readFile_eq_ok_iff {path : Path} :
    (∃ data, disk.readFile path = .ok data) ↔ disk.isFile path = true := by
  simp only [readFile_eq_ok_iff]
  unfold isFile
  cases disk.find true path with
  | error fault => exact iff_of_false nofun Bool.false_ne_true
  | ok place =>
      obtain ⟨node, trail⟩ := place
      cases node <;> simp

theorem readFile_of_isDirectory {path : Path} (h : disk.isDirectory path = true) :
    disk.readFile path = .error .isDirectory := by
  unfold isDirectory at h
  split at h
  · next entries trail hfind =>
    rw [readFile, hfind]
    rfl
  · cases h

theorem not_isFile_of_isDirectory {path : Path} (h : disk.isDirectory path = true) :
    ¬ disk.isFile path = true := by
  rw [← exists_readFile_eq_ok_iff, readFile_of_isDirectory h]
  rintro ⟨data, hdata⟩
  cases hdata

end Disk

end HeaderSearch
