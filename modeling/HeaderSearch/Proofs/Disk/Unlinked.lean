/-
# Look-ups that meet no link

A look-up that may follow no link fails at the first one that it has to follow. If it succeeds,
every segment was looked up in the tree itself: a name leads down to an entry, and `..` leads back
to where that entry was looked up. Such look-ups compose, which makes it possible to take the
components of a path one by one.

The segments of a text and its components lead to the same place, except that a text can fail where
its components do not: every segment asks for a directory to stand in, also one that names nothing.
-/

import HeaderSearch.Proofs.Disk.Admissible

namespace HeaderSearch

open HeaderSearch.Path

namespace Disk

variable {disk : Disk} {here place middle reached : Place} {followLast : Bool} {links : Nat}

/-! ## Composing look-ups -/

/-- What is reached without meeting a link is reached however many links may be followed, and
segments behind it are taken from there. -/
theorem travel_append_of_unlinked {front : List Name}
    (h : disk.travel true 0 place front = .ok middle) (followLast : Bool) (links : Nat)
    (back : List Name) :
    disk.travel followLast links place (front ++ back) =
      disk.travel followLast links middle back := by
  obtain ⟨onLink, honLink⟩ := disk.exists_travel_eq followLast links
  rw [honLink]
  induction front generalizing place with
  | nil =>
      cases h
      rfl
  | cons segment rest ih =>
      rw [List.cons_append]
      obtain ⟨entries, hdir, hstep⟩ := Place.travel_cons_cases h
      rcases hstep with ⟨hvoid, hstay⟩ | ⟨hup, hgo⟩ | ⟨name, node, hname, hlimit, hlookup, hentry⟩
      · rw [Place.travel_cons_of_void hdir (Option.isNone_iff_eq_none.2 hvoid)]
        exact ih hstay
      · rw [Place.travel_cons_of_up hdir hup]
        exact ih hgo
      · rcases hentry with ⟨hlink, hgo⟩ | ⟨target, rfl, hlast | ⟨-, hfollow⟩⟩
        · rw [Place.travel_cons_of_entry hdir hname hlimit hlookup hlink]
          exact ih hgo
        · cases hlast.2.1
        · cases hfollow

theorem travel_of_unlinked {segments : List Name}
    (h : disk.travel true 0 place segments = .ok reached) (followLast : Bool) (links : Nat) :
    disk.travel followLast links place segments = .ok reached := by
  have happend := travel_append_of_unlinked h followLast links []
  rw [List.append_nil] at happend
  rw [happend]
  cases links <;> rfl

/-- Segments can be taken in two stages. -/
theorem travel_append_unlinked_iff {front back : List Name} :
    disk.travel true 0 place (front ++ back) = .ok reached ↔
      ∃ middle, disk.travel true 0 place front = .ok middle ∧
        disk.travel true 0 middle back = .ok reached := by
  constructor
  · intro h
    by_cases hback : back = []
    · rw [hback, List.append_nil] at h
      refine ⟨reached, h, ?_⟩
      rw [hback]
      rfl
    · obtain ⟨middle, hfront, left, hleft, hrest⟩ := exists_middle_of_travel_append hback h
      rw [Nat.le_zero.1 hleft] at hrest
      exact ⟨middle, hfront, hrest⟩
  · rintro ⟨middle, hfront, hback⟩
    rw [travel_append_of_unlinked hfront, hback]

/-- A segment asks for a directory, whatever it is. -/
theorem isDir_of_travel_cons {segment : Name} {rest : List Name}
    (h : disk.travel followLast links place (segment :: rest) = .ok reached) :
    place.node.IsDir := by
  obtain ⟨onLink, honLink⟩ := disk.exists_travel_eq followLast links
  rw [honLink] at h
  obtain ⟨entries, hdir, -⟩ := Place.travel_cons_cases h
  exact ⟨entries, hdir⟩

theorem travel_up (h : disk.travel true 0 place [[dot, dot]] = .ok reached) :
    reached = place.parent := by
  obtain ⟨entries, hdir⟩ := isDir_of_travel_cons h
  have hgo : Place.travel _ true place [[dot, dot]] = .ok reached := h
  rw [Place.travel_cons_of_up hdir rfl] at hgo
  cases hgo
  rfl

/-- From an entry that is no link the parent is where it was entered. -/
theorem parent_of_travel_name {name : Name} (hname : (Component.name name).Spellable)
    (h : disk.travel true 0 place [name] = .ok reached) : reached.parent = place := by
  obtain ⟨entries, hdir, hstep⟩ := Place.travel_cons_cases h
  rw [hname.1] at hstep
  rcases hstep with ⟨hvoid, -⟩ | ⟨hup, -⟩ | ⟨name', node, -, -, -, hentry⟩
  · cases hvoid
  · cases hup
  · rcases hentry with ⟨-, hgo⟩ | ⟨target, -, hlast | ⟨-, hfollow⟩⟩
    · cases hgo
      rfl
    · cases hlast.2.1
    · cases hfollow

/-! ## Taking components one by one -/

/-- Where components lead that are taken one by one, from the root if they begin with it and from
`here` otherwise. Meeting a link is a failure. -/
def stepwise (disk : Disk) (here : Place) (components : List Component) : Except Fault Place :=
  disk.travel true 0 (if .root ∈ components then disk.rootPlace else here)
    (components.map segmentOf)

/-! ## Looking texts up -/

theorem isAdmissible_of_find {path : Path} (h : disk.find followLast path = .ok reached) :
    path.IsAdmissible := by
  refine ⟨nul_notMem_of_find h, ?_⟩
  rw [← Bool.not_eq_true]
  intro hlong
  rw [find, if_neg (by simpa using nul_notMem_of_find h), if_pos hlong] at h
  split at h <;> cases h

/-- The path leads to the place, and no link is met on the way: the place is found even if no link
may be followed. -/
structure LeadsUnlinked (disk : Disk) (path : Path) (place : Place) : Prop where
  found : disk.find true path = .ok place
  unlinked : ∀ start, disk.placeAt? (disk.startNames path) = some start →
    disk.travel true 0 start path.segments = .ok place

theorem travel_filter_of_unlinked {segments : List Name}
    (h : disk.travel true 0 place segments = .ok reached) :
    disk.travel true 0 place (segments.filter (!isVoid ·)) = .ok reached := by
  induction segments generalizing place with
  | nil => exact h
  | cons segment rest ih =>
      rw [← List.singleton_append, travel_append_unlinked_iff] at h
      obtain ⟨middle, hfirst, hrest⟩ := h
      by_cases hvoid : isVoid segment = true
      · obtain ⟨-, rfl⟩ := travel_void hvoid hfirst
        rw [List.filter_cons_of_neg (by simp [hvoid])]
        exact ih hrest
      · rw [List.filter_cons_of_pos (by simp [hvoid]), ← List.singleton_append,
          travel_append_unlinked_iff]
        exact ⟨middle, hfirst, ih hrest⟩

/-- Where the segments of a path lead, there its components lead. -/
theorem travel_components_of_segments {path : Path} (hne : path.bytes ≠ [])
    (h : disk.travel true 0 place path.segments = .ok reached) :
    disk.travel true 0 place (path.components.map segmentOf) = .ok reached := by
  obtain ⟨first, rest, hsegments⟩ := path.exists_segments
  rw [hsegments, ← List.singleton_append, travel_append_unlinked_iff] at h
  obtain ⟨middle, hfirst, hrest⟩ := h
  rw [map_segmentOf_components hsegments hne, ← List.singleton_append,
    travel_append_unlinked_iff]
  exact ⟨middle, hfirst, travel_filter_of_unlinked hrest⟩

/-- Behind a separator, the segments of a path ask for a directory and lead where its components
lead, the root left out. -/
theorem travel_relativeComponents_of_segments {path : Path}
    (h : disk.travel true 0 place path.segments = .ok reached) :
    disk.travel true 0 place (path.relativeComponents.map segmentOf) = .ok reached := by
  have hdir : place.node.IsDir := by
    obtain ⟨first, rest, hsegments⟩ := path.exists_segments
    rw [hsegments] at h
    exact isDir_of_travel_cons h
  have hsteps : disk.travel true 0 place ((innerComponents path.bytes).map segmentOf) =
      .ok reached := by
    rw [← steps_eq_map_innerComponents]
    exact travel_filter_of_unlinked h
  rw [relativeComponents_eq, List.map_append]
  rcases path.lead_eq with hlead | hlead | hlead
  · rw [hlead]
    exact hsteps
  · rw [hlead]
    exact hsteps
  · rw [hlead, travel_append_unlinked_iff]
    obtain ⟨entries, hentries⟩ := hdir
    exact ⟨place, Place.travel_cons_of_void hentries (by decide), hsteps⟩

/-- A directory and an include that are written behind one another lead, if no link is met, where
their components lead one by one. -/
theorem LeadsUnlinked.stepwise {dir rest : Path} (hne : dir.bytes ≠ [])
    (hhere : disk.placeAt? disk.workingDir = some here)
    (h : disk.LeadsUnlinked ⟨dir.bytes ++ slash :: rest.bytes⟩ reached) :
    disk.stepwise here (dir.components ++ rest.relativeComponents) = .ok reached := by
  have htravel := h.unlinked _ (placeAt?_startNames hhere _)
  have hsegments : (Path.mk (dir.bytes ++ slash :: rest.bytes)).segments =
      dir.segments ++ rest.segments := List.splitOn_append_cons_self _ _
  have hstart : disk.startOf here ⟨dir.bytes ++ slash :: rest.bytes⟩ =
      if .root ∈ dir.components ++ rest.relativeComponents then disk.rootPlace else here := by
    refine if_congr ?_ rfl rfl
    rw [List.mem_append, or_iff_left (root_notMem_relativeComponents rest),
      isAbsolute_iff_root_mem, components_append_slash, if_neg hne, List.mem_append,
      or_iff_left (root_notMem_innerComponents rest.bytes)]
  rw [hsegments, hstart, travel_append_unlinked_iff] at htravel
  obtain ⟨middle, hfront, hback⟩ := htravel
  rw [Disk.stepwise, List.map_append, travel_append_unlinked_iff]
  exact ⟨middle, travel_components_of_segments hne hfront,
    travel_relativeComponents_of_segments hback⟩

end Disk

end HeaderSearch
