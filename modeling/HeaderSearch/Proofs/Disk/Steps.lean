/-
# Laws of look-ups

A look-up takes segments one after another. Four things are said here about what becomes of the
others if the segments are changed or the last link is treated differently.

* A segment that leads nowhere can be left out if there is a segment behind it. That one asks for a
  directory anyway.
* A segment that leads nowhere can be added at the end if the look-up ends at a directory.
* A look-up of segments with more segments behind them is a look-up of the former, with the last
  link followed, and then one of the latter, with the links that are left.
* Whether the last link is followed makes a difference only if there is a link at the end.

Links are handed on to whatever looks up the rest, so each law is stated first for one level of
links, given that it holds of the next, and then carried over by induction on the links that are
left.
-/

import HeaderSearch.Proofs.Disk.Reached
import HeaderSearch.Path.Parent

namespace HeaderSearch

open HeaderSearch.Path

namespace Place

variable {onLink onLink' : Place → Path → List Name → Except Fault Place} {followLast : Bool}
  {place reached : Place} {entries : List (Name × Node)} {segment : Name} {rest : List Name}

/-! ## Taking one segment -/

theorem travel_cons_of_void (hdir : place.node = .dir entries) (hvoid : isVoid segment = true) :
    travel onLink followLast place (segment :: rest) = travel onLink followLast place rest := by
  rw [isVoid, Option.isNone_iff_eq_none] at hvoid
  rw [travel, hdir]
  simp only [hvoid]

theorem travel_cons_of_up (hdir : place.node = .dir entries)
    (hup : Component.ofSegment? segment = some .up) :
    travel onLink followLast place (segment :: rest) =
      travel onLink followLast place.parent rest := by
  rw [travel, hdir]
  simp only [hup]

theorem travel_cons_of_entry {name : Name} {node : Node} (hdir : place.node = .dir entries)
    (hname : Component.ofSegment? segment = some (.name name)) (hlimit : name.length ≤ nameLimit)
    (hlookup : entries.lookup name = some node) (hlink : ¬ node.IsLink) :
    travel onLink followLast place (segment :: rest) =
      travel onLink followLast (place.enter name node) rest := by
  rw [travel, hdir]
  simp only [hname, hlookup, if_neg (Nat.not_lt.2 hlimit)]
  cases node with
  | file data => rfl
  | dir entries => rfl
  | link target => exact absurd ⟨target, rfl⟩ hlink

theorem travel_cons_of_link {name : Name} {target : Path} (hdir : place.node = .dir entries)
    (hname : Component.ofSegment? segment = some (.name name)) (hlimit : name.length ≤ nameLimit)
    (hlookup : entries.lookup name = some (.link target))
    (hfollow : rest = [] → followLast = true) :
    travel onLink followLast place (segment :: rest) = onLink place target rest := by
  have hgo : ¬ (rest = [] ∧ followLast = false) := fun ⟨hrest, hstop⟩ => by
    rw [hfollow hrest] at hstop
    cases hstop
  rw [travel, hdir]
  simp only [hname, hlookup, if_neg (Nat.not_lt.2 hlimit), if_neg hgo]

/-- What taking the name of an entry can do, if the look-up does not fail. -/
theorem travel_cons_name_cases {name : Name} {node : Node} (hdir : place.node = .dir entries)
    (hname : Component.ofSegment? segment = some (.name name))
    (hlookup : entries.lookup name = some node)
    (h : travel onLink followLast place (segment :: rest) = .ok reached) :
    (¬ node.IsLink ∧ travel onLink followLast (place.enter name node) rest = .ok reached) ∨
      ∃ target, node = .link target ∧
        ((rest = [] ∧ followLast = false ∧ reached = place.enter name node) ∨
          ((rest = [] → followLast = true) ∧ onLink place target rest = .ok reached)) := by
  obtain ⟨entries', hdir', hstep⟩ := travel_cons_cases h
  rw [hdir] at hdir'
  cases hdir'
  rw [hname] at hstep
  rcases hstep with ⟨hread, -⟩ | ⟨hread, -⟩ | ⟨name', node', hread, -, hlookup', hentry⟩
  · cases hread
  · cases hread
  · cases hread
    rw [hlookup] at hlookup'
    cases hlookup'
    exact hentry

/-! ## Leaving out what leads nowhere -/

/-- A segment that leads nowhere asks for a directory, and so does the segment behind it. -/
theorem travel_void_cons {next : Name} (hvoid : isVoid segment = true) :
    travel onLink followLast place (segment :: next :: rest) =
      travel onLink followLast place (next :: rest) := by
  cases hnode : place.node with
  | dir entries => exact travel_cons_of_void hnode hvoid
  | file data => simp only [travel, hnode]
  | link target => simp only [travel, hnode]

theorem travel_append_void_cons {front : List Name} (hvoid : isVoid segment = true)
    (hrest : rest ≠ [])
    (honLink : ∀ dir target before, onLink dir target (before ++ segment :: rest) =
      onLink dir target (before ++ rest)) :
    travel onLink followLast place (front ++ segment :: rest) =
      travel onLink followLast place (front ++ rest) := by
  induction front generalizing place with
  | nil =>
      obtain ⟨next, others, rfl⟩ := List.exists_cons_of_ne_nil hrest
      exact travel_void_cons hvoid
  | cons first front ih =>
      simp only [List.cons_append, travel, ih, honLink]
      simp [hrest]

/-! ## Looking up in two stages -/

/-- If links can be looked up in two stages, so can segments. What holds between the place in the
middle and the end is said by `R`. -/
theorem exists_middle_of_travel_append {back : List Name} {R : Place → Place → Prop}
    (hback : back ≠ [])
    (honLink : ∀ dir target before reached, onLink dir target (before ++ back) = .ok reached →
      ∃ middle, onLink' dir target before = .ok middle ∧ R middle reached)
    (hrest : ∀ middle reached, travel onLink followLast middle back = .ok reached →
      R middle reached)
    {front : List Name} (h : travel onLink followLast place (front ++ back) = .ok reached) :
    ∃ middle, travel onLink' true place front = .ok middle ∧ R middle reached := by
  induction front generalizing place with
  | nil => exact ⟨place, rfl, hrest place reached h⟩
  | cons segment front ih =>
      obtain ⟨entries, hdir, hstep⟩ := travel_cons_cases h
      rcases hstep with ⟨hvoid, hstay⟩ | ⟨hup, hgo⟩ | ⟨name, node, hname, hlimit, hlookup, hentry⟩
      · rw [travel_cons_of_void hdir (Option.isNone_iff_eq_none.2 hvoid)]
        exact ih hstay
      · rw [travel_cons_of_up hdir hup]
        exact ih hgo
      · rcases hentry with ⟨hlink, hgo⟩ | ⟨target, rfl, hlast | ⟨-, hfollow⟩⟩
        · rw [travel_cons_of_entry hdir hname hlimit hlookup hlink]
          exact ih hgo
        · exact absurd (List.append_eq_nil_iff.1 hlast.1).2 hback
        · rw [travel_cons_of_link hdir hname hlimit hlookup fun _ => rfl]
          exact honLink place target front reached hfollow

/-! ## The last link -/

/-- A look-up that does not end at a link ends there also if the last link is followed. -/
theorem travel_true_of_travel_false {segments : List Name}
    (honLink : ∀ dir target before reached, ¬ reached.node.IsLink →
      onLink dir target before = .ok reached → onLink' dir target before = .ok reached)
    (h : travel onLink false place segments = .ok reached) (hlink : ¬ reached.node.IsLink) :
    travel onLink' true place segments = .ok reached := by
  induction segments generalizing place with
  | nil => exact h
  | cons segment rest ih =>
      obtain ⟨entries, hdir, hstep⟩ := travel_cons_cases h
      rcases hstep with ⟨hvoid, hstay⟩ | ⟨hup, hgo⟩ | ⟨name, node, hname, hlimit, hlookup, hentry⟩
      · rw [travel_cons_of_void hdir (Option.isNone_iff_eq_none.2 hvoid)]
        exact ih hstay
      · rw [travel_cons_of_up hdir hup]
        exact ih hgo
      · rcases hentry with ⟨hnode, hgo⟩ | ⟨target, rfl, ⟨-, -, rfl⟩ | ⟨-, hfollow⟩⟩
        · rw [travel_cons_of_entry hdir hname hlimit hlookup hnode]
          exact ih hgo
        · exact absurd ⟨target, rfl⟩ hlink
        · rw [travel_cons_of_link hdir hname hlimit hlookup fun _ => rfl]
          exact honLink place target rest reached hlink hfollow

/-- A look-up that succeeds with the last link followed succeeds also without. -/
theorem exists_travel_false_of_travel_true {segments : List Name}
    (honLink : ∀ dir target before reached, onLink' dir target before = .ok reached →
      ∃ stopped, onLink dir target before = .ok stopped)
    (h : travel onLink' true place segments = .ok reached) :
    ∃ stopped, travel onLink false place segments = .ok stopped := by
  induction segments generalizing place with
  | nil => exact ⟨place, rfl⟩
  | cons segment rest ih =>
      obtain ⟨entries, hdir, hstep⟩ := travel_cons_cases h
      rcases hstep with ⟨hvoid, hstay⟩ | ⟨hup, hgo⟩ | ⟨name, node, hname, hlimit, hlookup, hentry⟩
      · rw [travel_cons_of_void hdir (Option.isNone_iff_eq_none.2 hvoid)]
        exact ih hstay
      · rw [travel_cons_of_up hdir hup]
        exact ih hgo
      · rcases hentry with ⟨hnode, hgo⟩ | ⟨target, rfl, hlast | ⟨-, hfollow⟩⟩
        · rw [travel_cons_of_entry hdir hname hlimit hlookup hnode]
          exact ih hgo
        · cases hlast.2.1
        · by_cases hrest : rest = []
          · refine ⟨place.enter name (.link target), ?_⟩
            rw [travel, hdir]
            simp only [hname, hlookup, if_neg (Nat.not_lt.2 hlimit), hrest, true_and, if_true]
          · rw [travel_cons_of_link hdir hname hlimit hlookup fun h => absurd h hrest]
            exact honLink place target rest reached hfollow

/-! ## Asking for a directory -/

/-- Where a look-up ends at a directory, one more segment that leads nowhere makes no difference. -/
theorem travel_concat_void {segments : List Name} (hvoid : isVoid segment = true)
    (honLink : ∀ dir target before, onLink dir target before = .ok reached →
      onLink dir target (before ++ [segment]) = .ok reached)
    (h : travel onLink true place segments = .ok reached) (hdir : reached.node.IsDir) :
    travel onLink true place (segments ++ [segment]) = .ok reached := by
  induction segments generalizing place with
  | nil =>
      cases h
      obtain ⟨entries, hentries⟩ := hdir
      exact travel_cons_of_void hentries hvoid
  | cons first rest ih =>
      obtain ⟨entries, hplace, hstep⟩ := travel_cons_cases h
      rw [List.cons_append]
      rcases hstep with ⟨hread, hstay⟩ | ⟨hup, hgo⟩ | ⟨name, node, hname, hlimit, hlookup, hentry⟩
      · rw [travel_cons_of_void hplace (Option.isNone_iff_eq_none.2 hread)]
        exact ih hstay
      · rw [travel_cons_of_up hplace hup]
        exact ih hgo
      · rcases hentry with ⟨hlink, hgo⟩ | ⟨target, rfl, hlast | ⟨-, hfollow⟩⟩
        · rw [travel_cons_of_entry hplace hname hlimit hlookup hlink]
          exact ih hgo
        · cases hlast.2.1
        · rw [travel_cons_of_link hplace hname hlimit hlookup fun _ => rfl]
          exact honLink place target rest hfollow

end Place

namespace Disk

variable {disk : Disk} {followLast : Bool} {links : Nat} {place reached : Place}

/-- With some number of links left, links are handed on in some way. -/
theorem exists_travel_eq (disk : Disk) (followLast : Bool) (links : Nat) :
    ∃ onLink, disk.travel followLast links = Place.travel onLink followLast := by
  cases links with
  | zero => exact ⟨_, rfl⟩
  | succ links => exact ⟨_, rfl⟩

/-- A single segment that leads nowhere asks for a directory. -/
theorem travel_void {segment : Name} (hvoid : isVoid segment = true)
    (h : disk.travel followLast links place [segment] = .ok reached) :
    place.node.IsDir ∧ reached = place := by
  have hread := Option.isNone_iff_eq_none.1 hvoid
  obtain ⟨onLink, honLink⟩ := disk.exists_travel_eq followLast links
  rw [honLink] at h
  obtain ⟨entries, hdir, ⟨-, hstay⟩ | ⟨hup, -⟩ | ⟨name, node, hname, -⟩⟩ :=
    Place.travel_cons_cases h
  · cases hstay
    exact ⟨⟨entries, hdir⟩, rfl⟩
  · rw [hread] at hup
    cases hup
  · rw [hread] at hname
    cases hname

/-- A segment that leads nowhere can be left out if there is a segment behind it. -/
theorem travel_append_void_cons {front rest : List Name} {segment : Name}
    (hvoid : isVoid segment = true) (hrest : rest ≠ []) :
    disk.travel followLast links place (front ++ segment :: rest) =
      disk.travel followLast links place (front ++ rest) := by
  induction links generalizing place front with
  | zero => exact Place.travel_append_void_cons hvoid hrest fun _ _ _ => rfl
  | succ links ih =>
      refine Place.travel_append_void_cons hvoid hrest fun dir target before => ?_
      rw [← List.append_assoc, ← List.append_assoc, ih]

/-- All segments that lead nowhere can be left out, except for the last segment. -/
theorem travel_append_filter {front segments : List Name} {last : Name} :
    disk.travel followLast links place (front ++ segments ++ [last]) =
      disk.travel followLast links place (front ++ segments.filter (!isVoid ·) ++ [last]) := by
  induction segments generalizing front with
  | nil => rw [List.filter_nil]
  | cons segment rest ih =>
      by_cases hvoid : isVoid segment = true
      · calc
          disk.travel followLast links place (front ++ segment :: rest ++ [last]) =
              disk.travel followLast links place (front ++ segment :: (rest ++ [last])) := by simp
          _ = disk.travel followLast links place (front ++ (rest ++ [last])) :=
            travel_append_void_cons hvoid (by simp)
          _ = disk.travel followLast links place
              (front ++ (segment :: rest).filter (!isVoid ·) ++ [last]) := by
            rw [← List.append_assoc, ih, List.filter_cons_of_neg (by simp [hvoid])]
      · have hcons := @ih (front ++ [segment])
        rw [List.filter_cons_of_pos (by simp [hvoid])]
        simpa using hcons

/-- A look-up of segments with more of them behind is one of the former, with the last link
followed, and then one of the latter, with the links that are left. -/
theorem exists_middle_of_travel_append {front back : List Name} (hback : back ≠ [])
    (h : disk.travel followLast links place (front ++ back) = .ok reached) :
    ∃ middle, disk.travel true links place front = .ok middle ∧
      ∃ left ≤ links, disk.travel followLast left middle back = .ok reached := by
  induction links generalizing place front reached with
  | zero =>
      refine Place.exists_middle_of_travel_append
        (R := fun middle reached =>
          ∃ left ≤ 0, disk.travel followLast left middle back = .ok reached)
        hback ?_ ?_ h
      · intro dir target before reached hlink
        cases hlink
      · exact fun middle reached hrest => ⟨0, Nat.le_refl 0, hrest⟩
  | succ links ih =>
      refine Place.exists_middle_of_travel_append
        (R := fun middle reached =>
          ∃ left ≤ links + 1, disk.travel followLast left middle back = .ok reached)
        hback ?_ ?_ h
      · intro dir target before reached hlink
        rw [← List.append_assoc] at hlink
        obtain ⟨middle, hmiddle, left, hleft, hrest⟩ := ih hlink
        exact ⟨middle, hmiddle, left, Nat.le_succ_of_le hleft, hrest⟩
      · exact fun middle reached hrest => ⟨links + 1, Nat.le_refl _, hrest⟩

/-- A look-up that does not end at a link ends there also if the last link is followed. -/
theorem travel_true_of_travel_false {segments : List Name}
    (h : disk.travel false links place segments = .ok reached) (hlink : ¬ reached.node.IsLink) :
    disk.travel true links place segments = .ok reached := by
  induction links generalizing place segments reached with
  | zero =>
      refine Place.travel_true_of_travel_false ?_ h hlink
      intro dir target before reached _ hgo
      cases hgo
  | succ links ih =>
      refine Place.travel_true_of_travel_false ?_ h hlink
      intro dir target before reached hlink hgo
      exact ih hgo hlink

/-- A look-up that succeeds with the last link followed succeeds also without. -/
theorem exists_travel_false_of_travel_true {segments : List Name}
    (h : disk.travel true links place segments = .ok reached) :
    ∃ stopped, disk.travel false links place segments = .ok stopped := by
  induction links generalizing place segments reached with
  | zero =>
      refine Place.exists_travel_false_of_travel_true ?_ h
      intro dir target before reached hgo
      cases hgo
  | succ links ih =>
      refine Place.exists_travel_false_of_travel_true ?_ h
      intro dir target before reached hgo
      exact ih hgo

/-- A look-up that ends at a directory ends there also if a directory is asked for. -/
theorem travel_concat_void {segments : List Name} {segment : Name} (hvoid : isVoid segment = true)
    (h : disk.travel true links place segments = .ok reached) (hdir : reached.node.IsDir) :
    disk.travel true links place (segments ++ [segment]) = .ok reached := by
  induction links generalizing place segments with
  | zero =>
      refine Place.travel_concat_void hvoid ?_ h hdir
      intro dir target before hgo
      cases hgo
  | succ links ih =>
      refine Place.travel_concat_void hvoid ?_ h hdir
      intro dir target before hgo
      rw [← List.append_assoc]
      exact ih hgo

end Disk

end HeaderSearch
