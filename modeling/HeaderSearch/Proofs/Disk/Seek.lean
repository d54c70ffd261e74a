/-
# Look-ups and spellings

Paths that are the same ask for the same steps from the same start, but they need not be looked up
alike. One spelling may be too long, and a separator at the end asks for a directory. Here the part
of a look-up that depends on the components alone is taken out: the path is sought.

What a look-up finds is found by seeking, with one exception. If a separator or a `.` at the end had
a last link followed to a directory, then seeking finds that directory only if it follows the last
link as well. In the other direction, what is sought under a short path is found, if the path ends
in a name or what is sought is a directory.
-/

import HeaderSearch.Proofs.Disk.Steps
import HeaderSearch.Proofs.Disk.Tree
import HeaderSearch.Proofs.Path.Tidy

namespace HeaderSearch

open HeaderSearch.Path

namespace Path

/-- What a look-up takes of a path: the segments that lead somewhere. -/
def steps (p : Path) : List Name := p.segments.filter (!isVoid ·)

theorem steps_eq_map_innerComponents (p : Path) :
    p.steps = (innerComponents p.bytes).map segmentOf :=
  filter_isVoid_eq p.segments

/-- Of the components the steps are all but the root and a leading `.`. -/
theorem steps_eq_map_components (p : Path) :
    p.steps = (p.components.filter fun c => c ≠ .root ∧ c ≠ .here).map segmentOf := by
  have hlead : p.lead.filter (fun c => c ≠ .root ∧ c ≠ .here) = [] := by
    rcases p.lead_eq with h | h | h <;> rw [h] <;> rfl
  have hinner : (innerComponents p.bytes).filter (fun c => c ≠ .root ∧ c ≠ .here) =
      innerComponents p.bytes :=
    List.filter_eq_self.2 fun c hc => decide_eq_true (mem_innerComponents hc).2
  rw [components_eq_lead_append, List.filter_append, hlead, hinner, List.nil_append,
    steps_eq_map_innerComponents]

theorem Same.steps_eq {p q : Path} (h : p.Same q) : p.steps = q.steps := by
  rw [steps_eq_map_components, steps_eq_map_components, show p.components = q.components from h]

theorem Same.nul_mem_iff {p q : Path} (h : p.Same q) : 0 ∈ p.bytes ↔ 0 ∈ q.bytes := by
  rw [mem_bytes_iff (by decide) (by decide), mem_bytes_iff (by decide) (by decide),
    show p.components = q.components from h]

section Descend

variable {p : Path} {names : List Name}

/-- Names add themselves to the steps of the directory that they lead down from. -/
theorem steps_descend (hp : p.bytes ≠ [])
    (hnames : ∀ name ∈ names, (Component.name name).Spellable) :
    (p.descend names).steps = p.steps ++ names := by
  rw [steps_eq_map_components, components_descend hp hnames, List.filter_append, List.map_append,
    ← steps_eq_map_components]
  simp [List.filter_map, Function.comp_def, segmentOf]

theorem isAbsolute_descend (hp : p.bytes ≠ [])
    (hnames : ∀ name ∈ names, (Component.name name).Spellable) :
    (p.descend names).isAbsolute = p.isAbsolute := by
  rw [Bool.eq_iff_iff, isAbsolute_iff_root_mem, isAbsolute_iff_root_mem,
    components_descend hp hnames]
  simp

end Descend

end Path

namespace Disk

variable {disk : Disk} {followLast : Bool} {path : Path} {reached : Place}

/-- Look up what a path asks for by its components. -/
def seek (disk : Disk) (followLast : Bool) (path : Path) : Except Fault Place :=
  match disk.placeAt? (disk.startNames path) with
  | none => .error .missing
  | some place => disk.travel followLast linkLimit place path.steps

theorem seek_eq_of_same {p q : Path} (h : p.Same q) :
    disk.seek followLast p = disk.seek followLast q := by
  unfold seek startNames
  rw [h.steps_eq, h.isAbsolute_eq]

/-- What a look-up that succeeds has done, whether it was to follow the last link or not. -/
theorem exists_start_of_find (h : disk.find followLast path = .ok reached) :
    path.bytes ≠ [] ∧ ∃ place, disk.placeAt? (disk.startNames path) = some place ∧
      ∀ follow, disk.find follow path =
        disk.travel follow linkLimit place path.segments := by
  unfold find at h ⊢
  split at h
  · cases h
  · next hnul =>
    split at h
    · cases h
    · next hempty =>
      split at h
      · cases h
      · next hlong =>
        split at h
        · cases h
        · next place hplace =>
          refine ⟨hempty, place, hplace, fun follow => ?_⟩
          rw [if_neg hnul, if_neg hempty, if_neg hlong]

/-- What a look-up finds is found by seeking; but a directory is perhaps found only if the last link
is followed. -/
theorem find_cases (h : disk.find followLast path = .ok reached) :
    (∀ follow, disk.find follow path = disk.seek follow path) ∨
      (reached.node.IsDir ∧ disk.seek true path = .ok reached) := by
  obtain ⟨-, place, hplace, hfind⟩ := exists_start_of_find h
  have hseek : ∀ follow, disk.seek follow path =
      disk.travel follow linkLimit place path.steps := fun follow => by
    rw [seek, hplace]
  rw [hfind] at h
  simp only [hfind, hseek, steps]
  rcases List.eq_nil_or_concat' path.segments with hnil | ⟨front, last, hsegments⟩
  · rw [hnil]
    exact .inl fun _ => rfl
  · rw [hsegments] at h ⊢
    have hfront : ∀ follow, disk.travel follow linkLimit place (front ++ [last]) =
        disk.travel follow linkLimit place (front.filter (!isVoid ·) ++ [last]) := fun _ =>
      @travel_append_filter disk _ _ _ [] front last
    rw [List.filter_append]
    by_cases hlast : isVoid last = true
    · rw [hfront] at h
      obtain ⟨middle, hmiddle, left, -, hstay⟩ := exists_middle_of_travel_append (by simp) h
      obtain ⟨hdir, rfl⟩ := travel_void hlast hstay
      rw [List.filter_cons_of_neg (by simp [hlast]), List.filter_nil, List.append_nil]
      exact .inr ⟨hdir, hmiddle⟩
    · rw [List.filter_cons_of_pos (by simp [hlast]), List.filter_nil]
      exact .inl hfront

/-- With the last link followed, what a look-up finds is found by seeking. -/
theorem seek_true_of_find_true (h : disk.find true path = .ok reached) :
    disk.seek true path = .ok reached := by
  rcases find_cases h with hsame | ⟨-, hseek⟩
  · rw [← hsame]
    exact h
  · exact hseek

theorem find_true_of_find_false (h : disk.find false path = .ok reached)
    (hlink : ¬ reached.node.IsLink) : disk.find true path = .ok reached := by
  obtain ⟨-, place, -, hfind⟩ := exists_start_of_find h
  rw [hfind] at h ⊢
  exact travel_true_of_travel_false h hlink

theorem exists_find_false_of_find_true (h : disk.find true path = .ok reached) :
    ∃ stopped, disk.find false path = .ok stopped := by
  obtain ⟨-, place, -, hfind⟩ := exists_start_of_find h
  rw [hfind] at h ⊢
  exact exists_travel_false_of_travel_true h

theorem nul_notMem_of_find (h : disk.find followLast path = .ok reached) : 0 ∉ path.bytes := by
  intro hnul
  rw [find, if_pos (by simpa using hnul)] at h
  cases h

/-! ## From seeking to finding -/

/-- As long as the working directory is there, every path has a place to start from. -/
theorem placeAt?_startNames {here : Place} (h : disk.placeAt? disk.workingDir = some here)
    (path : Path) : disk.placeAt? (disk.startNames path) = some (disk.startOf here path) := by
  unfold startNames startOf
  split
  · rfl
  · exact h

/-- A path that can be handed to the disk is looked up from where it starts, if that is there. -/
theorem find_eq_of_short (hnul : 0 ∉ path.bytes) (hempty : path.bytes ≠ [])
    (hshort : path.isTooLong = false) :
    disk.find followLast path =
      match disk.placeAt? (disk.startNames path) with
      | none => .error .missing
      | some place => disk.travel followLast linkLimit place path.segments := by
  have hnul' : ¬ path.bytes.contains 0 = true := by simpa using hnul
  unfold find
  exact (if_neg hnul').trans ((if_neg hempty).trans (if_neg (by simp [hshort])))

/-- If neither a separator nor a `.` stands at the end, a path is looked up as it is sought. -/
theorem find_eq_seek (hnul : 0 ∉ path.bytes) (hempty : path.bytes ≠ [])
    (hshort : path.isTooLong = false) {front : List Name} {last : Name}
    (hsegments : path.segments = front ++ [last]) (hlast : isVoid last = false) :
    disk.find followLast path = disk.seek followLast path := by
  have hsteps : path.steps = front.filter (!isVoid ·) ++ [last] := by
    rw [steps, hsegments, List.filter_append, List.filter_cons_of_pos (by simp [hlast]),
      List.filter_nil]
  rw [find_eq_of_short hnul hempty hshort, seek, hsegments, hsteps]
  cases disk.placeAt? (disk.startNames path) with
  | none => rfl
  | some place => exact @travel_append_filter disk followLast linkLimit place [] front last

/-- A directory that is sought under a path is found under it, whatever stands at the end. -/
theorem find_true_of_seek (hnul : 0 ∉ path.bytes) (hempty : path.bytes ≠ [])
    (hshort : path.isTooLong = false) (h : disk.seek true path = .ok reached)
    (hdir : reached.node.IsDir) : disk.find true path = .ok reached := by
  rcases List.eq_nil_or_concat' path.segments with hnil | ⟨front, last, hsegments⟩
  · exact absurd hnil (List.splitOn_ne_nil slash path.bytes)
  · by_cases hlast : isVoid last = true
    · cases hplace : disk.placeAt? (disk.startNames path) with
      | none =>
          rw [seek, hplace] at h
          cases h
      | some place =>
          have hfilter := @travel_append_filter disk true linkLimit place [] front last
          rw [seek, hplace, steps, hsegments, List.filter_append,
            List.filter_cons_of_neg (by simp [hlast]), List.filter_nil, List.append_nil] at h
          rw [find_eq_of_short hnul hempty hshort, hplace, hsegments]
          exact hfilter.trans (travel_concat_void hlast h hdir)
    · rw [find_eq_seek hnul hempty hshort hsegments (Bool.not_eq_true _ ▸ hlast)]
      exact h

end Disk

end HeaderSearch
