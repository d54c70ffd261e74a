/-
# Texts that the disk takes

The disk refuses a text that is too long or holds NUL, whatever there is to be found under it. Both
limits concern the text alone. Spelling components plainly takes only empty segments and `.` out of
a text, and cleaning takes further components away, so a text that is taken as it was joined is
taken as its components are spelled, and then also cleaned.
-/

import HeaderSearch.Proofs.Disk.Seek
import HeaderSearch.Proofs.Path.Cleaning

namespace HeaderSearch.Path

/-- The disk takes the text of the path: it is not too long and does not hold NUL. -/
def IsAdmissible (p : Path) : Prop := 0 ∉ p.bytes ∧ p.isTooLong = false

instance (p : Path) : Decidable p.IsAdmissible :=
  inferInstanceAs (Decidable (0 ∉ p.bytes ∧ p.isTooLong = false))

/-! ## The segments of components -/

theorem map_segmentOf_components_sublist (p : Path) :
    List.Sublist (p.components.map segmentOf) p.segments := by
  by_cases hne : p.bytes = []
  · rw [bytes_eq_nil_iff.1 hne]
    exact List.nil_sublist _
  · obtain ⟨first, rest, hsegments⟩ := p.exists_segments
    rw [map_segmentOf_components hsegments hne, hsegments]
    exact List.filter_sublist.cons_cons first

/-- The room that segments take, each with a separator of its own. -/
def room : List Name → Nat
  | [] => 0
  | segment :: rest => segment.length + 1 + room rest

theorem room_append (front back : List Name) : room (front ++ back) = room front + room back := by
  induction front with
  | nil => exact (Nat.zero_add _).symm
  | cons segment rest ih => rw [List.cons_append, room, room, ih, ← Nat.add_assoc]

theorem room_le_of_sublist {segments others : List Name} (h : List.Sublist segments others) :
    room segments ≤ room others := by
  induction h with
  | slnil => exact Nat.le_refl _
  | cons segment _ ih => exact Nat.le_trans ih (Nat.le_add_left _ _)
  | cons_cons segment _ ih => exact Nat.add_le_add_left ih _

theorem length_intercalate_slash {segments : List Name} (h : segments ≠ []) :
    ([slash].intercalate segments).length + 1 = room segments := by
  induction segments with
  | nil => exact absurd rfl h
  | cons first rest ih =>
      cases rest with
      | nil => simp [room]
      | cons second rest =>
          have hrest := ih (by simp)
          rw [List.intercalate_cons_cons, List.length_append, List.length_append,
            List.length_singleton, room, ← hrest, Nat.add_assoc _ _ 1]

theorem room_segments (p : Path) : room p.segments = p.bytes.length + 1 := by
  have hlength := length_intercalate_slash (List.splitOn_ne_nil slash p.bytes)
  rwa [List.intercalate_splitOn, eq_comm] at hlength

/-- The plain spelling takes the room of its segments without the last separator. The root alone is
spelled as that separator. -/
theorem length_ofComponents {components : List Component} (hne : components ≠ [])
    (hroot : components ≠ [.root]) :
    (ofComponents components).bytes.length + 1 = room (components.map segmentOf) := by
  rw [ofComponents, if_neg hroot]
  exact length_intercalate_slash (by simpa using hne)

/-- Only a name can bring NUL into a plain spelling. -/
theorem nul_mem_ofComponents_iff {components : List Component}
    (hspell : ∀ component ∈ components, component.Spellable) :
    0 ∈ (ofComponents components).bytes ↔ ∃ name, .name name ∈ components ∧ 0 ∈ name := by
  by_cases hne : components = []
  · simp [hne, ofComponents]
  · by_cases hroot : components = [.root]
    · rw [hroot]
      simp [ofComponents, slash]
    · rw [mem_iff_mem_splitOn (show (0 : UInt8) ≠ slash by decide),
        show (ofComponents components).bytes.splitOn slash = components.map segmentOf from
          segments_ofComponents hspell hne hroot]
      constructor
      · rintro ⟨segment, hsegment, hnul⟩
        obtain ⟨component, hcomponent, rfl⟩ := List.mem_map.1 hsegment
        cases component with
        | root => cases hnul
        | here => exact absurd hnul (by decide)
        | up => exact absurd hnul (by decide)
        | name bytes => exact ⟨bytes, hcomponent, hnul⟩
      · rintro ⟨name, hname, hnul⟩
        exact ⟨name, List.mem_map.2 ⟨_, hname, rfl⟩, hnul⟩

/-! ## What joining and cleaning do to the limits -/

variable {dir rest : Path}

/-- If the disk takes two texts with a separator between them, it takes their components. -/
theorem IsAdmissible.ofComponents_joined
    (h : (Path.mk (dir.bytes ++ slash :: rest.bytes)).IsAdmissible) :
    (ofComponents (dir.components ++ rest.relativeComponents)).IsAdmissible := by
  obtain ⟨hnul, hshort⟩ := h
  have hrelative : List.Sublist (rest.relativeComponents.map segmentOf) rest.segments :=
    (List.filter_sublist.map _).trans (map_segmentOf_components_sublist rest)
  have hroom := room_le_of_sublist ((map_segmentOf_components_sublist dir).append hrelative)
  rw [← List.map_append, room_append, room_segments, room_segments] at hroom
  constructor
  · rw [nul_mem_ofComponents_iff fun _ => spellable_of_mem_joined]
    rintro ⟨name, hname, hzero⟩
    simp only [List.mem_append, List.mem_cons, not_or] at hnul
    rcases List.mem_append.1 hname with hname | hname
    · exact hnul.1 ((mem_bytes_iff (by decide) (by decide)).2 ⟨name, hname, hzero⟩)
    · exact hnul.2.2 ((mem_bytes_iff (by decide) (by decide)).2
        ⟨name, List.mem_of_mem_filter hname, hzero⟩)
  · by_cases hne : dir.components ++ rest.relativeComponents = []
    · rw [hne]
      rfl
    · by_cases hroot : dir.components ++ rest.relativeComponents = [.root]
      · rw [hroot]
        rfl
      · have hlength := length_ofComponents hne hroot
        simp only [isTooLong, decide_eq_false_iff_not, Nat.not_le, List.length_append,
          List.length_cons] at hshort ⊢
        omega

/-- If the disk takes the components of a directory and of an include, it takes what is left of them
when they are cleaned. -/
theorem IsAdmissible.cleanJoin
    (h : (ofComponents (dir.components ++ rest.relativeComponents)).IsAdmissible) :
    (dir.cleanJoin rest).IsAdmissible := by
  obtain ⟨hnul, hshort⟩ := h
  rw [Path.cleanJoin]
  split
  · decide
  · next hleft =>
    change cleanJoinComponents dir rest ≠ [] at hleft
    constructor
    · rw [nul_mem_ofComponents_iff fun _ => spellable_of_mem_joined] at hnul
      rw [nul_mem_ofComponents_iff fun _ => spellable_of_mem_cleanJoinComponents]
      rintro ⟨name, hname, hzero⟩
      exact hnul ⟨name, mem_of_mem_clean hname, hzero⟩
    · by_cases hroot : cleanJoinComponents dir rest = [.root]
      · rw [hroot]
        rfl
      · have hne : dir.components ++ rest.relativeComponents ≠ [] := by
          intro hnil
          rw [cleanJoinComponents, hnil] at hleft
          exact hleft rfl
        have hroot' : dir.components ++ rest.relativeComponents ≠ [.root] := by
          intro hsingle
          rw [cleanJoinComponents, hsingle] at hroot
          exact hroot rfl
        have hroom := room_le_of_sublist
          ((clean_sublist (dir.components ++ rest.relativeComponents)).map segmentOf)
        rw [← length_ofComponents hne hroot', ← cleanJoinComponents,
          ← length_ofComponents hleft hroot] at hroom
        simp only [isTooLong, decide_eq_false_iff_not, Nat.not_le] at hshort ⊢
        omega

end HeaderSearch.Path
