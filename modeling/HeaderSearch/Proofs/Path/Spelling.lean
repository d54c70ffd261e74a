/-
# Spelling and components

The components of a path are read off its text, and the text of a cleaned path is made from its
components. This module relates the two directions: what a path begins with, what the text behind
a separator contributes, and that the plain spelling of components is read as these components.

Only the first segment of a text can be the root or a `.` that counts. Behind it there are names
and `..` alone, which is why a text can be continued without reading its beginning again.
-/

import HeaderSearch.Path.Clean
import HeaderSearch.Proofs.Text.Splitting

namespace HeaderSearch

open HeaderSearch.Path

namespace Component

/-- What a segment after the first can stand for: `..`, or the name that it spells. -/
theorem eq_up_or_name_of_ofSegment? {segment : Name} {component : Component}
    (h : ofSegment? segment = some component) :
    component = .up ∧ segment = [dot, dot] ∨ component = .name segment := by
  unfold ofSegment? at h
  split at h
  · cases h
  · split at h
    · next hup => exact .inl ⟨(Option.some.inj h).symm, hup⟩
    · exact .inr (Option.some.inj h).symm

/-- A component that can stand in a path: its text is one segment, and is read as this component
wherever that segment stands. Only the root has no segment of its own. -/
def Spellable : Component → Prop
  | .name bytes => ofSegment? bytes = some (.name bytes) ∧ slash ∉ bytes
  | _ => True

theorem spellable_of_ofSegment? {segment : Name} {component : Component}
    (h : ofSegment? segment = some component) (hslash : slash ∉ segment) :
    component.Spellable := by
  rcases eq_up_or_name_of_ofSegment? h with ⟨rfl, _⟩ | rfl
  · trivial
  · exact ⟨h, hslash⟩

theorem slash_notMem_segmentOf {component : Component} (h : component.Spellable) :
    slash ∉ segmentOf component := by
  cases component with
  | root => exact List.not_mem_nil
  | here => decide
  | up => decide
  | name bytes => exact h.2

theorem ofSegment?_segmentOf {component : Component} (h : component.Spellable)
    (hroot : component ≠ .root) (hhere : component ≠ .here) :
    ofSegment? (segmentOf component) = some component := by
  cases component with
  | root => exact absurd rfl hroot
  | here => exact absurd rfl hhere
  | up => rfl
  | name bytes => exact h.1

theorem ofFirst_segmentOf {component : Component} (h : component.Spellable)
    (hroot : component ≠ .root) : ofFirst (segmentOf component) = [component] := by
  by_cases hhere : component = .here
  · rw [hhere]
    rfl
  · have hsegment := ofSegment?_segmentOf h hroot hhere
    have hdot : segmentOf component ≠ [dot] := by
      intro hdot
      rw [hdot] at hsegment
      cases hsegment
    rw [ofFirst, if_neg hdot, hsegment]
    rfl

theorem segmentOf_ne_nil {component : Component} (h : component.Spellable)
    (hroot : component ≠ .root) : segmentOf component ≠ [] := by
  intro hnil
  have hfirst := ofFirst_segmentOf h hroot
  rw [hnil] at hfirst
  cases hfirst

end Component

namespace Path

/-! ## Reading a text -/

/-- The components that a text contributes behind a separator, where neither a `.` nor a separator
at its front counts. -/
def innerComponents (bytes : List UInt8) : List Component :=
  (bytes.splitOn slash).filterMap Component.ofSegment?

/-- What a path begins with if that counts only at the beginning: the root, or a leading `.`. -/
def lead (p : Path) : List Component :=
  if p.isAbsolute then [.root]
  else if p.segments.head? = some [dot] then [.here]
  else []

theorem mem_innerComponents {bytes : List UInt8} {component : Component}
    (h : component ∈ innerComponents bytes) :
    component.Spellable ∧ component ≠ .root ∧ component ≠ .here := by
  obtain ⟨segment, hsegment, hread⟩ := List.mem_filterMap.1 h
  refine ⟨Component.spellable_of_ofSegment? hread (notMem_of_mem_splitOn hsegment), ?_⟩
  rcases Component.eq_up_or_name_of_ofSegment? hread with ⟨rfl, _⟩ | rfl
  · exact ⟨nofun, nofun⟩
  · exact ⟨nofun, nofun⟩

theorem lead_eq (p : Path) : p.lead = [] ∨ p.lead = [.root] ∨ p.lead = [.here] := by
  unfold lead
  split
  · exact .inr (.inl rfl)
  · split
    · exact .inr (.inr rfl)
    · exact .inl rfl

/-- There is always a first segment. -/
theorem exists_segments (p : Path) : ∃ first rest, p.segments = first :: rest :=
  List.exists_cons_of_ne_nil (List.splitOn_ne_nil slash p.bytes)

/-- Only the empty text has an empty segment and no other. -/
theorem segments_ne_singleton_nil {p : Path} (h : p.bytes ≠ []) : p.segments ≠ [[]] := by
  intro hsegments
  have hjoined : [slash].intercalate p.segments = p.bytes := List.intercalate_splitOn slash
  rw [hsegments] at hjoined
  exact h hjoined.symm

/-- A path is absolute exactly if its first segment is empty and not the only one. -/
theorem isAbsolute_iff {p : Path} {first : Name} {rest : List Name}
    (h : p.segments = first :: rest) : p.isAbsolute = true ↔ first = [] ∧ rest ≠ [] := by
  cases p with
  | mk bytes =>
      unfold segments at h
      cases bytes with
      | nil =>
          rw [List.splitOn_nil] at h
          cases h
          simp [isAbsolute]
      | cons b tail =>
          rw [List.splitOn_cons_eq_if_modifyHead] at h
          by_cases hb : b = slash
          · rw [if_pos (by simp [hb])] at h
            cases h
            simp [isAbsolute, hb, List.splitOn_ne_nil]
          · obtain ⟨start, others, hsplit⟩ :=
              List.exists_cons_of_ne_nil (List.splitOn_ne_nil slash tail)
            rw [if_neg (by simpa using hb), hsplit] at h
            cases h
            simp [isAbsolute, hb]

/-- The components by the segments alone: an empty first segment of several is the root. -/
theorem components_of_segments {p : Path} {first : Name} {rest : List Name}
    (h : p.segments = first :: rest) :
    p.components = (if first = [] ∧ rest ≠ [] then [.root] else Component.ofFirst first) ++
      rest.filterMap Component.ofSegment? := by
  rw [components, h]
  simp only [isAbsolute_iff h]

/-- A path is what it begins with, and then what its text contributes anyway. -/
theorem components_eq_lead_append (p : Path) :
    p.components = p.lead ++ innerComponents p.bytes := by
  obtain ⟨first, rest, hsegments⟩ := p.exists_segments
  rw [components_of_segments hsegments, lead, innerComponents,
    show p.bytes.splitOn slash = first :: rest from hsegments, hsegments]
  simp only [isAbsolute_iff hsegments]
  by_cases hroot : first = [] ∧ rest ≠ []
  · simp [hroot, Component.ofSegment?]
  · by_cases hdot : first = [dot]
    · simp [hdot, Component.ofFirst, Component.ofSegment?]
    · cases hread : Component.ofSegment? first <;>
        simp [hroot, hdot, Component.ofFirst, hread]

theorem root_notMem_tail_components (p : Path) : .root ∉ p.components.tail := by
  intro h
  rw [components_eq_lead_append] at h
  have hinner : .root ∈ innerComponents p.bytes := by
    rcases p.lead_eq with hlead | hlead | hlead
    · rw [hlead] at h
      exact List.mem_of_mem_tail h
    · rwa [hlead] at h
    · rwa [hlead] at h
  exact (mem_innerComponents hinner).2.1 rfl

theorem spellable_of_mem_components {p : Path} {component : Component}
    (h : component ∈ p.components) : component.Spellable := by
  rw [components_eq_lead_append] at h
  rcases List.mem_append.1 h with h | h
  · rcases p.lead_eq with hlead | hlead | hlead
    · rw [hlead] at h
      cases h
    · rw [hlead, List.mem_singleton] at h
      rw [h]
      trivial
    · rw [hlead, List.mem_singleton] at h
      rw [h]
      trivial
  · exact (mem_innerComponents h).1

/-- Only the empty path has no components. -/
theorem components_ne_nil {p : Path} (h : p.bytes ≠ []) : p.components ≠ [] := by
  obtain ⟨first, rest, hsegments⟩ := p.exists_segments
  rw [components_of_segments hsegments]
  by_cases hfirst : first = []
  · have hrest : rest ≠ [] := by
      rintro rfl
      exact segments_ne_singleton_nil h (hfirst ▸ hsegments)
    simp [hfirst, hrest]
  · by_cases hdot : first = [dot]
    · simp [hdot, Component.ofFirst]
    · by_cases hup : first = [dot, dot] <;>
        simp [hdot, hup, hfirst, Component.ofFirst, Component.ofSegment?]

theorem bytes_eq_nil_iff {p : Path} : p.bytes = [] ↔ p.components = [] := by
  refine ⟨fun hnil => ?_, fun hnil => Decidable.not_imp_not.1 components_ne_nil hnil⟩
  rw [show p = ⟨[]⟩ from congrArg Path.mk hnil]
  rfl

theorem Same.bytes_eq_nil_iff {p q : Path} (h : p.Same q) : p.bytes = [] ↔ q.bytes = [] := by
  rw [Path.bytes_eq_nil_iff, Path.bytes_eq_nil_iff, show p.components = q.components from h]

theorem isAbsolute_iff_root_mem (p : Path) : p.isAbsolute = true ↔ .root ∈ p.components := by
  have hinner : .root ∉ innerComponents p.bytes := fun h => (mem_innerComponents h).2.1 rfl
  rw [components_eq_lead_append, List.mem_append, or_iff_left hinner, lead]
  split
  · next habs => simp [habs]
  · next habs => split <;> simp [habs]

/-- A `.` counts only if the text begins with it. -/
theorem here_mem_components_iff {p : Path} :
    .here ∈ p.components ↔ p.segments.head? = some [dot] := by
  have hinner : .here ∉ innerComponents p.bytes := fun h => (mem_innerComponents h).2.2 rfl
  obtain ⟨first, rest, hsegments⟩ := p.exists_segments
  rw [components_eq_lead_append, List.mem_append, or_iff_left hinner, lead, hsegments,
    List.head?_cons]
  split
  · next habs => simp [((isAbsolute_iff hsegments).1 habs).1]
  · split
    · next hdot => simp [hdot]
    · next hdot => simp [hdot]

theorem Same.isAbsolute_eq {p q : Path} (h : p.Same q) : p.isAbsolute = q.isAbsolute := by
  rw [Bool.eq_iff_iff, isAbsolute_iff_root_mem, isAbsolute_iff_root_mem,
    show p.components = q.components from h]

/-- The names in a path are the segments that are read as names. -/
theorem name_mem_components_iff {p : Path} {name : Name} :
    .name name ∈ p.components ↔
      ∃ segment ∈ p.segments, Component.ofSegment? segment = some (.name name) := by
  have hlead : .name name ∉ p.lead := by
    rcases p.lead_eq with h | h | h <;> simp [h]
  rw [components_eq_lead_append, List.mem_append, or_iff_right hlead, innerComponents,
    List.mem_filterMap]
  rfl

/-- What does not hold of a segment that is no name holds of some segment if it holds of some
name. -/
theorem exists_segment_iff_exists_name {p : Path} {P : Name → Prop} (hnil : ¬ P [])
    (hdot : ¬ P [dot]) (hup : ¬ P [dot, dot]) :
    (∃ segment ∈ p.segments, P segment) ↔ ∃ name, .name name ∈ p.components ∧ P name := by
  simp only [name_mem_components_iff]
  constructor
  · rintro ⟨segment, hsegment, hP⟩
    refine ⟨segment, ⟨segment, hsegment, ?_⟩, hP⟩
    rw [Component.ofSegment?, if_neg, if_neg]
    · rintro rfl
      exact hup hP
    · rintro (rfl | rfl)
      · exact hnil hP
      · exact hdot hP
  · rintro ⟨name, ⟨segment, hsegment, hread⟩, hP⟩
    rcases Component.eq_up_or_name_of_ofSegment? hread with ⟨hcomponent, -⟩ | hcomponent
    · cases hcomponent
    · cases hcomponent
      exact ⟨name, hsegment, hP⟩

/-- Apart from separators and dots the bytes of a path are the bytes of the names in it. -/
theorem mem_bytes_iff {p : Path} {b : UInt8} (hslash : b ≠ slash) (hdot : b ≠ dot) :
    b ∈ p.bytes ↔ ∃ name, .name name ∈ p.components ∧ b ∈ name := by
  rw [mem_iff_mem_splitOn hslash]
  exact exists_segment_iff_exists_name List.not_mem_nil (by simp [hdot]) (by simp [hdot])

/-! ## Continuing a text -/

/-- A separator between two texts keeps apart what they contribute. -/
theorem innerComponents_append_slash (front back : List UInt8) :
    innerComponents (front ++ slash :: back) = innerComponents front ++ innerComponents back := by
  rw [innerComponents, List.splitOn_append_cons_self, List.filterMap_append]
  rfl

/-- Behind a separator a text contributes its inner components, and a separator at the very front
is the root. -/
theorem components_append_slash (front back : List UInt8) :
    (Path.mk (front ++ slash :: back)).components =
      (if front = [] then [.root] else (Path.mk front).components) ++ innerComponents back := by
  rw [components_eq_lead_append, innerComponents_append_slash, ← List.append_assoc]
  congr 1
  by_cases hfront : front = []
  · subst hfront
    rfl
  · rw [if_neg hfront, components_eq_lead_append]
    congr 1
    obtain ⟨first, rest, hsplit⟩ :=
      List.exists_cons_of_ne_nil (List.splitOn_ne_nil slash front)
    have habs : (Path.mk (front ++ slash :: back)).isAbsolute = (Path.mk front).isAbsolute := by
      cases front with
      | nil => exact absurd rfl hfront
      | cons b tail => rfl
    simp [lead, habs, segments, List.splitOn_append_cons_self, hsplit]

theorem components_child {p : Path} (h : p.bytes ≠ []) (name : Name) :
    (p.child name).components = p.components ++ innerComponents name := by
  unfold child
  split
  · next hlast =>
    obtain ⟨front, hfront⟩ := List.getLast?_eq_some_iff.1 hlast
    have hp : p = ⟨front ++ slash :: []⟩ := by
      rw [← hfront]
    rw [hp, List.append_assoc, List.singleton_append, components_append_slash,
      components_append_slash]
    simp [innerComponents, Component.ofSegment?]
  · rw [components_append_slash, if_neg h]

/-- A relative path without a leading `.`, seen from another path. -/
theorem components_join {p q : Path} (hp : p.bytes ≠ []) (hq : q.lead = []) :
    (p.join q).components = p.components ++ q.components := by
  have habs : q.isAbsolute = false := by
    rw [Bool.eq_false_iff]
    intro habs
    rw [lead, if_pos habs] at hq
    cases hq
  rw [join, if_neg (by simp [habs, hp]), components_child hp, q.components_eq_lead_append, hq]
  rfl

/-! ## The plain spelling -/

/-- Between the separators of the plain spelling stand the texts of the components. The root alone
has a separator to itself. -/
theorem segments_ofComponents {components : List Component}
    (hspell : ∀ component ∈ components, component.Spellable) (hne : components ≠ [])
    (hroot : components ≠ [.root]) :
    (ofComponents components).segments = components.map segmentOf := by
  have hslash : ∀ segment ∈ components.map segmentOf, slash ∉ segment := by
    intro segment hmem
    obtain ⟨component, hcomponent, rfl⟩ := List.mem_map.1 hmem
    exact Component.slash_notMem_segmentOf (hspell component hcomponent)
  rw [ofComponents, if_neg hroot]
  exact List.splitOn_intercalate slash hslash (by simpa using hne)

/-- The plain spelling of components is read as these components, provided that the root and a
leading `.` stand only where they can be read. -/
theorem components_ofComponents {components : List Component}
    (hspell : ∀ component ∈ components, component.Spellable)
    (hroot : .root ∉ components.tail) (hhere : .here ∉ components.tail) :
    (ofComponents components).components = components := by
  cases components with
  | nil => rfl
  | cons first rest =>
      have hrest : ∀ component ∈ rest,
          Component.ofSegment? (segmentOf component) = some component := by
        intro component hmem
        apply Component.ofSegment?_segmentOf (hspell _ (List.mem_cons_of_mem _ hmem))
        · rintro rfl
          exact hroot hmem
        · rintro rfl
          exact hhere hmem
      have hread : (rest.map segmentOf).filterMap Component.ofSegment? = rest := by
        rw [List.filterMap_map]
        calc
          rest.filterMap (Component.ofSegment? ∘ segmentOf) = rest.filterMap some :=
            List.filterMap_congr hrest
          _ = rest := List.filterMap_some
      by_cases h : first :: rest = [.root]
      · rw [h]
        rfl
      · rw [components_of_segments (segments_ofComponents hspell (by simp) h), hread]
        by_cases hfirst : first = .root
        · have hne : rest ≠ [] := by
            rintro rfl
            exact h (by rw [hfirst])
          simp [hfirst, hne, segmentOf]
        · have hspelled := hspell first List.mem_cons_self
          rw [if_neg fun hempty => Component.segmentOf_ne_nil hspelled hfirst hempty.1,
            Component.ofFirst_segmentOf hspelled hfirst]
          rfl

end Path

end HeaderSearch
