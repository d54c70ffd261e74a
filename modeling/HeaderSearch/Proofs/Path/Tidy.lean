/-
# Tidy paths

A path can be spelled in many ways, and most of them hold separators and `.` segments that lead
nowhere. A tidy text has none to spare, so it is the plain spelling of its components, and two tidy
texts are one text as soon as they are the same path. What cleaning writes is tidy.

Going to the parent takes a piece of the text away and respells nothing, so what is left of a tidy
text is tidy. That is why going up undoes a join: an include that consists of names puts them behind
the cleaned directory, going up once for each of them takes them away again, and the text that is
left is the one that the cleaned directory has by itself.
-/

import HeaderSearch.Proofs.Path.Ancestors

namespace HeaderSearch.Path

/-! ## Segments that count -/

/-- The segments that lead somewhere are the texts of the components that they stand for. -/
theorem filter_isVoid_eq (segments : List Name) :
    segments.filter (!isVoid ·) = (segments.filterMap Component.ofSegment?).map segmentOf := by
  induction segments with
  | nil => rfl
  | cons segment rest ih =>
      cases hread : Component.ofSegment? segment with
      | none =>
          rw [List.filter_cons_of_neg (by simp [isVoid, hread]), List.filterMap_cons_none hread, ih]
      | some component =>
          have hspelled : segmentOf component = segment := by
            rcases Component.eq_up_or_name_of_ofSegment? hread with ⟨rfl, rfl⟩ | rfl <;> rfl
          rw [List.filter_cons_of_pos (by simp [isVoid, hread]), List.filterMap_cons_some hread, ih,
            List.map_cons, hspelled]

/-- Of its segments a path keeps the first, and those that lead somewhere. -/
theorem map_segmentOf_components {p : Path} {first : Name} {rest : List Name}
    (hsegments : p.segments = first :: rest) (hne : p.bytes ≠ []) :
    p.components.map segmentOf = first :: rest.filter (!isVoid ·) := by
  have hstart : (if first = [] ∧ rest ≠ [] then [.root] else Component.ofFirst first).map
      segmentOf = [first] := by
    by_cases hfirst : first = []
    · have hrest : rest ≠ [] := by
        rintro rfl
        exact segments_ne_singleton_nil hne (hfirst ▸ hsegments)
      rw [if_pos ⟨hfirst, hrest⟩, hfirst]
      rfl
    · rw [if_neg fun hroot => hfirst hroot.1]
      by_cases hdot : first = [dot]
      · rw [hdot]
        rfl
      · by_cases hup : first = [dot, dot]
        · rw [hup]
          rfl
        · simp [Component.ofFirst, Component.ofSegment?, hfirst, hdot, hup, segmentOf]
  rw [components_of_segments hsegments, List.map_append, hstart, filter_isVoid_eq]
  rfl

/-! ## Texts with nothing to spare -/

/-- Behind the first segment of the text none is empty and none is `.`: no separator stands behind
another one or at the end, and a `.` only at the front. The bare root, which is a separator and
nothing else, is tidy as well. -/
def IsTidy (p : Path) : Prop :=
  p.bytes = [slash] ∨ ∀ segment ∈ p.segments.tail, segment ≠ [] ∧ segment ≠ [dot]

instance (p : Path) : Decidable p.IsTidy :=
  inferInstanceAs (Decidable (p.bytes = [slash] ∨ _))

theorem isVoid_eq_false_iff {segment : Name} :
    isVoid segment = false ↔ segment ≠ [] ∧ segment ≠ [dot] := by
  unfold isVoid Component.ofSegment?
  split
  · next hvoid => simpa [← not_or] using hvoid
  · next hvoid => split <;> simpa [← not_or] using hvoid

/-- A tidy text is the plain spelling of its components. -/
theorem IsTidy.eq_ofComponents {p : Path} (h : p.IsTidy) : p = ofComponents p.components := by
  by_cases hne : p.bytes = []
  · rw [bytes_eq_nil_iff.1 hne, show p = ⟨[]⟩ from congrArg Path.mk hne]
    rfl
  rcases h with hroot | htail
  · rw [show p = ⟨[slash]⟩ from congrArg Path.mk hroot]
    rfl
  obtain ⟨first, rest, hsegments⟩ := p.exists_segments
  rw [hsegments, List.tail_cons] at htail
  have hkept : rest.filter (!isVoid ·) = rest := by
    rw [List.filter_eq_self]
    intro segment hsegment
    rw [isVoid_eq_false_iff.2 (htail segment hsegment)]
    rfl
  have hspelled : p.components.map segmentOf = p.segments := by
    rw [map_segmentOf_components hsegments hne, hkept, hsegments]
  have hbare : p.components ≠ [.root] := by
    intro hbare
    rw [hbare] at hspelled
    exact segments_ne_singleton_nil hne hspelled.symm
  have hjoined : [slash].intercalate p.segments = p.bytes := List.intercalate_splitOn slash
  rw [ofComponents, if_neg hbare, hspelled, hjoined]

/-- The components of a tidy text are written behind one another, unless it is the bare root. -/
theorem IsTidy.bytes_eq {p : Path} (h : p.IsTidy) (hbare : p.components ≠ [.root]) :
    p.bytes = [slash].intercalate (p.components.map segmentOf) := by
  have hspelled := congrArg bytes h.eq_ofComponents
  rwa [ofComponents, if_neg hbare] at hspelled

/-- The plain spelling is tidy, provided that the root and a leading `.` stand only where they can
be read. -/
theorem isTidy_ofComponents {components : List Component}
    (hspell : ∀ component ∈ components, component.Spellable)
    (hroot : .root ∉ components.tail) (hhere : .here ∉ components.tail) :
    (ofComponents components).IsTidy := by
  by_cases hnil : components = []
  · rw [hnil]
    decide
  by_cases hbare : components = [.root]
  · rw [hbare]
    decide
  right
  rw [segments_ofComponents hspell hnil hbare, ← List.map_tail]
  intro segment hsegment
  obtain ⟨component, hcomponent, rfl⟩ := List.mem_map.1 hsegment
  have hread : Component.ofSegment? (segmentOf component) = some component := by
    apply Component.ofSegment?_segmentOf (hspell _ (List.mem_of_mem_tail hcomponent))
    · rintro rfl
      exact hroot hcomponent
    · rintro rfl
      exact hhere hcomponent
  rw [← isVoid_eq_false_iff, isVoid, hread]
  rfl

/-- What cleaning writes is tidy. -/
theorem isTidy_cleanJoin (dir rest : Path) : (dir.cleanJoin rest).IsTidy := by
  have hcleaned := isCleaned_cleanJoinComponents dir rest
  unfold cleanJoin
  dsimp only
  split
  · decide
  · exact isTidy_ofComponents (fun _ => spellable_of_mem_cleanJoinComponents)
      hcleaned.root_notMem_tail fun hmem => hcleaned.here_notMem (List.mem_of_mem_tail hmem)

/-! ## Going up -/

/-- The parent of a tidy path is a tidy text again. -/
theorem IsTidy.of_parent? {p q : Path} (h : p.IsTidy) (hq : p.parent? = some q) : q.IsTidy := by
  obtain ⟨first, rest, hsegments⟩ := p.exists_segments
  rcases h with hroot | htail
  · rw [show p = ⟨[slash]⟩ from congrArg Path.mk hroot] at hq
    cases hq
  rw [hsegments, List.tail_cons] at htail
  rcases dropVoid_eq_nil_or_concat rest with hvoid | ⟨kept, last, component, hkept, -⟩
  · rw [parent?_of_void hsegments hvoid] at hq
    split at hq
    · cases hq
    · cases hq
      decide
  · rw [parent?_of_kept hsegments hkept] at hq
    split at hq
    · cases hq
      decide
    · cases hq
      right
      rw [segments_of_kept hsegments hkept, List.tail_cons]
      intro segment hsegment
      apply htail
      exact mem_of_mem_kept hkept hsegment

/-- So is every ancestor. -/
theorem IsTidy.of_ancestor? {p q : Path} {n : Nat} (h : p.IsTidy) (hq : p.ancestor? n = some q) :
    q.IsTidy := by
  induction n generalizing q with
  | zero =>
      cases hq
      exact h
  | succ n ih =>
      obtain ⟨child, hchild, hparent⟩ := Option.bind_eq_some_iff.1 hq
      exact (ih hchild).of_parent? hparent

/-! ## Going up undoes a join -/

/-- Below a directory a path that consists of names, one or more, however they are separated, is
undone by going up once for each of them. What is left is the text that the cleaned directory has by
itself; where that is `.`, nothing is left. -/
theorem includeDir?_cleanJoin {dir written : Path} (hplain : written.IsPlain)
    (hne : written.components ≠ []) :
    (dir.cleanJoin written).includeDir? written =
      some (if dir.cleanJoin (ofString "") = ofString "." then ofString ""
        else dir.cleanJoin (ofString "")) := by
  have hself := cleanJoinComponents_empty dir
  have hjoined : (dir.cleanJoin written).components =
      clean dir.components ++ written.components := by
    rw [components_cleanJoin, hplain.cleanJoinComponents_eq, if_neg]
    intro hnil
    exact hne (List.append_eq_nil_iff.1 hnil).2
  obtain ⟨left, hleft, hcomponents⟩ :=
    exists_ancestor?_iff.2 ⟨written.components, hjoined, rfl, hplain.root_notMem⟩
  have htidy := (isTidy_cleanJoin dir written).of_ancestor? hleft
  have hdot : dir.cleanJoin (ofString "") = ofString "." ↔ clean dir.components = [] := by
    rw [← hself]
    exact cleanJoin_eq_dot_iff
  rw [includeDir?, hleft, htidy.eq_ofComponents, hcomponents]
  simp only [hdot]
  split
  · next hnil =>
    rw [hnil]
    rfl
  · next hleaves => rw [cleanJoin, hself, if_neg hleaves]

/-- Nothing is left of a directory that cancels out, and all of one that only goes up. -/
theorem includeDir?_of_climbing_dirs :
    (ofString "sys//types.h/").IsPlain ∧ (ofString "sys//types.h/").components ≠ [] ∧
    ((ofString "inc/./..").cleanJoin (ofString "sys//types.h/")).includeDir?
      (ofString "sys//types.h/") = some (ofString "") ∧
    ((ofString "../inc//../..").cleanJoin (ofString "sys//types.h/")).includeDir?
      (ofString "sys//types.h/") = some (ofString "../..") := by
  have hplain : (ofString "sys//types.h/").IsPlain :=
    ⟨[Utf8.encode "sys", Utf8.encode "types.h"], by decide⟩
  have hne : (ofString "sys//types.h/").components ≠ [] := by decide
  refine ⟨hplain, hne, ?_, ?_⟩
  · rw [includeDir?_cleanJoin hplain hne]
    decide
  · rw [includeDir?_cleanJoin hplain hne]
    decide

end HeaderSearch.Path
