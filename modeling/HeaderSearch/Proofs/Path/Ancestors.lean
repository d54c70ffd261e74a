/-
# Components of ancestors

Going to the parent takes the last component away and leaves the others, although the text that
remains is not respelled. It fails exactly where nothing but the root is left to take away. So the
`n`th ancestor exists exactly if the path has `n` components behind its root, and it has the
components before these.
-/

import HeaderSearch.Path.Parent
import HeaderSearch.Proofs.Path.Cleaning

namespace HeaderSearch.Path

/-! ## Segments that lead nowhere -/

theorem dropVoid_concat (segments : List Name) (last : Name) :
    dropVoid (segments ++ [last]) =
      if isVoid last then dropVoid segments else segments ++ [last] := by
  rw [dropVoid, List.reverse_append, List.reverse_singleton, List.singleton_append,
    List.dropWhile_cons]
  split
  · rfl
  · rw [List.reverse_cons, List.reverse_reverse]

/-- What is dropped contributes no components. -/
theorem filterMap_dropVoid (segments : List Name) :
    (dropVoid segments).filterMap Component.ofSegment? =
      segments.filterMap Component.ofSegment? := by
  induction segments using List.reverseRecOn with
  | nil => rfl
  | append_singleton segments last ih =>
      rw [dropVoid_concat]
      split
      · next hvoid =>
        rw [isVoid, Option.isNone_iff_eq_none] at hvoid
        simp [ih, hvoid]
      · rfl

theorem mem_of_mem_dropVoid {segments : List Name} {segment : Name}
    (h : segment ∈ dropVoid segments) : segment ∈ segments := by
  rw [dropVoid, List.mem_reverse] at h
  exact List.mem_reverse.1 ((List.dropWhile_sublist _).subset h)

/-- What is kept ends in a component, unless nothing is kept. -/
theorem dropVoid_eq_nil_or_concat (segments : List Name) :
    dropVoid segments = [] ∨ ∃ kept last component,
      dropVoid segments = kept ++ [last] ∧ Component.ofSegment? last = some component := by
  induction segments using List.reverseRecOn with
  | nil => exact .inl rfl
  | append_singleton segments last ih =>
      rw [dropVoid_concat]
      split
      · exact ih
      · next hvoid =>
        rw [isVoid, Bool.not_eq_true, Option.isNone_eq_false_iff, Option.isSome_iff_exists] at hvoid
        obtain ⟨component, hread⟩ := hvoid
        exact .inr ⟨segments, last, component, rfl, hread⟩

/-- A first segment that is not empty stands for one component, which is not the root. -/
theorem ofFirst_eq_singleton {first : Name} (h : first ≠ []) :
    ∃ component, Component.ofFirst first = [component] ∧ component ≠ .root := by
  by_cases hdot : first = [dot]
  · exact ⟨.here, by rw [hdot]; rfl, nofun⟩
  · by_cases hup : first = [dot, dot]
    · exact ⟨.up, by rw [hup]; rfl, nofun⟩
    · refine ⟨.name first, ?_, nofun⟩
      simp [Component.ofFirst, Component.ofSegment?, h, hdot, hup]

/-! ## The parent -/

theorem parent?_of_void {p : Path} {first : Name} {rest : List Name}
    (hsegments : p.segments = first :: rest) (hvoid : dropVoid rest = []) :
    p.parent? = if first = [] then none else some ⟨[]⟩ := by
  rw [parent?, hsegments]
  simp only [hvoid]

theorem parent?_of_kept {p : Path} {first last : Name} {rest kept : List Name}
    (hsegments : p.segments = first :: rest) (hkept : dropVoid rest = kept ++ [last]) :
    p.parent? =
      if p.isAbsolute ∧ dropVoid kept = [] then some ⟨[slash]⟩
      else some ⟨[slash].intercalate (first :: dropVoid kept)⟩ := by
  rw [parent?, hsegments]
  simp only [hkept]
  split
  · next hnil => simp at hnil
  · rw [List.dropLast_concat]

theorem mem_of_mem_kept {rest kept : List Name} {last segment : Name}
    (hkept : dropVoid rest = kept ++ [last]) (h : segment ∈ dropVoid kept) : segment ∈ rest := by
  apply mem_of_mem_dropVoid
  rw [hkept]
  exact List.mem_append_left _ (mem_of_mem_dropVoid h)

/-- The text of the parent is made of the segments that are kept. -/
theorem segments_of_kept {p : Path} {first last : Name} {rest kept : List Name}
    (hsegments : p.segments = first :: rest) (hkept : dropVoid rest = kept ++ [last]) :
    (Path.mk ([slash].intercalate (first :: dropVoid kept))).segments = first :: dropVoid kept := by
  have hslash : ∀ segment ∈ first :: rest, slash ∉ segment := by
    intro segment hmem
    rw [← hsegments] at hmem
    exact notMem_of_mem_splitOn hmem
  apply List.splitOn_intercalate slash
  · intro segment hmem
    apply hslash
    rcases List.mem_cons.1 hmem with hmem | hmem
    · rw [hmem]
      exact List.mem_cons_self
    · exact List.mem_cons_of_mem _ (mem_of_mem_kept hkept hmem)
  · exact List.cons_ne_nil _ _

/-- Going to the parent takes away the last component. It fails at the root and for the empty
path. -/
theorem parent?_cases (p : Path) :
    p.parent? = none ∧ (p.components = [] ∨ p.components = [.root]) ∨
      ∃ q last, p.parent? = some q ∧ p.components = q.components ++ [last] ∧ last ≠ .root := by
  obtain ⟨first, rest, hsegments⟩ := p.exists_segments
  rcases dropVoid_eq_nil_or_concat rest with hvoid | ⟨kept, last, component, hkept, hread⟩
  · have hinner : rest.filterMap Component.ofSegment? = [] := by
      rw [← filterMap_dropVoid, hvoid]
      rfl
    rw [parent?_of_void hsegments hvoid, components_of_segments hsegments, hinner]
    by_cases hfirst : first = []
    · left
      by_cases hrest : rest = [] <;>
        simp [hfirst, hrest, Component.ofFirst, Component.ofSegment?]
    · obtain ⟨component, hread, hroot⟩ := ofFirst_eq_singleton hfirst
      refine .inr ⟨⟨[]⟩, component, by rw [if_neg hfirst], ?_, hroot⟩
      simp only [hfirst, hread, false_and, if_false]
      rfl
  · right
    have hroot : component ≠ .root := by
      rcases Component.eq_up_or_name_of_ofSegment? hread with ⟨rfl, _⟩ | rfl <;> simp
    have hrest : rest ≠ [] := by
      rintro rfl
      rw [show dropVoid [] = [] from rfl] at hkept
      simp at hkept
    -- The last component is taken off; before it there is what the kept segments spell.
    have hcomponents : p.components =
        (if first = [] then [.root] else Component.ofFirst first) ++
          (dropVoid kept).filterMap Component.ofSegment? ++ [component] := by
      rw [components_of_segments hsegments, ← filterMap_dropVoid rest, hkept,
        filterMap_dropVoid kept]
      simp [hrest, hread]
    simp only [parent?_of_kept hsegments hkept, isAbsolute_iff hsegments]
    split
    · next hbare =>
      refine ⟨⟨[slash]⟩, component, rfl, ?_, hroot⟩
      rw [hcomponents, hbare.1.1, hbare.2]
      rfl
    · next hbare =>
      refine ⟨_, component, rfl, ?_, hroot⟩
      rw [hcomponents, components_of_segments (segments_of_kept hsegments hkept)]
      by_cases hfirst : first = []
      · have hne : dropVoid kept ≠ [] := fun hnil => hbare ⟨⟨hfirst, hrest⟩, hnil⟩
        simp [hfirst, hne]
      · simp [hfirst]

theorem components_of_parent? {p q : Path} (h : p.parent? = some q) :
    ∃ last, p.components = q.components ++ [last] ∧ last ≠ .root := by
  rcases p.parent?_cases with ⟨hnone, _⟩ | ⟨q', last, hsome, hcomponents, hroot⟩
  · rw [h] at hnone
    cases hnone
  · rw [h] at hsome
    cases hsome
    exact ⟨last, hcomponents, hroot⟩

/-- A path that ends in anything but the root has a parent, and this has the other components. -/
theorem exists_parent? {p : Path} {front : List Component} {last : Component}
    (h : p.components = front ++ [last]) (hlast : last ≠ .root) :
    ∃ q, p.parent? = some q ∧ q.components = front := by
  rcases p.parent?_cases with ⟨_, hnil | hroot⟩ | ⟨q, last', hparent, hcomponents, _⟩
  · rw [h] at hnil
    simp at hnil
  · rw [h] at hroot
    rcases List.append_eq_singleton_iff.1 hroot with ⟨_, hroot⟩ | ⟨_, hroot⟩
    · exact absurd (List.singleton_inj.1 hroot) hlast
    · cases hroot
  · rw [h] at hcomponents
    exact ⟨q, hparent, (List.append_inj_left' hcomponents rfl).symm⟩

/-- The `n`th ancestor is there exactly if the path ends in `n` components other than the root. It
has the components before these. -/
theorem exists_ancestor?_iff {p : Path} {n : Nat} {front : List Component} :
    (∃ q, p.ancestor? n = some q ∧ q.components = front) ↔
      ∃ back, p.components = front ++ back ∧ back.length = n ∧ .root ∉ back := by
  induction n generalizing front with
  | zero =>
      constructor
      · rintro ⟨q, hq, rfl⟩
        cases hq
        exact ⟨[], by simp, rfl, List.not_mem_nil⟩
      · rintro ⟨back, hcomponents, hlength, -⟩
        rw [List.length_eq_zero_iff] at hlength
        rw [hlength, List.append_nil] at hcomponents
        exact ⟨p, rfl, hcomponents⟩
  | succ n ih =>
      constructor
      · rintro ⟨q, hq, rfl⟩
        obtain ⟨child, hchild, hparent⟩ := Option.bind_eq_some_iff.1 hq
        obtain ⟨last, hlast, hroot⟩ := components_of_parent? hparent
        obtain ⟨back, hback, hlength, hroots⟩ := ih.1 ⟨child, hchild, rfl⟩
        refine ⟨last :: back, ?_, by rw [List.length_cons, hlength], ?_⟩
        · rw [hback, hlast, List.append_assoc, List.singleton_append]
        · rw [List.mem_cons, not_or]
          exact ⟨hroot.symm, hroots⟩
      · rintro ⟨back, hcomponents, hlength, hroots⟩
        obtain ⟨last, rest, rfl⟩ := List.exists_cons_of_length_eq_add_one hlength
        rw [List.mem_cons, not_or] at hroots
        obtain ⟨child, hchild, hfront⟩ := (@ih (front ++ [last])).2
          ⟨rest, by simpa using hcomponents, by simpa using hlength, hroots.2⟩
        obtain ⟨q, hparent, hq⟩ := exists_parent? hfront fun h => hroots.1 h.symm
        refine ⟨q, ?_, hq⟩
        rw [ancestor?, hchild]
        exact hparent

end HeaderSearch.Path
