/-
# Paths that are text

A path may hold any bytes. It is text exactly if every name in it is: the separators, `.` and `..`
are text on their own, and reading falls apart at each separator. So being text belongs to the
components and not to the spelling, and carries over to every other spelling of the path.

A path that is text is given back by what is displayed for it. Of the others that holds for none,
since what is displayed is text. Paths that are built of paths which are text are text as well.
-/

import HeaderSearch.Proofs.Path.Cleaning
import HeaderSearch.Proofs.Text.Encoding

namespace HeaderSearch

/-- Can the component be read as text? -/
def Component.IsText : Component → Prop
  | .name bytes => (Utf8.text? bytes).isSome
  | _ => True

namespace Path

theorem text?_ofString (s : String) : (ofString s).text? = some s := Utf8.text?_encode s

theorem ofString_display {p : Path} (h : p.text?.isSome) : ofString p.display = p := by
  rw [ofString, display, Utf8.encode_lossy h]

/-- Segments that are joined with a separator in ASCII are text exactly if each of them is. -/
theorem isSome_text?_intercalate {separator : UInt8} (h : separator < 0x80)
    (segments : List Name) :
    (Utf8.text? ([separator].intercalate segments)).isSome ↔
      ∀ segment ∈ segments, (Utf8.text? segment).isSome := by
  induction segments with
  | nil => simp [Utf8.text?, Utf8.pieces, Utf8.piecesFrom]
  | cons first rest ih =>
      cases rest with
      | nil => simp
      | cons second rest =>
          rw [List.intercalate_cons_cons, List.append_assoc, List.singleton_append,
            Utf8.isSome_text?_append_ascii first h, ih]
          simp only [List.forall_mem_cons]

theorem isSome_text?_segment_iff {segment : Name} :
    (Utf8.text? segment).isSome ↔
      ∀ component, Component.ofSegment? segment = some component → component.IsText := by
  constructor
  · intro h component hread
    rcases Component.eq_up_or_name_of_ofSegment? hread with ⟨rfl, _⟩ | rfl
    · trivial
    · exact h
  · intro h
    by_cases hvoid : segment = [] ∨ segment = [dot]
    · rcases hvoid with rfl | rfl <;> decide
    · by_cases hup : segment = [dot, dot]
      · rw [hup]
        decide
      · exact h (.name segment) (by rw [Component.ofSegment?, if_neg hvoid, if_neg hup])

/-- A path is text exactly if its components are. -/
theorem isSome_text?_iff {p : Path} :
    p.text?.isSome ↔ ∀ component ∈ p.components, component.IsText := by
  have hlead : ∀ component ∈ p.lead, component.IsText := by
    intro component hmem
    rcases p.lead_eq with hlead | hlead | hlead
    · rw [hlead] at hmem
      cases hmem
    · rw [hlead, List.mem_singleton] at hmem
      rw [hmem]
      trivial
    · rw [hlead, List.mem_singleton] at hmem
      rw [hmem]
      trivial
  have hjoined : [slash].intercalate (p.bytes.splitOn slash) = p.bytes :=
    List.intercalate_splitOn slash
  rw [components_eq_lead_append, List.forall_mem_append, text?, ← hjoined,
    isSome_text?_intercalate (by decide), hjoined]
  constructor
  · intro h
    refine ⟨hlead, fun component hmem => ?_⟩
    obtain ⟨segment, hsegment, hread⟩ := List.mem_filterMap.1 hmem
    exact isSome_text?_segment_iff.1 (h segment hsegment) component hread
  · intro h segment hsegment
    apply isSome_text?_segment_iff.2
    intro component hread
    exact h.2 component (List.mem_filterMap.2 ⟨segment, hsegment, hread⟩)

/-- One spelling of a path is text exactly if any other is. -/
theorem Same.isSome_text?_iff {p q : Path} (h : p.Same q) :
    p.text?.isSome ↔ q.text?.isSome := by
  rw [Path.isSome_text?_iff, Path.isSome_text?_iff, show p.components = q.components from h]

/-! ## Paths behind one another -/

theorem isSome_text?_child {p : Path} {name : Name} (hp : p.text?.isSome)
    (hname : (Utf8.text? name).isSome) : (p.child name).text?.isSome := by
  unfold child
  split
  · next hlast =>
    obtain ⟨front, hfront⟩ := List.getLast?_eq_some_iff.1 hlast
    rw [text?, hfront, Utf8.isSome_text?_append_ascii front (by decide)] at hp
    rw [text?, hfront, List.append_assoc, List.singleton_append,
      Utf8.isSome_text?_append_ascii front (by decide)]
    exact ⟨hp.1, hname⟩
  · rw [text?, Utf8.isSome_text?_append_ascii p.bytes (by decide)]
    exact ⟨hp, hname⟩

theorem isSome_text?_join {p q : Path} (hp : p.text?.isSome) (hq : q.text?.isSome) :
    (p.join q).text?.isSome := by
  unfold join
  split
  · exact hq
  · exact isSome_text?_child hp hq

/-- Cleaning invents no components, so what it makes of text is text. -/
theorem isSome_text?_cleanJoin {dir rest : Path} (hdir : dir.text?.isSome)
    (hrest : rest.text?.isSome) : (dir.cleanJoin rest).text?.isSome := by
  rw [isSome_text?_iff] at hdir hrest ⊢
  intro component hmem
  rw [components_cleanJoin] at hmem
  split at hmem
  · rw [List.mem_singleton] at hmem
    rw [hmem]
    trivial
  · rcases List.mem_append.1 (mem_of_mem_clean hmem) with hmem | hmem
    · exact hdir component hmem
    · exact hrest component (List.mem_of_mem_filter hmem)

end Path

end HeaderSearch
