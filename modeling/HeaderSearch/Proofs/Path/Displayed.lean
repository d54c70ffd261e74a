/-
# Paths as they are displayed

A path that is displayed and read again need not be the same path, since what is not text in it has
been replaced. But separators and dots are text, and what is replaced leaves neither of them behind.
So the displayed path has the components of the path, each of them displayed, and two spellings of a
path are displayed as two spellings of one path again.
-/

import HeaderSearch.Proofs.Path.Readable
import HeaderSearch.Proofs.Text.Shown

namespace HeaderSearch

/-! ## What is shown of segments -/

/-- The bytes of what is shown of a name. -/
def Name.shown (name : Name) : Name := Utf8.encode (Utf8.lossy name)

/-- A component with its name as it is shown. -/
def Component.shown : Component → Component
  | .name bytes => .name (Name.shown bytes)
  | component => component

namespace Name

theorem shown_append_slash (front back : List UInt8) :
    shown (front ++ slash :: back) = shown front ++ slash :: shown back := by
  rw [shown, shown, shown, Utf8.encode, Utf8.encode, Utf8.encode, Utf8.toList_lossy,
    Utf8.toList_lossy, Utf8.toList_lossy, Utf8.lossyChars_append_ascii front (by decide),
    Utf8.encodeChars_append]
  rfl

/-- The segments of what is shown are what is shown of the segments. -/
theorem splitOn_shown (bytes : List UInt8) :
    (shown bytes).splitOn slash = (bytes.splitOn slash).map shown :=
  splitOn_apply shown_append_slash
    (fun _ hplain hslash => hplain (Utf8.mem_of_mem_encode_lossy (by decide) hslash)) bytes

theorem shown_of_text {name : Name} (h : (Utf8.text? name).isSome) : shown name = name :=
  Utf8.encode_lossy h

/-- Only what is text is shown as a text without a replacement character. -/
theorem shown_eq_iff {name text : Name} (htext : (Utf8.text? text).isSome)
    (hplain : '\uFFFD' ∉ Utf8.lossyChars text) : shown name = text ↔ name = text := by
  constructor
  · intro h
    have hname : (Utf8.text? name).isSome := by
      by_contra hbroken
      apply hplain
      rw [← h, shown, Utf8.lossyChars_encode, Utf8.toList_lossy]
      exact Utf8.replacement_mem_lossyChars hbroken
    rw [← h, shown_of_text hname]
  · rintro rfl
    exact shown_of_text htext

theorem shown_eq_nil_iff {name : Name} : shown name = [] ↔ name = [] :=
  shown_eq_iff (by decide) (by decide)

theorem shown_eq_dot_iff {name : Name} : shown name = [dot] ↔ name = [dot] :=
  shown_eq_iff (by decide) (by decide)

theorem shown_eq_dots_iff {name : Name} : shown name = [dot, dot] ↔ name = [dot, dot] :=
  shown_eq_iff (by decide) (by decide)

end Name

namespace Component

theorem ofSegment?_shown (segment : Name) :
    ofSegment? (Name.shown segment) = (ofSegment? segment).map shown := by
  simp only [ofSegment?, Name.shown_eq_nil_iff, Name.shown_eq_dot_iff, Name.shown_eq_dots_iff]
  split
  · rfl
  · split
    · rfl
    · rfl

theorem ofFirst_shown (segment : Name) :
    ofFirst (Name.shown segment) = (ofFirst segment).map shown := by
  simp only [ofFirst, Name.shown_eq_dot_iff, ofSegment?_shown]
  split
  · rfl
  · cases ofSegment? segment <;> rfl

end Component

namespace Path

/-- The displayed path has the components of the path, each of them displayed. -/
theorem components_ofString_display (p : Path) :
    (ofString p.display).components = p.components.map Component.shown := by
  obtain ⟨first, rest, hsegments⟩ := p.exists_segments
  have hshown : (ofString p.display).segments = Name.shown first :: rest.map Name.shown := by
    rw [← List.map_cons, ← hsegments]
    exact Name.splitOn_shown p.bytes
  have hrest : (rest.map Name.shown).filterMap Component.ofSegment? =
      (rest.filterMap Component.ofSegment?).map Component.shown := by
    rw [List.filterMap_map, List.map_filterMap]
    exact List.filterMap_congr fun segment _ => Component.ofSegment?_shown segment
  rw [components_of_segments hshown, components_of_segments hsegments, List.map_append, hrest]
  simp only [Name.shown_eq_nil_iff, ne_eq, List.map_eq_nil_iff, Component.ofFirst_shown]
  split <;> rfl

/-- Two spellings of a path are displayed as two spellings of one path. -/
theorem Same.ofString_display {p q : Path} (h : p.Same q) :
    (ofString p.display).Same (ofString q.display) := by
  rw [Same, components_ofString_display, components_ofString_display,
    show p.components = q.components from h]

end Path

end HeaderSearch
