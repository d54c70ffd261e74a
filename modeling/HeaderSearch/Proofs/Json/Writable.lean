/-
# Values that can be written

Writing stops at a path that is not text. A value without such a path is written to its end in
every layout, since all else in it has a written form.
-/

import HeaderSearch.Json.Writer
import Mathlib.Data.List.TakeWhile

namespace HeaderSearch.Json

/-- A value that has a written form: every path in it is text. -/
inductive Value.Writable : Value → Prop where
  | bool (b : Bool) : Writable (.bool b)
  | num (n : Nat) : Writable (.num n)
  | str (s : String) : Writable (.str s)
  | arr {values : List Value} (h : ∀ value ∈ values, Writable value) : Writable (.arr values)
  | obj {members : List (String × Value)} (h : ∀ member ∈ members, Writable member.2) :
      Writable (.obj members)

theorem Layout.isText_gap (layout : Layout) : layout.gap.isText = true := by
  cases layout <;> rfl

namespace Value

variable {layout : Layout}

theorem isText_elementPieces {values : List Value}
    (h : ∀ value ∈ values, ∀ piece ∈ value.pieces layout, piece.isText = true) :
    ∀ piece ∈ elementPieces layout values, piece.isText = true := by
  induction values with
  | nil => simp [elementPieces]
  | cons value rest ih =>
      rw [List.forall_mem_cons] at h
      simp only [elementPieces, List.forall_mem_append, List.forall_mem_cons]
      exact ⟨⟨⟨rfl, layout.isText_gap, nofun⟩, h.1⟩, ih h.2⟩

theorem isText_memberPieces {members : List (String × Value)}
    (h : ∀ member ∈ members, ∀ piece ∈ member.2.pieces layout, piece.isText = true) :
    ∀ piece ∈ memberPieces layout members, piece.isText = true := by
  induction members with
  | nil => simp [memberPieces]
  | cons member rest ih =>
      rw [List.forall_mem_cons] at h
      simp only [memberPieces, List.forall_mem_append, List.forall_mem_cons]
      exact ⟨⟨⟨rfl, layout.isText_gap, rfl, nofun⟩, h.1⟩, ih h.2⟩

theorem Writable.isText_pieces {value : Value} (h : value.Writable) :
    ∀ piece ∈ value.pieces layout, piece.isText = true := by
  induction h generalizing layout with
  | bool b => simp [pieces, Piece.isText]
  | num n => simp [pieces, Piece.isText]
  | str s => simp [pieces, Piece.isText]
  | @arr values _ ih =>
      cases values with
      | nil => simp [pieces, Piece.isText]
      | cons value rest =>
          rw [List.forall_mem_cons] at ih
          simp only [pieces, List.forall_mem_append, List.forall_mem_cons]
          exact ⟨⟨⟨⟨rfl, layout.inner.isText_gap, nofun⟩, ih.1⟩,
            isText_elementPieces fun value hmem => ih.2 value hmem⟩, layout.isText_gap, rfl, nofun⟩
  | @obj members _ ih =>
      cases members with
      | nil => simp [pieces, Piece.isText]
      | cons member rest =>
          rw [List.forall_mem_cons] at ih
          simp only [pieces, List.forall_mem_append, List.forall_mem_cons]
          exact ⟨⟨⟨⟨rfl, layout.inner.isText_gap, rfl, nofun⟩, ih.1⟩,
            isText_memberPieces fun member hmem => ih.2 member hmem⟩,
            layout.isText_gap, rfl, nofun⟩

theorem Writable.takeWhile_pieces {value : Value} (h : value.Writable) (layout : Layout) :
    (value.pieces layout).takeWhile Piece.isText = value.pieces layout :=
  List.takeWhile_eq_self_iff.2 h.isText_pieces

/-- Nothing stops the writing of a value that has a written form. -/
theorem Writable.error?_write {value : Value} (h : value.Writable) (layout : Layout) :
    (value.write layout).error? = none := by
  simp only [write, h.takeWhile_pieces, if_true]

/-- What is written of such a value is the text of all its pieces. -/
theorem Writable.text_write {value : Value} (h : value.Writable) (layout : Layout) :
    (value.write layout).text = String.join ((value.pieces layout).map Piece.string) := by
  rw [write, h.takeWhile_pieces]

theorem Writable.complete_write {value : Value} (h : value.Writable) (layout : Layout) :
    (value.write layout).complete = .ok (value.write layout).text := by
  rw [Written.complete, h.error?_write]

end Value

theorem writable_ofPath {p : Path} (h : p.text?.isSome) : (ofPath p).Writable := by
  obtain ⟨s, hs⟩ := Option.isSome_iff_exists.1 h
  rw [ofPath, hs]
  exact .str s

theorem writable_ofPaths {paths : List Path} (h : ∀ p ∈ paths, p.text?.isSome) :
    (Value.arr (paths.map ofPath)).Writable := by
  refine .arr fun value hmem => ?_
  obtain ⟨p, hp, rfl⟩ := List.mem_map.1 hmem
  exact writable_ofPath (h p hp)

theorem writable_ofStrings (texts : List String) : (ofStrings texts).Writable := by
  refine .arr fun value hmem => ?_
  obtain ⟨s, -, rfl⟩ := List.mem_map.1 hmem
  exact .str s

end HeaderSearch.Json
