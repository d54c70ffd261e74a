/-
# The value of one member

An object is written member by member. What is written before the value of a member and behind it
does not depend on that value, so two objects that differ in the value of one member have written
forms that differ only where this value stands.
-/

import HeaderSearch.Proofs.Json.Writable

namespace HeaderSearch.Json.Value

variable {layout : Layout} {before after : List (String × Value)}

theorem memberPieces_append (before after : List (String × Value)) :
    memberPieces layout (before ++ after) =
      memberPieces layout before ++ memberPieces layout after := by
  induction before with
  | nil => rfl
  | cons member rest ih => simp only [List.cons_append, memberPieces, ih, List.append_assoc]

/-- The pieces of an object in front of a member: the members before it, and the bracket or the
comma. -/
def piecesBefore (layout : Layout) : List (String × Value) → List Piece
  | [] => [.text "\x7b", layout.inner.gap]
  | (name, value) :: rest =>
    [.text "\x7b", layout.inner.gap, .text (quote name ++ layout.inner.colon)] ++
      value.pieces layout.inner ++ memberPieces layout.inner rest ++ [.text ",", layout.inner.gap]

/-- The pieces of an object behind a member: the members after it, and the bracket. -/
def piecesAfter (layout : Layout) (after : List (String × Value)) : List Piece :=
  memberPieces layout.inner after ++ [layout.gap, .text "\x7d"]

theorem pieces_obj_append_cons (before after : List (String × Value)) (name : String)
    (value : Value) :
    (obj (before ++ (name, value) :: after)).pieces layout =
      piecesBefore layout before ++ .text (quote name ++ layout.inner.colon) ::
        value.pieces layout.inner ++ piecesAfter layout after := by
  cases before with
  | nil => simp only [List.nil_append, List.cons_append, pieces, piecesBefore, piecesAfter,
      List.append_assoc]
  | cons member rest =>
      simp only [List.cons_append, List.nil_append, pieces, piecesBefore, piecesAfter,
        memberPieces_append, memberPieces, List.append_assoc]

/-- An object is written as a text that depends on the members before a given one, the name of this
member, the text of its value, and a text that depends on the members after it. -/
theorem exists_texts_around (layout : Layout) (hbefore : ∀ member ∈ before, member.2.Writable)
    (hafter : ∀ member ∈ after, member.2.Writable) :
    ∃ front back : String, ∀ (name : String) (value : Value), value.Writable →
      ((obj (before ++ (name, value) :: after)).write layout).text =
        front ++ (quote name ++ layout.inner.colon) ++ (value.write layout.inner).text ++ back := by
  refine ⟨String.join ((piecesBefore layout before).map Piece.string),
    String.join ((piecesAfter layout after).map Piece.string), fun name value hvalue => ?_⟩
  have hobj : (obj (before ++ (name, value) :: after)).Writable := by
    apply Writable.obj
    rw [List.forall_mem_append, List.forall_mem_cons]
    exact ⟨hbefore, hvalue, hafter⟩
  rw [hobj.text_write, hvalue.text_write, pieces_obj_append_cons]
  simp only [List.map_append, List.map_cons, String.join_append, String.join_cons, Piece.string,
    String.append_assoc]

end HeaderSearch.Json.Value
