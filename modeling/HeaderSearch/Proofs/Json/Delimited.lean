/-
# Written values can be told apart

What is written for a value shows by itself where it ends. A truth value has a word of its own, a
text ends at its quote, a list or an object at its bracket. Only a number needs to know what stands
behind it, which must not be a digit, and a comma, a line feed or a bracket is none.

So two values that have a written form are written differently unless they are one value, in one
line and laid out over several.
-/

import HeaderSearch.Proofs.Json.Escaped
import HeaderSearch.Proofs.Json.Writable

namespace HeaderSearch.Json

/-! ## Numbers -/

/-- A number in front of such a text has ended: the text does not begin with a digit. -/
def NoDigit (rest : List Char) : Prop := ∀ c ∈ rest.head?, c.isDigit = false

variable {layout : Layout} {rest rest' : List Char}

theorem isDigit_of_mem_toDigits_ten {n : Nat} : ∀ c ∈ Nat.toDigits 10 n, c.isDigit = true :=
  fun _ hc => Nat.isDigit_of_mem_toDigits (by decide) (by decide) hc

theorem takeWhile_isDigit_append (n : Nat) (h : NoDigit rest) :
    (Nat.toDigits 10 n ++ rest).takeWhile Char.isDigit = Nat.toDigits 10 n := by
  have hrest : rest.takeWhile Char.isDigit = [] := by
    cases rest with
    | nil => rfl
    | cons c rest => exact List.takeWhile_cons_of_neg (by simp [h c rfl])
  rw [List.takeWhile_append_of_pos isDigit_of_mem_toDigits_ten, hrest, List.append_nil]

theorem toDigits_append_inj {m n : Nat} (hrest : NoDigit rest) (hrest' : NoDigit rest')
    (h : Nat.toDigits 10 m ++ rest = Nat.toDigits 10 n ++ rest') : m = n ∧ rest = rest' := by
  have hdigits : Nat.toDigits 10 m = Nat.toDigits 10 n := by
    rw [← takeWhile_isDigit_append m hrest, h, takeWhile_isDigit_append n hrest']
  obtain rfl : m = n := by
    rw [← @Nat.ofDigitChars_ten_toDigits m, hdigits, Nat.ofDigitChars_ten_toDigits]
  exact ⟨rfl, List.append_cancel_left h⟩

/-! ## What stands around an element -/

/-- The characters of a piece. -/
def Piece.chars (piece : Piece) : List Char := piece.string.toList

/-- A gap holds nothing, or it begins with a line feed. -/
theorem gap_eq_nil_or_cons (layout : Layout) :
    layout.gap.chars = [] ∨ ∃ blanks, layout.gap.chars = '\n' :: blanks := by
  cases layout with
  | compact => exact .inl rfl
  | lines depth =>
      right
      exact ⟨List.replicate (2 * depth) ' ', by simp [Layout.gap, Piece.chars, Piece.string]⟩

theorem gap_append_ne {c d : Char} (hne : c ≠ d) (hd : d ≠ '\n') :
    layout.gap.chars ++ c :: rest ≠ d :: rest' := by
  rcases gap_eq_nil_or_cons layout with h | ⟨blanks, h⟩ <;> rw [h] <;> simp [hne, hd.symm]

theorem noDigit_gap_append {c : Char} (h : c.isDigit = false) :
    NoDigit (layout.gap.chars ++ c :: rest) := by
  rcases gap_eq_nil_or_cons layout with hgap | ⟨blanks, hgap⟩ <;> rw [hgap] <;>
    simp [NoDigit, h]

/-- A bracket that closes a sequence. -/
inductive Closes : Char → Prop where
  | list : Closes ']'
  | members : Closes '\x7d'

theorem Closes.ne_comma {close : Char} (h : Closes close) : close ≠ ',' := by
  cases h <;> decide

theorem Closes.ne_lineFeed {close : Char} (h : Closes close) : close ≠ '\n' := by
  cases h <;> decide

theorem Closes.isDigit {close : Char} (h : Closes close) : close.isDigit = false := by
  cases h <;> rfl

/-! ## Sequences -/

variable {α : Type} {close : Char} {written : α → List Char} {Admitted : α → Prop}
  {items others : List α}

/-- What is written for `a` shows where it ends, and differs from what is written for anything
else. -/
def Delimited (written : α → List Char) (Admitted : α → Prop) (a : α) : Prop :=
  ∀ b rest rest', Admitted b → NoDigit rest → NoDigit rest' →
    written a ++ rest = written b ++ rest' → a = b ∧ rest = rest'

/-- What is written behind an element of a sequence: the further elements, and the bracket. -/
def tailChars (layout : Layout) (close : Char) (written : α → List Char) : List α → List Char
  | [] => layout.gap.chars ++ [close]
  | item :: items =>
    ',' :: (layout.inner.gap.chars ++ (written item ++ tailChars layout close written items))

/-- What is written behind the opening bracket of a sequence. -/
def sequenceChars (layout : Layout) (close : Char) (written : α → List Char) : List α → List Char
  | [] => [close]
  | item :: items =>
    layout.inner.gap.chars ++ (written item ++ tailChars layout close written items)

theorem noDigit_tailChars_append (hclose : Closes close) :
    NoDigit (tailChars layout close written items ++ rest) := by
  cases items with
  | nil =>
      rw [tailChars, List.append_assoc]
      exact noDigit_gap_append hclose.isDigit
  | cons item items => simp [NoDigit, tailChars]

/-- What stands behind the first element of a sequence shows where the sequence ends. -/
theorem tailChars_append_inj (hclose : Closes close)
    (hitems : ∀ a ∈ items, Delimited written Admitted a) (hothers : ∀ b ∈ others, Admitted b)
    (h : tailChars layout close written items ++ rest =
      tailChars layout close written others ++ rest') : items = others ∧ rest = rest' := by
  induction items generalizing others with
  | nil =>
      cases others with
      | nil => exact ⟨rfl, List.append_cancel_left h⟩
      | cons b others =>
          rw [tailChars, List.append_assoc] at h
          exact absurd h (gap_append_ne hclose.ne_comma (by decide))
  | cons a items ih =>
      rw [List.forall_mem_cons] at hitems
      cases others with
      | nil =>
          rw [tailChars, tailChars, List.append_assoc] at h
          exact absurd h.symm (gap_append_ne hclose.ne_comma (by decide))
      | cons b others =>
          rw [List.forall_mem_cons] at hothers
          simp only [tailChars, List.cons_append, List.append_assoc, List.cons.injEq,
            true_and] at h
          obtain ⟨rfl, htail⟩ := hitems.1 b _ _ hothers.1 (noDigit_tailChars_append hclose)
            (noDigit_tailChars_append hclose) (List.append_cancel_left h)
          obtain ⟨rfl, hrest⟩ := ih hitems.2 hothers.2 htail
          exact ⟨rfl, hrest⟩

/-- What stands behind an opening bracket shows where the sequence ends, given that no element
begins with a bracket that closes. -/
theorem sequenceChars_append_inj (hclose : Closes close)
    (hopen : ∀ b, Admitted b → ∃ c chars, written b = c :: chars ∧ ¬ Closes c)
    (hitems : ∀ a ∈ items, Admitted a ∧ Delimited written Admitted a)
    (hothers : ∀ b ∈ others, Admitted b)
    (h : sequenceChars layout close written items ++ rest =
      sequenceChars layout close written others ++ rest') : items = others ∧ rest = rest' := by
  have hdiffer (b : α) (hb : Admitted b) (others : List α) (rest rest' : List Char) :
      sequenceChars layout close written (b :: others) ++ rest ≠ close :: rest' := by
    obtain ⟨c, chars, hc, hnot⟩ := hopen b hb
    have hne : c ≠ close := fun hsame => hnot (hsame ▸ hclose)
    rw [sequenceChars, hc, List.append_assoc]
    exact gap_append_ne hne hclose.ne_lineFeed
  cases items with
  | nil =>
      cases others with
      | nil => exact ⟨rfl, (List.cons.inj h).2⟩
      | cons b others => exact absurd h.symm (hdiffer b (hothers b List.mem_cons_self) _ _ _)
  | cons a items =>
      cases others with
      | nil => exact absurd h (hdiffer a (hitems a List.mem_cons_self).1 _ _ _)
      | cons b others =>
          rw [List.forall_mem_cons] at hitems hothers
          rw [sequenceChars, sequenceChars] at h
          simp only [List.append_assoc] at h
          obtain ⟨rfl, htail⟩ := hitems.1.2 b _ _ hothers.1 (noDigit_tailChars_append hclose)
            (noDigit_tailChars_append hclose) (List.append_cancel_left h)
          obtain ⟨rfl, hrest⟩ :=
            tailChars_append_inj hclose (fun a ha => (hitems.2 a ha).2) hothers.2 htail
          exact ⟨rfl, hrest⟩

/-! ## Values -/

namespace Value

/-- The characters that are written for a value. -/
def chars (layout : Layout) (value : Value) : List Char :=
  (value.pieces layout).flatMap Piece.chars

/-- The characters that are written for a member. -/
def memberChars (layout : Layout) (member : String × Value) : List Char :=
  (quote member.1).toList ++ (layout.colon.toList ++ member.2.chars layout)

theorem exists_memberChars_eq_cons (member : String × Value) :
    ∃ c tail, memberChars layout member = c :: tail ∧ ¬ Closes c := by
  rw [memberChars, toList_quote_append]
  exact ⟨_, _, rfl, nofun⟩

theorem chars_num (n : Nat) : (num n).chars layout = Nat.toDigits 10 n := by
  simp [chars, pieces, Piece.chars, Piece.string]

theorem chars_str (s : String) : (str s).chars layout = (quote s).toList := by
  simp [chars, pieces, Piece.chars, Piece.string]

theorem chars_elementPieces (values : List Value) :
    (elementPieces layout.inner values).flatMap Piece.chars ++ (layout.gap.chars ++ [close]) =
      tailChars layout close (chars layout.inner) values := by
  induction values with
  | nil => rfl
  | cons value values ih =>
      rw [tailChars, ← ih]
      simp [elementPieces, chars, Piece.chars, Piece.string]

theorem chars_memberPieces (members : List (String × Value)) :
    (memberPieces layout.inner members).flatMap Piece.chars ++ (layout.gap.chars ++ [close]) =
      tailChars layout close (memberChars layout.inner) members := by
  induction members with
  | nil => rfl
  | cons member members ih =>
      rw [tailChars, ← ih]
      simp [memberPieces, memberChars, chars, Piece.chars, Piece.string]

theorem chars_arr (values : List Value) :
    (arr values).chars layout = '[' :: sequenceChars layout ']' (chars layout.inner) values := by
  cases values with
  | nil => rfl
  | cons value values =>
      rw [sequenceChars, ← chars_elementPieces]
      simp [pieces, chars, Piece.chars, Piece.string]

theorem chars_obj (members : List (String × Value)) :
    (obj members).chars layout =
      '\x7b' :: sequenceChars layout '\x7d' (memberChars layout.inner) members := by
  cases members with
  | nil => rfl
  | cons member members =>
      rw [sequenceChars, ← chars_memberPieces]
      simp [pieces, memberChars, chars, Piece.chars, Piece.string]

/-- The kinds of values that have a written form. -/
inductive Kind where
  | truth
  | number
  | text
  | list
  | members

/-- The kind of a value. -/
def kind? : Value → Option Kind
  | .bool _ => some .truth
  | .num _ => some .number
  | .str _ => some .text
  | .unwritable => none
  | .arr _ => some .list
  | .obj _ => some .members

/-- The kind of the values whose written form begins with a character. -/
def Kind.openedBy? (c : Char) : Option Kind :=
  if c.isDigit then some .number
  else match c with
    | 't' | 'f' => some .truth
    | '"' => some .text
    | '[' => some .list
    | '\x7b' => some .members
    | _ => none

theorem Kind.openedBy?_of_closes {c : Char} (h : Closes c) : openedBy? c = none := by
  cases h <;> rfl

theorem Writable.exists_chars_eq_cons {value : Value} (h : value.Writable) (layout : Layout) :
    ∃ c tail, value.chars layout = c :: tail ∧ Kind.openedBy? c = value.kind? := by
  cases h with
  | bool b => cases b <;> exact ⟨_, _, rfl, rfl⟩
  | num n =>
      obtain ⟨c, tail, hcons⟩ := List.exists_cons_of_ne_nil (@Nat.toDigits_ne_nil n 10)
      have hdigit : c.isDigit = true :=
        isDigit_of_mem_toDigits_ten c (hcons ▸ List.mem_cons_self)
      exact ⟨c, tail, (chars_num n).trans hcons, if_pos hdigit⟩
  | str s =>
      refine ⟨'"', s.toList.flatMap escapeChar ++ ['"'], ?_, rfl⟩
      rw [chars_str, quote, String.toList_ofList]
      rfl
  | arr => exact ⟨_, _, chars_arr _, rfl⟩
  | obj => exact ⟨_, _, chars_obj _, rfl⟩

theorem Writable.exists_chars_eq_cons_not_closes {value : Value} (h : value.Writable) :
    ∃ c tail, value.chars layout = c :: tail ∧ ¬ Closes c := by
  obtain ⟨c, tail, hcons, hkind⟩ := h.exists_chars_eq_cons layout
  refine ⟨c, tail, hcons, fun hcloses => ?_⟩
  rw [Kind.openedBy?_of_closes hcloses] at hkind
  cases h <;> cases hkind

/-- Only values of one kind have written forms that begin alike. -/
theorem kind?_eq_of_chars_append_eq {value other : Value} (h : value.Writable)
    (h' : other.Writable) (heq : value.chars layout ++ rest = other.chars layout ++ rest') :
    value.kind? = other.kind? := by
  obtain ⟨c, tail, hc, hvalue⟩ := h.exists_chars_eq_cons layout
  obtain ⟨d, tail', hd, hother⟩ := h'.exists_chars_eq_cons layout
  rw [hc, hd] at heq
  rw [← hvalue, ← hother, (List.cons.inj heq).1]

theorem delimited_memberChars {member : String × Value}
    (h : Delimited (chars layout) Writable member.2) :
    Delimited (memberChars layout) (fun member => member.2.Writable) member := by
  intro other rest rest' hother hrest hrest' heq
  rw [memberChars, memberChars, List.append_assoc, List.append_assoc, List.append_assoc,
    List.append_assoc] at heq
  obtain ⟨hname, hbehind⟩ := quote_append_inj heq
  obtain ⟨hvalue, hrests⟩ := h other.2 rest rest' hother hrest hrest'
    (List.append_cancel_left hbehind)
  exact ⟨Prod.ext hname hvalue, hrests⟩

/-- The written form of a value shows where it ends, and is that of no other value. -/
theorem Writable.delimited {value : Value} (h : value.Writable) :
    Delimited (chars layout) Writable value := by
  -- Elements are laid out one level deeper, so the induction is for all layouts.
  induction h generalizing layout with
  | bool b =>
      intro other rest rest' hother hrest hrest' heq
      have hkind := kind?_eq_of_chars_append_eq (.bool b) hother heq
      cases hother with
      | bool b' =>
          cases b <;> cases b'
          case false.false | true.true => exact ⟨rfl, List.append_cancel_left heq⟩
          all_goals exact absurd (List.cons.inj heq).1 (by decide)
      | _ => cases hkind
  | num n =>
      intro other rest rest' hother hrest hrest' heq
      have hkind := kind?_eq_of_chars_append_eq (.num n) hother heq
      cases hother with
      | num m =>
          rw [chars_num, chars_num] at heq
          obtain ⟨rfl, hrests⟩ := toDigits_append_inj hrest hrest' heq
          exact ⟨rfl, hrests⟩
      | _ => cases hkind
  | str s =>
      intro other rest rest' hother hrest hrest' heq
      have hkind := kind?_eq_of_chars_append_eq (.str s) hother heq
      cases hother with
      | str t =>
          rw [chars_str, chars_str] at heq
          obtain ⟨rfl, hrests⟩ := quote_append_inj heq
          exact ⟨rfl, hrests⟩
      | _ => cases hkind
  | @arr values hvalues ih =>
      intro other rest rest' hother hrest hrest' heq
      have hkind := kind?_eq_of_chars_append_eq (.arr hvalues) hother heq
      cases hother with
      | @arr others hothers =>
          rw [chars_arr, chars_arr] at heq
          obtain ⟨rfl, hrests⟩ := sequenceChars_append_inj .list
            (fun value hvalue => hvalue.exists_chars_eq_cons_not_closes)
            (fun value hmem => ⟨hvalues value hmem, ih value hmem⟩) hothers (List.cons.inj heq).2
          exact ⟨rfl, hrests⟩
      | _ => cases hkind
  | @obj members hmembers ih =>
      intro other rest rest' hother hrest hrest' heq
      have hkind := kind?_eq_of_chars_append_eq (.obj hmembers) hother heq
      cases hother with
      | @obj others hothers =>
          rw [chars_obj, chars_obj] at heq
          obtain ⟨rfl, hrests⟩ := sequenceChars_append_inj .members
            (fun member _ => exists_memberChars_eq_cons member)
            (fun member hmem => ⟨hmembers member hmem, delimited_memberChars (ih member hmem)⟩)
            hothers (List.cons.inj heq).2
          exact ⟨rfl, hrests⟩
      | _ => cases hkind

theorem Writable.toList_text_write {value : Value} (h : value.Writable) (layout : Layout) :
    (value.write layout).text.toList = value.chars layout := by
  rw [h.text_write, String.toList_join, List.flatMap_map]
  rfl

/-- Values that have a written form have the same one only if they are the same, in every
layout. -/
theorem Writable.eq_of_text_write_eq {value other : Value} (h : value.Writable)
    (h' : other.Writable) (heq : (value.write layout).text = (other.write layout).text) :
    value = other := by
  have hchars : value.chars layout ++ [] = other.chars layout ++ [] := by
    rw [← h.toList_text_write, heq, h'.toList_text_write]
  exact (h.delimited other [] [] h' nofun nofun hchars).1

end Value

end HeaderSearch.Json
