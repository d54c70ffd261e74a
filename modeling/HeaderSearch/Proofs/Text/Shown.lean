/-
# What is shown of bytes

What is shown of bytes has one character for each complete character in them and one for each broken
piece. A byte below 80 is a character of its own wherever it stands, also behind a character that
has begun and does not go on, and no other bytes are shown as that character. So bytes can be cut at
such a byte and then shown, or shown and then cut at its character: the pieces are the same.
-/

import HeaderSearch.Proofs.Text.Encoding
import HeaderSearch.Proofs.Text.Splitting

namespace HeaderSearch.Utf8

/-- What is shown falls apart at a byte below 80. -/
theorem lossyChars_append_ascii (front : List UInt8) {b : UInt8} (hb : b < 0x80)
    (back : List UInt8) :
    lossyChars (front ++ b :: back) =
      lossyChars front ++ Char.ofNat b.toNat :: lossyChars back := by
  simp only [lossyChars, pieces, piecesFrom_append_ascii sound_none front hb, List.map_append,
    List.map_cons, Piece.shown]

theorem toList_lossy (bytes : List UInt8) : (lossy bytes).toList = lossyChars bytes := by
  rw [lossy, String.toList_ofList]

/-- A text around bytes is shown as it is, and the bytes between are shown as without it. -/
theorem lossyChars_encodeChars_around (front : List Char) (bytes : List UInt8) (back : List Char) :
    lossyChars (encodeChars front ++ bytes ++ encodeChars back) =
      front ++ lossyChars bytes ++ back := by
  have hshown (text : List Char) : (text.map Piece.char).map Piece.shown = text := by
    rw [List.map_map]
    exact List.map_id text
  rw [lossyChars, pieces_append_encodeChars, pieces_encodeChars_append, List.map_append,
    List.map_append, hshown, hshown, lossyChars]

theorem lossyChars_encodeChars (text : List Char) : lossyChars (encodeChars text) = text := by
  have h := lossyChars_encodeChars_around text [] []
  rwa [List.append_nil, show encodeChars [] = [] from rfl, List.append_nil,
    show lossyChars [] = [] from rfl, List.append_nil, List.append_nil] at h

theorem lossyChars_encode (s : String) : lossyChars (encode s) = s.toList :=
  lossyChars_encodeChars s.toList

/-- A byte below 80 is the encoding of a character with the same number. -/
theorem encodeChar_ofByte {b : UInt8} (hb : b < 0x80) :
    (Char.ofNat b.toNat).toNat = b.toNat ∧ String.utf8EncodeChar (Char.ofNat b.toNat) = [b] := by
  have hlt : b.toNat < 0x80 := hb
  obtain ⟨-, c, hc, rfl⟩ := @exists_char b.toNat (by omega) (.inl (by omega))
  refine ⟨hc, ?_⟩
  rw [encodeChar_one (by omega), hc]
  simp

/-- What is not text is shown with a replacement character. -/
theorem replacement_mem_lossyChars {bytes : List UInt8} (h : ¬ (text? bytes).isSome) :
    '\uFFFD' ∈ lossyChars bytes := by
  rw [isSome_text?_eq, List.all_eq_true] at h
  push Not at h
  obtain ⟨piece, hmem, hpiece⟩ := h
  cases piece with
  | char c => exact absurd rfl hpiece
  | broken cut => exact List.mem_map.2 ⟨_, hmem, rfl⟩

/-- A character below 80 is shown exactly if its byte is there. -/
theorem char_mem_lossyChars_iff {bytes : List UInt8} {b : UInt8} (hb : b < 0x80) :
    Char.ofNat b.toNat ∈ lossyChars bytes ↔ b ∈ bytes := by
  constructor
  · intro h
    obtain ⟨hnumber, hencode⟩ := encodeChar_ofByte hb
    obtain ⟨piece, hpiece, hchar⟩ := List.mem_map.1 h
    have hinside : b ∈ (pieces bytes).flatMap Piece.bytes := by
      refine List.mem_flatMap.2 ⟨piece, hpiece, ?_⟩
      cases piece with
      | char c =>
          obtain rfl : c = Char.ofNat b.toNat := hchar
          rw [Piece.bytes, hencode]
          exact List.mem_singleton_self b
      | broken cut =>
          have hlt : b.toNat < 0x80 := hb
          have hreplaced : 0xFFFD = b.toNat := by
            rw [← hnumber, ← hchar]
            rfl
          omega
    rwa [flatMap_bytes_pieces] at hinside
  · intro h
    obtain ⟨front, back, rfl⟩ := List.append_of_mem h
    rw [lossyChars_append_ascii front hb]
    exact List.mem_append_right _ List.mem_cons_self

/-- A byte below 80 is a byte of one character alone. -/
theorem mem_encodeChar_iff {c : Char} {b : UInt8} (hb : b < 0x80) :
    b ∈ String.utf8EncodeChar c ↔ Char.ofNat b.toNat = c := by
  have hencode : encodeChars [c] = String.utf8EncodeChar c := List.flatMap_singleton ..
  rw [← hencode, ← char_mem_lossyChars_iff hb, lossyChars_encodeChars, List.mem_singleton]

/-- A byte below 80 stands in what is shown only if it stands in the bytes. -/
theorem mem_of_mem_encode_lossy {bytes : List UInt8} {b : UInt8} (hb : b < 0x80)
    (h : b ∈ encode (lossy bytes)) : b ∈ bytes := by
  rw [← char_mem_lossyChars_iff hb, lossyChars_encode, toList_lossy] at h
  exact (char_mem_lossyChars_iff hb).1 h

/-- Cutting at a byte below 80 and showing the pieces is showing the bytes and cutting at its
character. -/
theorem splitOn_lossyChars {b : UInt8} (hb : b < 0x80) (bytes : List UInt8) :
    (lossyChars bytes).splitOn (Char.ofNat b.toNat) = (bytes.splitOn b).map lossyChars :=
  splitOn_apply (fun front back => lossyChars_append_ascii front hb back)
    (fun _ hplain hmem => hplain ((char_mem_lossyChars_iff hb).1 hmem)) bytes

end HeaderSearch.Utf8
