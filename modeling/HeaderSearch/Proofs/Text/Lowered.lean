/-
# Lower case, by bytes and by characters

Only the 26 letters of ASCII have a lower-case form here. Their bytes stand for nothing else, and no
other character has one of them among its bytes, so taking the letters of a text in lower case is
taking the letters among its bytes. That is why bytes can be compared with a word up to case without
reading them: what comes to a word in ASCII is text, and as a text comes to that word.
-/

import HeaderSearch.Path.Extension
import HeaderSearch.Proofs.Text.Shown

namespace HeaderSearch

/-! ## Letters -/

theorem lowerByte_of_letter {n : Nat} (h : 0x41 ≤ n ∧ n ≤ 0x5A) :
    lowerByte (UInt8.ofNat n) = UInt8.ofNat (n + 0x20) := by
  have hbyte : (UInt8.ofNat n).toNat = n := by
    rw [UInt8.toNat_ofNat']
    omega
  have hletter : 0x41 ≤ UInt8.ofNat n ∧ UInt8.ofNat n ≤ 0x5A := by
    rw [UInt8.le_iff_toNat_le, UInt8.le_iff_toNat_le, hbyte]
    exact h
  rw [lowerByte, if_pos hletter, UInt8.ofNat_add]
  rfl

theorem lowerByte_lt_iff {b : UInt8} : lowerByte b < 0x80 ↔ b < 0x80 := by
  by_cases hletter : 0x41 ≤ b.toNat ∧ b.toNat ≤ 0x5A
  · have hlower := lowerByte_of_letter hletter
    rw [UInt8.ofNat_toNat] at hlower
    rw [hlower, UInt8.lt_iff_toNat_lt, UInt8.lt_iff_toNat_lt, UInt8.toNat_ofNat']
    simp only [UInt8.reduceToNat]
    omega
  · have hsame : lowerByte b = b := if_neg hletter
    rw [hsame]

/-- Equality up to the case of letters is equality in lower case. -/
theorem sameLetters_iff {a b : List UInt8} :
    sameLetters a b = true ↔ a.map lowerByte = b.map lowerByte := by
  induction a generalizing b with
  | nil => cases b <;> simp [sameLetters]
  | cons x rest ih => cases b <;> simp [sameLetters, ih]

theorem toNat_toLower_of_letter {c : Char} (h : 0x41 ≤ c.toNat ∧ c.toNat ≤ 0x5A) :
    c.toLower.toNat = c.toNat + 0x20 := by
  have hval : c.val ≥ 'A'.val ∧ c.val ≤ 'Z'.val := h
  have hlower : c.toLower = _ := dif_pos hval
  rw [hlower]
  show (c.val + ('a'.val - 'A'.val)).toNat = c.toNat + 0x20
  rw [UInt32.toNat_add, show ('a'.val - 'A'.val).toNat = 0x20 from rfl,
    show c.val.toNat = c.toNat from rfl]
  omega

theorem toLower_of_not_letter {c : Char} (h : ¬ (0x41 ≤ c.toNat ∧ c.toNat ≤ 0x5A)) :
    c.toLower = c :=
  dif_neg h

namespace Utf8

/-! ## Texts -/

theorem encodeChar_toLower (c : Char) :
    String.utf8EncodeChar c.toLower = (String.utf8EncodeChar c).map lowerByte := by
  by_cases hletter : 0x41 ≤ c.toNat ∧ c.toNat ≤ 0x5A
  · have hnumber := toNat_toLower_of_letter hletter
    rw [encodeChar_one (by omega), encodeChar_one (by omega), hnumber, List.map_singleton,
      lowerByte_of_letter hletter]
  · -- A byte that were changed would be the only byte of a letter.
    have hsame : ∀ b ∈ String.utf8EncodeChar c, lowerByte b = id b := by
      intro b hmem
      refine if_neg fun hb => hletter ?_
      have hascii : b < 0x80 := UInt8.lt_of_le_of_lt hb.2 (by decide)
      rw [← (mem_encodeChar_iff hascii).1 hmem, (encodeChar_ofByte hascii).1]
      exact hb
    rw [toLower_of_not_letter hletter, List.map_congr_left hsame, List.map_id]

theorem encode_toLower (s : String) : encode s.toLower = (encode s).map lowerByte := by
  rw [encode, show s.toLower = s.map Char.toLower from rfl, String.toList_map, encodeChars,
    List.flatMap_map, encode, encodeChars, List.map_flatMap]
  simp only [encodeChar_toLower]

/-- Bytes come to a word in ASCII exactly if they are a text that comes to this word. -/
theorem map_lowerByte_eq_encode_iff {bytes : List UInt8} {word : String}
    (hword : ∀ b ∈ encode word, b < 0x80) :
    bytes.map lowerByte = encode word ↔
      ∃ text, text? bytes = some text ∧ text.toLower = word := by
  constructor
  · intro h
    have hascii : ∀ b ∈ bytes, b < 0x80 := by
      intro b hb
      rw [← lowerByte_lt_iff]
      apply hword
      rw [← h]
      exact List.mem_map_of_mem hb
    obtain ⟨text, rfl⟩ := isSome_text?_iff.1 (isSome_text?_of_ascii hascii)
    refine ⟨text, text?_encode text, ?_⟩
    rw [← encode_inj, encode_toLower, h]
  · rintro ⟨text, htext, rfl⟩
    obtain ⟨text, rfl⟩ := isSome_text?_iff.1 (Option.isSome_of_eq_some htext)
    rw [text?_encode, Option.some.injEq] at htext
    rw [← htext, encode_toLower]

end Utf8

end HeaderSearch
