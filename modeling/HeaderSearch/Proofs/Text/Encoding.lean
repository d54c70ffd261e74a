/-
# Encoding and reading text

Reading the encoding of a text gives this text back, and bytes that can be read without a broken
piece are the encoding of what is read. In the middle of a character the state of the reading says
which code points can still come out of it. Both directions rest on this: the bytes that finish
such a code point are read as its character, and the bytes seen so far begin its encoding.

The first byte of a character never continues another. Reading therefore falls apart where a
character begins, also behind one that was cut off. A byte below 80 is a character of its own, which
is why paths may be cut at separators, and files at line feeds, before they are read as text.
-/

import HeaderSearch.Text.Utf8
import Mathlib.Algebra.Group.Nat.Defs
import Mathlib.Data.List.Basic

namespace HeaderSearch.Utf8

/-! ## The bytes that finish a character -/

/-- The byte of a code point's encoding behind which `k` more bytes follow, if it is not the
first. -/
def tailByte (k v : Nat) : UInt8 := UInt8.ofNat (v / 64 ^ k % 64 + 0x80)

/-- The last `k` bytes of a code point's encoding, the first byte left out. -/
def tailBytes : Nat → Nat → List UInt8
  | 0, _ => []
  | k + 1, v => tailByte k v :: tailBytes k v

/-- The code point `v` can still come out of a character that is being read: its leading bits have
been read, and the next byte of its encoding is within the bounds. -/
def Started.Leads (s : Started) (v : Nat) : Prop :=
  v / 64 ^ (s.due + 1) = s.value ∧ s.low ≤ tailByte s.due v ∧ tailByte s.due v ≤ s.high

theorem toNat_tailByte (k v : Nat) : (tailByte k v).toNat = v / 64 ^ k % 64 + 0x80 := by
  have h : v / 64 ^ k % 64 < 64 := Nat.mod_lt _ (by decide)
  rw [tailByte, UInt8.toNat_ofNat']
  omega

theorem tailByte_bounds (k v : Nat) : 0x80 ≤ tailByte k v ∧ tailByte k v ≤ 0xBF := by
  have h : v / 64 ^ k % 64 < 64 := Nat.mod_lt _ (by decide)
  rw [UInt8.le_iff_toNat_le, UInt8.le_iff_toNat_le, toNat_tailByte]
  exact ⟨by simp, by simp; omega⟩

/-- The value after one more byte of a code point that can still come out. -/
theorem Started.Leads.value_eq {s : Started} {v : Nat} (h : s.Leads v) :
    s.value * 64 + ((tailByte s.due v).toNat - 0x80) = v / 64 ^ s.due := by
  rw [toNat_tailByte, ← h.1, Nat.pow_succ, ← Nat.div_div_eq_div_mul]
  omega

/-- The bytes that finish a code point are read as its character. -/
theorem piecesFrom_tailBytes {s : Started} {v : Nat} (h : s.Leads v) (rest : List UInt8) :
    piecesFrom (some s) (tailBytes (s.due + 1) v ++ rest) =
      .char (Char.ofNat v) :: pieces rest := by
  obtain ⟨seen, value, due, low, high⟩ := s
  induction due generalizing seen value low high with
  | zero =>
      have hvalue := h.value_eq
      simp only [Nat.pow_zero, Nat.div_one] at hvalue
      simp only [tailBytes, List.cons_append, List.nil_append, piecesFrom, step, Started.next,
        h.2.1, h.2.2, and_self, if_true, hvalue]
      rfl
  | succ due ih =>
      have hvalue := h.value_eq
      have hnext : (Started.mk (tailByte (due + 1) v :: seen) (v / 64 ^ (due + 1)) due 0x80
          0xBF).Leads v := ⟨rfl, tailByte_bounds due v⟩
      rw [tailBytes, List.cons_append]
      simp only [piecesFrom, step, Started.next, h.2.1, h.2.2, and_self, if_true, hvalue,
        List.nil_append]
      exact ih _ _ _ _ hnext

/-! ## The byte that starts a character -/

theorem start?_of_two {b : UInt8} (h : 0xC2 ≤ b.toNat) (h' : b.toNat < 0xE0) :
    start? b = some ⟨[b], b.toNat - 0xC0, 0, 0x80, 0xBF⟩ := by
  simp [start?, UInt8.lt_iff_toNat_lt, Nat.not_lt.2 h, h']

theorem start?_of_three {b : UInt8} (h : 0xE0 ≤ b.toNat) (h' : b.toNat < 0xF0) :
    start? b = some ⟨[b], b.toNat - 0xE0, 1, if b.toNat = 0xE0 then 0xA0 else 0x80,
      if b.toNat = 0xED then 0x9F else 0xBF⟩ := by
  have hlow : b.toNat = 0xE0 ↔ b = 0xE0 := @UInt8.toNat_inj b 0xE0
  have hhigh : b.toNat = 0xED ↔ b = 0xED := @UInt8.toNat_inj b 0xED
  rw [if_congr hlow rfl rfl, if_congr hhigh rfl rfl]
  have h₂ : ¬ b.toNat < 0xC2 := by omega
  simp [start?, UInt8.lt_iff_toNat_lt, h₂, Nat.not_lt.2 h, h']

theorem start?_of_four {b : UInt8} (h : 0xF0 ≤ b.toNat) (h' : b.toNat < 0xF5) :
    start? b = some ⟨[b], b.toNat - 0xF0, 2, if b.toNat = 0xF0 then 0x90 else 0x80,
      if b.toNat = 0xF4 then 0x8F else 0xBF⟩ := by
  have hlow : b.toNat = 0xF0 ↔ b = 0xF0 := @UInt8.toNat_inj b 0xF0
  have hhigh : b.toNat = 0xF4 ↔ b = 0xF4 := @UInt8.toNat_inj b 0xF4
  rw [if_congr hlow rfl rfl, if_congr hhigh rfl rfl]
  have h₂ : ¬ b.toNat < 0xC2 := by omega
  have h₃ : ¬ b.toNat < 0xE0 := by omega
  simp [start?, UInt8.lt_iff_toNat_lt, h₂, h₃, Nat.not_lt.2 h, h']

/-! ## The encoding of a character -/

theorem encodeChar_one {c : Char} (h : c.toNat ≤ 0x7F) :
    String.utf8EncodeChar c = [UInt8.ofNat c.toNat] := by
  have hval : c.val.toNat = c.toNat := rfl
  simp [String.utf8EncodeChar, hval, h]

theorem encodeChar_two {c : Char} (h : 0x7F < c.toNat) (h' : c.toNat ≤ 0x7FF) :
    String.utf8EncodeChar c = UInt8.ofNat (c.toNat / 64 + 0xC0) :: tailBytes 1 c.toNat := by
  have hval : c.val.toNat = c.toNat := rfl
  have hlead : c.toNat / 64 % 32 = c.toNat / 64 := by omega
  simp [String.utf8EncodeChar, tailBytes, tailByte, hval, hlead, Nat.not_le.2 h, h']

theorem encodeChar_three {c : Char} (h : 0x7FF < c.toNat) (h' : c.toNat ≤ 0xFFFF) :
    String.utf8EncodeChar c = UInt8.ofNat (c.toNat / 4096 + 0xE0) :: tailBytes 2 c.toNat := by
  have hval : c.val.toNat = c.toNat := rfl
  have hone : ¬ c.toNat ≤ 0x7F := by omega
  have hlead : c.toNat / 4096 % 16 = c.toNat / 4096 := by omega
  simp [String.utf8EncodeChar, tailBytes, tailByte, hval, hlead, hone, Nat.not_le.2 h, h']

/-- Code points are below 110000, and none of them is a surrogate. -/
theorem isValidChar_toNat (c : Char) :
    c.toNat < 0xD800 ∨ 0xDFFF < c.toNat ∧ c.toNat < 0x110000 := c.valid

theorem encodeChar_four {c : Char} (h : 0xFFFF < c.toNat) :
    String.utf8EncodeChar c = UInt8.ofNat (c.toNat / 262144 + 0xF0) :: tailBytes 3 c.toNat := by
  have hval : c.val.toNat = c.toNat := rfl
  have hvalid := isValidChar_toNat c
  have hone : ¬ c.toNat ≤ 0x7F := by omega
  have htwo : ¬ c.toNat ≤ 0x7FF := by omega
  have hlead : c.toNat / 262144 % 8 = c.toNat / 262144 := by omega
  simp [String.utf8EncodeChar, tailBytes, tailByte, hval, hlead, hone, htwo, Nat.not_le.2 h]

/-- A character outside the first 128 begins with a byte that starts it, and the character can come
out of what is started. -/
theorem exists_start? {c : Char} (h : 0x7F < c.toNat) :
    ∃ b s, start? b = some s ∧ s.Leads c.toNat ∧
      String.utf8EncodeChar c = b :: tailBytes (s.due + 1) c.toNat := by
  have hvalid := isValidChar_toNat c
  by_cases htwo : c.toNat ≤ 0x7FF
  · have hb : (UInt8.ofNat (c.toNat / 64 + 0xC0)).toNat = c.toNat / 64 + 0xC0 := by
      rw [UInt8.toNat_ofNat']
      omega
    refine ⟨_, _, start?_of_two (by omega) (by omega), ⟨?_, tailByte_bounds 0 _⟩,
      encodeChar_two h htwo⟩
    simp only [hb]
    omega
  · by_cases hthree : c.toNat ≤ 0xFFFF
    · have hb : (UInt8.ofNat (c.toNat / 4096 + 0xE0)).toNat = c.toNat / 4096 + 0xE0 := by
        rw [UInt8.toNat_ofNat']
        omega
      refine ⟨_, _, start?_of_three (by omega) (by omega), ⟨?_, ?_, ?_⟩,
        encodeChar_three (Nat.not_le.1 htwo) hthree⟩
      · simp only [hb]
        omega
      · rw [UInt8.le_iff_toNat_le, toNat_tailByte]
        simp only [hb]
        split
        · simp
          omega
        · simp
      · rw [UInt8.le_iff_toNat_le, toNat_tailByte]
        simp only [hb]
        split <;> (simp; omega)
    · have hb : (UInt8.ofNat (c.toNat / 262144 + 0xF0)).toNat = c.toNat / 262144 + 0xF0 := by
        rw [UInt8.toNat_ofNat']
        omega
      refine ⟨_, _, start?_of_four (by omega) (by omega), ⟨?_, ?_, ?_⟩,
        encodeChar_four (Nat.not_le.1 hthree)⟩
      · simp only [hb]
        omega
      · rw [UInt8.le_iff_toNat_le, toNat_tailByte]
        simp only [hb]
        split
        · simp
          omega
        · simp
      · rw [UInt8.le_iff_toNat_le, toNat_tailByte]
        simp only [hb]
        split <;> (simp; omega)

theorem seen_of_start? {b : UInt8} {s : Started} (h : start? b = some s) : s.seen = [b] := by
  simp only [start?] at h
  grind

theorem begin_of_start? {b : UInt8} {s : Started} (h : start? b = some s) :
    begin b = ([], some s) := by
  have hb : ¬ b < 0x80 := by
    intro hb
    rw [start?, if_pos (UInt8.lt_trans hb (by decide))] at h
    cases h
  rw [begin, if_neg hb, h]

/-! ## Reading an encoding -/

/-- The encoding of a character is read as this character, and then reading begins anew. -/
theorem pieces_encodeChar_append (c : Char) (rest : List UInt8) :
    pieces (String.utf8EncodeChar c ++ rest) = .char c :: pieces rest := by
  by_cases hone : c.toNat ≤ 0x7F
  · have hb : (UInt8.ofNat c.toNat).toNat = c.toNat := by
      rw [UInt8.toNat_ofNat']
      omega
    have hlt : UInt8.ofNat c.toNat < 0x80 := by
      rw [UInt8.lt_iff_toNat_lt, hb]
      exact Nat.lt_succ_of_le hone
    rw [encodeChar_one hone]
    simp only [List.cons_append, List.nil_append, pieces, piecesFrom, step, begin, hlt, if_true,
      hb, Char.ofNat_toNat]
  · obtain ⟨b, s, hstart, hleads, hencode⟩ := exists_start? (Nat.not_le.1 hone)
    have hread := piecesFrom_tailBytes hleads rest
    rw [Char.ofNat_toNat] at hread
    rw [hencode, List.cons_append, pieces, piecesFrom, step, begin_of_start? hstart]
    exact hread

theorem encodeChars_append (front back : List Char) :
    encodeChars (front ++ back) = encodeChars front ++ encodeChars back := List.flatMap_append

/-- A text is read as its characters, and then reading begins anew. -/
theorem pieces_encodeChars_append (text : List Char) (back : List UInt8) :
    pieces (encodeChars text ++ back) = text.map .char ++ pieces back := by
  induction text with
  | nil => rfl
  | cons c rest ih =>
      rw [encodeChars, List.flatMap_cons, List.append_assoc, pieces_encodeChar_append,
        List.map_cons]
      exact congrArg (Piece.char c :: ·) ih

/-- The encoding of a text is read as its characters. -/
theorem pieces_encodeChars (text : List Char) :
    pieces (encodeChars text) = text.map Piece.char := by
  have h := pieces_encodeChars_append text []
  rwa [List.append_nil, show pieces [] = [] from rfl, List.append_nil] at h

theorem lossy_encode (s : String) : lossy (encode s) = s := by
  rw [lossy, lossyChars, encode, pieces_encodeChars, List.map_map]
  show String.ofList (s.toList.map id) = s
  rw [List.map_id, String.ofList_toList]

theorem text?_encode (s : String) : text? (encode s) = some s := by
  rw [text?, lossy_encode, encode, pieces_encodeChars, if_pos]
  simp [Piece.isChar]

/-- Different texts have different bytes. -/
theorem encode_inj {s t : String} : encode s = encode t ↔ s = t := by
  refine ⟨fun h => ?_, congrArg encode⟩
  rw [← lossy_encode s, h, lossy_encode]

/-! ## Encoding what was read -/

/-- What is relied on in the middle of a character: no byte below 80 continues it, and whatever can
still come out of it is a character whose encoding begins with the bytes seen. -/
structure Started.Sound (s : Started) : Prop where
  low_ge : 0x80 ≤ s.low
  high_le : s.high ≤ 0xBF
  encodes : ∀ v, s.Leads v → v.isValidChar ∧
    String.utf8EncodeChar (Char.ofNat v) = s.seen.reverse ++ tailBytes (s.due + 1) v

/-- A byte within the bounds is the next one of every code point that has the bits read with it. -/
theorem Started.Sound.leads {s : Started} (h : s.Sound) {b : UInt8} (hlow : s.low ≤ b)
    (hhigh : b ≤ s.high) {v : Nat} (hv : v / 64 ^ s.due = s.value * 64 + (b.toNat - 0x80)) :
    s.Leads v ∧ tailByte s.due v = b := by
  have hge := UInt8.le_iff_toNat_le.1 (UInt8.le_trans h.low_ge hlow)
  have hle := UInt8.le_iff_toNat_le.1 (UInt8.le_trans hhigh h.high_le)
  simp only [UInt8.reduceToNat] at hge hle
  have htail : tailByte s.due v = b := by
    rw [← UInt8.toNat_inj, toNat_tailByte, hv]
    omega
  refine ⟨⟨?_, ?_, ?_⟩, htail⟩
  · rw [Nat.pow_succ, ← Nat.div_div_eq_div_mul, hv]
    omega
  · rwa [htail]
  · rwa [htail]

theorem exists_char {v : Nat} (h : v < 0x110000) (hsurrogate : v < 0xD800 ∨ 0xDFFF < v) :
    v.isValidChar ∧ ∃ c : Char, c.toNat = v ∧ Char.ofNat v = c := by
  have hvalid : v.isValidChar := by
    rcases hsurrogate with hlow | hhigh
    · exact .inl hlow
    · exact .inr ⟨hhigh, h⟩
  refine ⟨hvalid, Char.ofNat v, ?_, rfl⟩
  rw [Char.ofNat, dif_pos hvalid]
  rfl

/-- What the first of two bytes starts are the characters up to 7FF. -/
theorem sound_of_two {b : UInt8} (h : 0xC2 ≤ b.toNat) (h' : b.toNat < 0xE0) :
    (Started.mk [b] (b.toNat - 0xC0) 0 0x80 0xBF).Sound := by
  have hofNat : UInt8.ofNat b.toNat = b := UInt8.ofNat_toNat
  refine ⟨UInt8.le_refl _, UInt8.le_refl _, fun v hleads => ?_⟩
  have hvalue : v / 64 = b.toNat - 0xC0 := hleads.1
  obtain ⟨hvalid, c, rfl, hc⟩ := exists_char (v := v) (by omega) (by omega)
  refine ⟨hvalid, ?_⟩
  rw [hc, encodeChar_two (by omega) (by omega), hvalue, Nat.sub_add_cancel (by omega), hofNat]
  rfl

/-- What the first of three bytes starts are the characters up to FFFF. The bounds on the second
byte rule out what two bytes can encode, and the surrogates. -/
theorem sound_of_three {b : UInt8} (h : 0xE0 ≤ b.toNat) (h' : b.toNat < 0xF0) :
    (Started.mk [b] (b.toNat - 0xE0) 1 (if b.toNat = 0xE0 then 0xA0 else 0x80)
      (if b.toNat = 0xED then 0x9F else 0xBF)).Sound := by
  have hofNat : UInt8.ofNat b.toNat = b := UInt8.ofNat_toNat
  refine ⟨by dsimp only; split <;> decide, by dsimp only; split <;> decide, fun v hleads => ?_⟩
  have hvalue : v / 4096 = b.toNat - 0xE0 := hleads.1
  have hlow := UInt8.le_iff_toNat_le.1 hleads.2.1
  have hhigh := UInt8.le_iff_toNat_le.1 hleads.2.2
  rw [toNat_tailByte] at hlow hhigh
  have hleast : 0x7FF < v := by
    dsimp only at hlow
    split at hlow
    · simp at hlow
      omega
    · omega
  have hsurrogate : v < 0xD800 ∨ 0xDFFF < v := by
    dsimp only at hhigh
    split at hhigh
    · simp at hhigh
      omega
    · omega
  obtain ⟨hvalid, c, rfl, hc⟩ := exists_char (v := v) (by omega) hsurrogate
  refine ⟨hvalid, ?_⟩
  rw [hc, encodeChar_three hleast (by omega), hvalue, Nat.sub_add_cancel (by omega), hofNat]
  rfl

/-- What the first of four bytes starts are the characters beyond FFFF. The bounds on the second
byte rule out what three bytes can encode, and what is beyond the last code point. -/
theorem sound_of_four {b : UInt8} (h : 0xF0 ≤ b.toNat) (h' : b.toNat < 0xF5) :
    (Started.mk [b] (b.toNat - 0xF0) 2 (if b.toNat = 0xF0 then 0x90 else 0x80)
      (if b.toNat = 0xF4 then 0x8F else 0xBF)).Sound := by
  have hofNat : UInt8.ofNat b.toNat = b := UInt8.ofNat_toNat
  refine ⟨by dsimp only; split <;> decide, by dsimp only; split <;> decide, fun v hleads => ?_⟩
  have hvalue : v / 262144 = b.toNat - 0xF0 := hleads.1
  have hlow := UInt8.le_iff_toNat_le.1 hleads.2.1
  have hhigh := UInt8.le_iff_toNat_le.1 hleads.2.2
  rw [toNat_tailByte] at hlow hhigh
  have hleast : 0xFFFF < v := by
    dsimp only at hlow
    split at hlow
    · simp at hlow
      omega
    · omega
  have hmost : v < 0x110000 := by
    dsimp only at hhigh
    split at hhigh
    · simp at hhigh
      omega
    · omega
  obtain ⟨hvalid, c, rfl, hc⟩ := exists_char hmost (by omega)
  refine ⟨hvalid, ?_⟩
  rw [hc, encodeChar_four hleast, hvalue, Nat.sub_add_cancel (by omega), hofNat]
  rfl

theorem sound_of_start? {b : UInt8} {s : Started} (h : start? b = some s) : s.Sound := by
  by_cases hlow : b.toNat < 0xC2
  · rw [start?, if_pos (UInt8.lt_iff_toNat_lt.2 hlow)] at h
    cases h
  · by_cases htwo : b.toNat < 0xE0
    · rw [start?_of_two (Nat.not_lt.1 hlow) htwo] at h
      cases h
      exact sound_of_two (Nat.not_lt.1 hlow) htwo
    · by_cases hthree : b.toNat < 0xF0
      · rw [start?_of_three (Nat.not_lt.1 htwo) hthree] at h
        cases h
        exact sound_of_three (Nat.not_lt.1 htwo) hthree
      · by_cases hfour : b.toNat < 0xF5
        · rw [start?_of_four (Nat.not_lt.1 hthree) hfour] at h
          cases h
          exact sound_of_four (Nat.not_lt.1 hthree) hfour
        · simp [start?, UInt8.lt_iff_toNat_lt, hlow, htwo, hthree, hfour] at h

/-- The bytes that a piece was read from, if it was read from an encoding where it is a
character. -/
def Piece.bytes : Piece → List UInt8
  | .char c => String.utf8EncodeChar c
  | .broken bytes => bytes

/-- The bytes of a character that is being read. -/
def pending : Option Started → List UInt8
  | none => []
  | some s => s.seen.reverse

/-- Reading one byte between two characters loses nothing. -/
theorem begin_bytes (b : UInt8) :
    (begin b).1.flatMap Piece.bytes ++ pending (begin b).2 = [b] ∧
      ∀ s, (begin b).2 = some s → s.Sound := by
  unfold begin
  split
  · next hlow =>
    have hb : b.toNat < 0x80 := UInt8.lt_iff_toNat_lt.1 hlow
    obtain ⟨-, c, hvalue, hc⟩ := exists_char (v := b.toNat) (by omega) (by omega)
    refine ⟨?_, nofun⟩
    rw [hc]
    simp only [List.flatMap_singleton, Piece.bytes, pending, List.append_nil]
    rw [encodeChar_one (by omega), hvalue, UInt8.ofNat_toNat]
  · split
    · next s hstart =>
      refine ⟨?_, ?_⟩
      · simp [pending, seen_of_start? hstart]
      · rintro _ ⟨⟩
        exact sound_of_start? hstart
    · exact ⟨rfl, nofun⟩

/-- Reading one byte in the middle of a character loses nothing either. -/
theorem Started.Sound.next_bytes {s : Started} (h : s.Sound) (b : UInt8) :
    (s.next b).1.flatMap Piece.bytes ++ pending (s.next b).2 = s.seen.reverse ++ [b] ∧
      ∀ s', (s.next b).2 = some s' → s'.Sound := by
  unfold Started.next
  split
  · next hbounds =>
    obtain ⟨seen, value, due, low, high⟩ := s
    cases due with
    | zero =>
        obtain ⟨hleads, hb⟩ := h.leads hbounds.1 hbounds.2 (Nat.div_one _)
        have hencode := (h.encodes _ hleads).2
        simp only [tailBytes, hb] at hencode
        exact ⟨by simpa [Piece.bytes, pending] using hencode, nofun⟩
    | succ due =>
        refine ⟨by simp [pending], ?_⟩
        rintro _ ⟨⟩
        refine ⟨UInt8.le_refl _, UInt8.le_refl _, fun v hv => ?_⟩
        obtain ⟨hleads, hb⟩ := h.leads hbounds.1 hbounds.2 hv.1
        obtain ⟨hvalid, hencode⟩ := h.encodes v hleads
        dsimp only at hb hencode
        rw [tailBytes, hb] at hencode
        exact ⟨hvalid, by simpa using hencode⟩
  · obtain ⟨hbytes, hsound⟩ := begin_bytes b
    refine ⟨?_, hsound⟩
    rw [← hbytes]
    simp [Piece.bytes]

theorem sound_none : ∀ s, (none : Option Started) = some s → s.Sound := nofun

theorem step_bytes {state : Option Started} (h : ∀ s, state = some s → s.Sound) (b : UInt8) :
    (step state b).1.flatMap Piece.bytes ++ pending (step state b).2 = pending state ++ [b] ∧
      ∀ s, (step state b).2 = some s → s.Sound := by
  cases state with
  | none => exact begin_bytes b
  | some s => exact (h s rfl).next_bytes b

/-- Whatever is read, the pieces together are the bytes that were read. -/
theorem flatMap_bytes_piecesFrom {state : Option Started} (h : ∀ s, state = some s → s.Sound)
    (bytes : List UInt8) :
    (piecesFrom state bytes).flatMap Piece.bytes = pending state ++ bytes := by
  induction bytes generalizing state with
  | nil =>
      cases state with
      | none => rfl
      | some s => simp [piecesFrom, Piece.bytes, pending]
  | cons b rest ih =>
      obtain ⟨hbytes, hsound⟩ := step_bytes h b
      calc
        (piecesFrom state (b :: rest)).flatMap Piece.bytes =
            ((step state b).1 ++ piecesFrom (step state b).2 rest).flatMap Piece.bytes := by
          rw [piecesFrom]
        _ = (step state b).1.flatMap Piece.bytes ++ (pending (step state b).2 ++ rest) := by
          rw [List.flatMap_append, ih hsound]
        _ = pending state ++ (b :: rest) := by
          rw [← List.append_assoc, hbytes, List.append_assoc, List.singleton_append]

theorem flatMap_bytes_pieces (bytes : List UInt8) :
    (pieces bytes).flatMap Piece.bytes = bytes :=
  flatMap_bytes_piecesFrom sound_none bytes

/-! ## Text without broken pieces -/

/-- Bytes that are text are the encoding of what is shown for them. -/
theorem encode_lossy {bytes : List UInt8} (h : (text? bytes).isSome) :
    encode (lossy bytes) = bytes := by
  have hall : (pieces bytes).all Piece.isChar := by
    by_contra hbroken
    rw [text?, if_neg hbroken] at h
    cases h
  have hshown : ∀ piece ∈ pieces bytes, String.utf8EncodeChar piece.shown = piece.bytes := by
    intro piece hmem
    cases piece with
    | char c => rfl
    | broken cut => simpa [Piece.isChar] using List.all_eq_true.1 hall _ hmem
  rw [encode, lossy, lossyChars, String.toList_ofList, encodeChars, List.flatMap_map]
  calc
    (pieces bytes).flatMap (fun piece => String.utf8EncodeChar piece.shown) =
        (pieces bytes).flatMap Piece.bytes := by
      rw [List.flatMap_def, List.flatMap_def, List.map_congr_left hshown]
    _ = bytes := flatMap_bytes_pieces bytes

/-- Bytes are text exactly if they encode something. -/
theorem isSome_text?_iff {bytes : List UInt8} :
    (text? bytes).isSome ↔ ∃ s : String, encode s = bytes := by
  constructor
  · intro h
    exact ⟨lossy bytes, encode_lossy h⟩
  · rintro ⟨s, rfl⟩
    rw [text?_encode]
    rfl

/-! ## Reading falls apart where a character begins -/

/-- A byte that continues no character breaks the one that is being read, and is then read as the
first byte of what follows. -/
theorem Started.Sound.next_of_begins {s : Started} (h : s.Sound) {b : UInt8}
    (hb : b < 0x80 ∨ 0xBF < b) :
    s.next b = (.broken s.seen.reverse :: (begin b).1, (begin b).2) := by
  have hbounds : ¬ (s.low ≤ b ∧ b ≤ s.high) := by
    rintro ⟨hlow, hhigh⟩
    rcases hb with hb | hb
    · exact UInt8.lt_irrefl _ (UInt8.lt_of_le_of_lt (UInt8.le_trans h.low_ge hlow) hb)
    · exact UInt8.lt_irrefl _ (UInt8.lt_of_lt_of_le hb (UInt8.le_trans hhigh h.high_le))
  rw [Started.next, if_neg hbounds]

theorem piecesFrom_append_of_begins {state : Option Started} (h : ∀ s, state = some s → s.Sound)
    (front : List UInt8) {b : UInt8} (hb : b < 0x80 ∨ 0xBF < b) (back : List UInt8) :
    piecesFrom state (front ++ b :: back) = piecesFrom state front ++ pieces (b :: back) := by
  induction front generalizing state with
  | nil =>
      cases state with
      | none => rfl
      | some s => simp [piecesFrom, step, (h s rfl).next_of_begins hb, pieces]
  | cons first rest ih =>
      rw [List.cons_append, piecesFrom, piecesFrom, ih (step_bytes h first).2, List.append_assoc]

/-- The first byte of a character continues no other. -/
theorem exists_encodeChar_eq_cons (c : Char) :
    ∃ b rest, String.utf8EncodeChar c = b :: rest ∧ (b < 0x80 ∨ 0xBF < b) := by
  by_cases hone : c.toNat ≤ 0x7F
  · refine ⟨_, _, encodeChar_one hone, .inl ?_⟩
    rw [UInt8.lt_iff_toNat_lt, UInt8.toNat_ofNat']
    simp only [UInt8.reduceToNat]
    omega
  · obtain ⟨b, s, hstart, -, hencode⟩ := exists_start? (Nat.not_le.1 hone)
    refine ⟨b, _, hencode, .inr ?_⟩
    by_contra hb
    rw [UInt8.not_lt] at hb
    rw [start?, if_pos (UInt8.lt_of_le_of_lt hb (by decide))] at hstart
    cases hstart

/-- A text is read as its characters wherever it begins, also behind a character that was cut
off. -/
theorem pieces_append_encodeChars (front : List UInt8) (text : List Char) :
    pieces (front ++ encodeChars text) = pieces front ++ text.map .char := by
  cases text with
  | nil => simp [encodeChars]
  | cons c rest =>
      obtain ⟨b, more, hencode, hb⟩ := exists_encodeChar_eq_cons c
      have hcons : encodeChars (c :: rest) = b :: (more ++ encodeChars rest) := by
        rw [encodeChars, List.flatMap_cons, hencode]
        rfl
      rw [← pieces_encodeChars, hcons]
      exact piecesFrom_append_of_begins sound_none front hb _

/-! ## Reading falls apart at a byte below 80 -/

theorem begin_of_ascii {b : UInt8} (hb : b < 0x80) :
    begin b = ([.char (Char.ofNat b.toNat)], none) := by
  rw [begin, if_pos hb]

theorem piecesFrom_append_ascii {state : Option Started} (h : ∀ s, state = some s → s.Sound)
    (front : List UInt8) {b : UInt8} (hb : b < 0x80) (back : List UInt8) :
    piecesFrom state (front ++ b :: back) =
      piecesFrom state front ++ .char (Char.ofNat b.toNat) :: pieces back := by
  rw [piecesFrom_append_of_begins h front (.inl hb), pieces, piecesFrom, step, begin_of_ascii hb]
  rfl

theorem isSome_text?_eq (bytes : List UInt8) :
    (text? bytes).isSome = (pieces bytes).all Piece.isChar := by
  unfold text?
  split
  · next hall => rw [hall, Option.isSome_some]
  · next hall =>
    rw [Bool.not_eq_true] at hall
    rw [hall, Option.isSome_none]

/-- What is cut at a byte below 80 is text exactly if both parts are. -/
theorem isSome_text?_append_ascii (front : List UInt8) {b : UInt8} (hb : b < 0x80)
    (back : List UInt8) :
    (text? (front ++ b :: back)).isSome ↔ (text? front).isSome ∧ (text? back).isSome := by
  simp only [isSome_text?_eq, pieces, piecesFrom_append_ascii sound_none front hb]
  simp [Piece.isChar]

/-- Bytes below 80 are text. -/
theorem isSome_text?_of_ascii {bytes : List UInt8} (h : ∀ b ∈ bytes, b < 0x80) :
    (text? bytes).isSome := by
  induction bytes with
  | nil => rfl
  | cons b rest ih =>
      obtain ⟨hb, hrest⟩ := List.forall_mem_cons.1 h
      exact (isSome_text?_append_ascii [] hb rest).2 ⟨rfl, ih hrest⟩

end HeaderSearch.Utf8
