/-
# What is replaced

Bytes that are not text are shown with replacement characters, and how many there are of them is a
convention: one for each maximal subpart of what cannot be read. Such a subpart begins a character
and does not finish it, and is as long as that is possible; a byte that begins no character is one
of its own. This says which text is shown without saying how it is found, and it leaves no choice.
The reading, which keeps the bounds of the next byte instead of the characters that can still come
out, arrives at that text.
-/

import HeaderSearch.Proofs.Text.Shown

namespace HeaderSearch.Utf8

/-- The bytes begin a character, or are all of it. -/
def BeginsChar (bytes : List UInt8) : Prop := ∃ c : Char, bytes <+: String.utf8EncodeChar c

/-- What a single replacement character is shown for, with `rest` behind it: an unfinished
character, or a byte that begins none, and the next byte does not go on with it. -/
structure IsMaximalSubpart (cut rest : List UInt8) : Prop where
  nonempty : cut ≠ []
  unfinished : ∀ c : Char, cut ≠ String.utf8EncodeChar c
  begun : BeginsChar cut ∨ ∃ b, cut = [b]
  longest : ∀ next ∈ rest.head?, ¬ BeginsChar (cut ++ [next])

/-- The text is what the bytes encode, with a replacement character for each maximal subpart of what
encodes nothing. -/
inductive Replaces : List UInt8 → List Char → Prop where
  /-- Nothing encodes nothing. -/
  | nil : Replaces [] []
  /-- A character stays. -/
  | char (c : Char) {rest : List UInt8} {text : List Char} (h : Replaces rest text) :
      Replaces (String.utf8EncodeChar c ++ rest) (c :: text)
  /-- A maximal subpart is replaced. -/
  | replaced {cut rest : List UInt8} {text : List Char} (hcut : IsMaximalSubpart cut rest)
      (h : Replaces rest text) : Replaces (cut ++ rest) ('\uFFFD' :: text)

theorem BeginsChar.of_append {front back : List UInt8} (h : BeginsChar (front ++ back)) :
    BeginsChar front := by
  obtain ⟨c, hprefix⟩ := h
  exact ⟨c, (List.prefix_append front back).trans hprefix⟩

/-! ## Every text has a replacement -/

/-- What begins a character is continued as long as it does. -/
theorem exists_longest {cut : List UInt8} (hcut : BeginsChar cut) (rest : List UInt8) :
    ∃ more left, rest = more ++ left ∧ BeginsChar (cut ++ more) ∧
      ∀ next ∈ left.head?, ¬ BeginsChar (cut ++ more ++ [next]) := by
  induction rest generalizing cut with
  | nil => exact ⟨[], [], rfl, by simpa using hcut, nofun⟩
  | cons next rest ih =>
      by_cases hnext : BeginsChar (cut ++ [next])
      · obtain ⟨more, left, hsplit, hbegins, hlongest⟩ := ih hnext
        refine ⟨next :: more, left, by rw [hsplit]; rfl, ?_, ?_⟩
        · simpa using hbegins
        · simpa using hlongest
      · refine ⟨[], next :: rest, rfl, by simpa using hcut, ?_⟩
        simpa using hnext

/-- Bytes at which no character is complete begin with a maximal subpart. -/
theorem exists_isMaximalSubpart {bytes : List UInt8} (hne : bytes ≠ [])
    (hchar : ∀ c : Char, ¬ String.utf8EncodeChar c <+: bytes) :
    ∃ cut rest, bytes = cut ++ rest ∧ IsMaximalSubpart cut rest := by
  obtain ⟨b, tail, rfl⟩ := List.exists_cons_of_ne_nil hne
  have hunfinished : ∀ cut rest, b :: tail = cut ++ rest → ∀ c, cut ≠ String.utf8EncodeChar c := by
    rintro cut rest hsplit c rfl
    exact hchar c ⟨rest, hsplit.symm⟩
  by_cases hbegins : BeginsChar [b]
  · obtain ⟨more, left, rfl, hmore, hlongest⟩ := exists_longest hbegins tail
    exact ⟨[b] ++ more, left, rfl, by simp, hunfinished _ left rfl, .inl hmore, hlongest⟩
  · refine ⟨[b], tail, rfl, by simp, hunfinished _ tail rfl, .inr ⟨b, rfl⟩, fun next _ hnext => ?_⟩
    exact hbegins hnext.of_append

theorem length_utf8EncodeChar_pos (c : Char) : 0 < (String.utf8EncodeChar c).length := by
  by_cases hone : c.toNat ≤ 0x7F
  · simp [encodeChar_one hone]
  · obtain ⟨b, s, -, -, hencode⟩ := exists_start? (Nat.not_le.1 hone)
    simp [hencode]

theorem exists_replaces (bytes : List UInt8) : ∃ text, Replaces bytes text := by
  induction hlength : bytes.length using Nat.strongRecOn generalizing bytes with
  | ind size ih =>
      by_cases hnil : bytes = []
      · rw [hnil]
        exact ⟨[], .nil⟩
      · by_cases hchar : ∃ c : Char, String.utf8EncodeChar c <+: bytes
        · obtain ⟨c, rest, rfl⟩ := hchar
          have hshorter : rest.length < size := by
            have hpos := length_utf8EncodeChar_pos c
            rw [List.length_append] at hlength
            omega
          obtain ⟨text, htext⟩ := ih _ hshorter rest rfl
          exact ⟨_, .char c htext⟩
        · rw [not_exists] at hchar
          obtain ⟨cut, rest, rfl, hcut⟩ := exists_isMaximalSubpart hnil hchar
          have hshorter : rest.length < size := by
            have hpos := List.length_pos_iff.2 hcut.nonempty
            rw [List.length_append] at hlength
            omega
          obtain ⟨text, htext⟩ := ih _ hshorter rest rfl
          exact ⟨_, .replaced hcut htext⟩

/-! ## Reading a maximal subpart -/

/-- A byte within the bounds goes on with the character that is being read. -/
theorem Started.Sound.beginsChar {s : Started} (h : s.Sound) {b : UInt8} (hlow : s.low ≤ b)
    (hhigh : b ≤ s.high) : BeginsChar (s.seen.reverse ++ [b]) := by
  have hv : ∃ v, v / 64 ^ s.due = s.value * 64 + (b.toNat - 0x80) :=
    ⟨_, Nat.mul_div_cancel _ (Nat.pow_pos (by decide))⟩
  obtain ⟨v, hv⟩ := hv
  obtain ⟨hleads, rfl⟩ := h.leads hlow hhigh hv
  refine ⟨Char.ofNat v, tailBytes s.due v, ?_⟩
  rw [(h.encodes v hleads).2, tailBytes, List.append_assoc]
  rfl

/-- What cannot go on is broken off, and then reading begins anew. -/
theorem piecesFrom_of_longest {s : Started} (h : s.Sound) {rest : List UInt8}
    (hlongest : ∀ next ∈ rest.head?, ¬ BeginsChar (s.seen.reverse ++ [next])) :
    piecesFrom (some s) rest = .broken s.seen.reverse :: pieces rest := by
  cases rest with
  | nil => rfl
  | cons next rest =>
      have hbounds : ¬ (s.low ≤ next ∧ next ≤ s.high) := fun hbounds =>
        hlongest next (by simp) (h.beginsChar hbounds.1 hbounds.2)
      rw [piecesFrom, step, Started.next, if_neg hbounds]
      rfl

/-- Reading goes through the bytes of a character, short of the last, without a piece. -/
theorem exists_piecesFrom_eq {s : Started} (h : s.Sound) {v : Nat} (hleads : s.Leads v)
    {front back : List UInt8} (hsplit : front ++ back = tailBytes (s.due + 1) v)
    (hback : back ≠ []) :
    ∃ s' : Started, s'.Sound ∧ s'.seen.reverse = s.seen.reverse ++ front ∧
      ∀ rest, piecesFrom (some s) (front ++ rest) = piecesFrom (some s') rest := by
  induction front generalizing s with
  | nil => exact ⟨s, h, by simp, fun _ => rfl⟩
  | cons b front ih =>
      obtain ⟨seen, value, due, low, high⟩ := s
      rw [tailBytes, List.cons_append, List.cons.injEq] at hsplit
      obtain ⟨rfl, hsplit⟩ := hsplit
      cases due with
      | zero => exact absurd (List.append_eq_nil_iff.1 hsplit).2 hback
      | succ due =>
          have hnext : (Started.mk seen value (due + 1) low high).next (tailByte (due + 1) v) =
              ([], some ⟨tailByte (due + 1) v :: seen, v / 64 ^ (due + 1), due, 0x80, 0xBF⟩) := by
            have hvalue := hleads.value_eq
            simp only [Started.next, hleads.2.1, hleads.2.2, and_self, if_true, hvalue]
          have hsound := (h.next_bytes (tailByte (due + 1) v)).2 _ (congrArg Prod.snd hnext)
          obtain ⟨s', hsound', hseen, hread⟩ := ih hsound ⟨rfl, tailByte_bounds due v⟩ hsplit
          refine ⟨s', hsound', by rw [hseen]; simp, fun rest => ?_⟩
          rw [List.cons_append, piecesFrom, step, hnext]
          exact hread rest

theorem low_le_high_of_start? {b : UInt8} {s : Started} (h : start? b = some s) :
    s.low ≤ s.high := by
  simp only [start?] at h
  grind

/-- A byte that begins no character is broken on its own. -/
theorem begin_of_not_beginsChar {b : UInt8} (h : ¬ BeginsChar [b]) :
    begin b = ([.broken [b]], none) := by
  have hb : ¬ b < 0x80 := fun hb => h ⟨Char.ofNat b.toNat, [], (encodeChar_ofByte hb).2.symm⟩
  cases hstart : start? b with
  | none => rw [begin, if_neg hb, hstart]
  | some s =>
      have hbegins := (sound_of_start? hstart).beginsChar (UInt8.le_refl _)
        (low_le_high_of_start? hstart)
      rw [seen_of_start? hstart] at hbegins
      exact absurd hbegins.of_append h

/-- A maximal subpart is read as one broken piece, and then reading begins anew. -/
theorem pieces_of_isMaximalSubpart {cut rest : List UInt8} (h : IsMaximalSubpart cut rest) :
    pieces (cut ++ rest) = .broken cut :: pieces rest := by
  obtain ⟨b, front, rfl⟩ := List.exists_cons_of_ne_nil h.nonempty
  by_cases hbegins : BeginsChar (b :: front)
  · obtain ⟨c, back, hsplit⟩ := hbegins
    have hback : back ≠ [] := by
      rintro rfl
      exact h.unfinished c (by rw [← hsplit, List.append_nil])
    by_cases hone : c.toNat ≤ 0x7F
    · rw [encodeChar_one hone, List.cons_append, List.cons.injEq] at hsplit
      exact absurd (List.append_eq_nil_iff.1 hsplit.2).2 hback
    · obtain ⟨first, s, hstart, hleads, hencode⟩ := exists_start? (Nat.not_le.1 hone)
      rw [hencode, List.cons_append, List.cons.injEq] at hsplit
      obtain ⟨rfl, hsplit⟩ := hsplit
      obtain ⟨s', hsound, hseen, hread⟩ :=
        exists_piecesFrom_eq (sound_of_start? hstart) hleads hsplit hback
      rw [seen_of_start? hstart] at hseen
      have hcut : s'.seen.reverse = b :: front := hseen
      calc
        pieces (b :: front ++ rest) = piecesFrom (some s) (front ++ rest) := by
          rw [List.cons_append, pieces, piecesFrom, step, begin_of_start? hstart]
          rfl
        _ = piecesFrom (some s') rest := hread rest
        _ = .broken (b :: front) :: pieces rest := by
          rw [piecesFrom_of_longest hsound (by rw [hcut]; exact h.longest), hcut]
  · obtain ⟨first, hfirst⟩ := h.begun.resolve_left hbegins
    obtain ⟨rfl, rfl⟩ := List.cons.inj hfirst
    rw [List.cons_append, pieces, piecesFrom, step, begin_of_not_beginsChar hbegins]
    rfl

/-- The lossy reading shows what the bytes encode, with one replacement character for each maximal
subpart of what encodes nothing, and no other text is that. -/
theorem replaces_iff {bytes : List UInt8} {text : List Char} :
    Replaces bytes text ↔ text = lossyChars bytes := by
  have hsound : ∀ {bytes text}, Replaces bytes text → text = lossyChars bytes := by
    intro bytes text h
    induction h with
    | nil => rfl
    | char c _ ih =>
        rw [lossyChars, pieces_encodeChar_append, List.map_cons, ih]
        rfl
    | replaced hcut _ ih =>
        rw [lossyChars, pieces_of_isMaximalSubpart hcut, List.map_cons, ih]
        rfl
  refine ⟨hsound, ?_⟩
  rintro rfl
  obtain ⟨text, htext⟩ := exists_replaces bytes
  rwa [← hsound htext]

end HeaderSearch.Utf8
