/-
# Texts in quotes

The first character of an escaped text can be read back from its front, and no character is escaped
to something that begins with a quote. So it can be seen where a text in quotes ends, whatever
stands behind it, and two texts in quotes with which one text begins are the same.
-/

import HeaderSearch.Json.Writer

namespace HeaderSearch.Json

/-- The character that a letter behind a backslash stands for. -/
def unescapeLetter : Char → Char
  | 'b' => '\x08'
  | 't' => '\t'
  | 'n' => '\n'
  | 'f' => '\x0c'
  | 'r' => '\r'
  | c => c

/-- The value of a hexadecimal digit. -/
def hexValue (digit : Char) : Nat :=
  if digit.isDigit then digit.toNat - '0'.toNat else digit.toNat - 'a'.toNat + 10

/-- Read one character behind a backslash. -/
def readEscape : List Char → Option (Char × List Char)
  | 'u' :: '0' :: '0' :: high :: low :: rest =>
    some (.ofNat (16 * hexValue high + hexValue low), rest)
  | letter :: rest => some (unescapeLetter letter, rest)
  | [] => none

/-- Read one character from the front of an escaped text. -/
def readChar : List Char → Option (Char × List Char)
  | [] => none
  | c :: rest => if c = '\\' then readEscape rest else some (c, rest)

theorem hexValue_digitChar {n : Nat} (h : n < 16) : hexValue n.digitChar = n := by
  have hall : ∀ n < 16, hexValue (Nat.digitChar n) = n := by decide
  exact hall n h

theorem readEscape_of_controlLetter? {c letter : Char} (h : controlLetter? c = some letter)
    (rest : List Char) : readEscape (letter :: rest) = some (c, rest) := by
  unfold controlLetter? at h
  split at h <;> cases h <;> rfl

/-- What is read from an escaped character is this character, and all that stands behind it
remains. -/
theorem readChar_escapeChar_append (c : Char) (rest : List Char) :
    readChar (escapeChar c ++ rest) = some (c, rest) := by
  unfold escapeChar
  split
  · next hself => rcases hself with rfl | rfl <;> rfl
  · next hself =>
      have hbackslash : c ≠ '\\' := fun hc => hself (.inr hc)
      split
      · next hcontrol =>
          cases hletter : controlLetter? c with
          | some letter => exact readEscape_of_controlLetter? hletter rest
          | none =>
              have hhigh : hexValue (Nat.digitChar (c.toNat / 16)) = c.toNat / 16 :=
                hexValue_digitChar (by omega)
              have hlow : hexValue (Nat.digitChar (c.toNat % 16)) = c.toNat % 16 :=
                hexValue_digitChar (by omega)
              change some (Char.ofNat (16 * hexValue _ + hexValue _), rest) = _
              rw [hhigh, hlow, Nat.div_add_mod, Char.ofNat_toNat]
      · exact if_neg hbackslash

variable {rest rest' : List Char}

theorem escapeChar_append_inj {c d : Char} (h : escapeChar c ++ rest = escapeChar d ++ rest') :
    c = d ∧ rest = rest' := by
  have hread : some (c, rest) = some (d, rest') := by
    rw [← readChar_escapeChar_append, h, readChar_escapeChar_append]
  simpa using hread

theorem escapeChar_append_ne_quote {c : Char} : escapeChar c ++ rest ≠ '"' :: rest' := by
  intro h
  have hread : some (c, rest) = some ('"', rest') := by
    rw [← readChar_escapeChar_append, h]
    rfl
  obtain rfl : c = '"' := congrArg Prod.fst (Option.some.inj hread)
  exact absurd (List.cons.inj h).1 (by decide)

/-- An escaped text ends at the first quote, so what stands behind this quote can be told from
it. -/
theorem escaped_append_inj {text other : List Char}
    (h : text.flatMap escapeChar ++ '"' :: rest = other.flatMap escapeChar ++ '"' :: rest') :
    text = other ∧ rest = rest' := by
  induction text generalizing other with
  | nil =>
      cases other with
      | nil => exact ⟨rfl, (List.cons.inj h).2⟩
      | cons d others =>
          rw [List.flatMap_cons, List.append_assoc] at h
          exact absurd h.symm escapeChar_append_ne_quote
  | cons c chars ih =>
      cases other with
      | nil =>
          rw [List.flatMap_cons, List.append_assoc] at h
          exact absurd h escapeChar_append_ne_quote
      | cons d others =>
          rw [List.flatMap_cons, List.flatMap_cons, List.append_assoc, List.append_assoc] at h
          obtain ⟨rfl, htail⟩ := escapeChar_append_inj h
          obtain ⟨rfl, hrest⟩ := ih htail
          exact ⟨rfl, hrest⟩

theorem toList_quote_append (s : String) (rest : List Char) :
    (quote s).toList ++ rest = '"' :: (s.toList.flatMap escapeChar ++ '"' :: rest) := by
  simp [quote]

theorem quote_append_inj {s t : String}
    (h : (quote s).toList ++ rest = (quote t).toList ++ rest') : s = t ∧ rest = rest' := by
  rw [toList_quote_append, toList_quote_append] at h
  obtain ⟨htext, hrest⟩ := escaped_append_inj (List.cons.inj h).2
  exact ⟨String.toList_inj.1 htext, hrest⟩

end HeaderSearch.Json
