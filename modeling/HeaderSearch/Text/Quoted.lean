/-
# Quoted text

Paths in diagnostics stand in double quotes and can be read back unambiguously: whatever a
terminal would not show as one visible character of its own is written as an escape. The quote
and the backslash get a backslash; tab, line feed, carriage return and NUL get a letter; every
other character that is unprintable, or that would merge with the one before it, is written with
its code point. Bytes that are not text are written one by one.
-/

import HeaderSearch.Text.Printable
import HeaderSearch.Text.Extending
import HeaderSearch.Text.Utf8

namespace HeaderSearch.Text

/-- The digits of a number in lower-case hexadecimal, without leading zeros. -/
def hexDigits (n : Nat) : List Char := Nat.toDigits 16 n

/-- A byte as two upper-case hexadecimal digits. -/
def hexByte (b : UInt8) : List Char :=
  let digits := (Nat.toDigits 16 b.toNat).map Char.toUpper
  if b < 16 then '0' :: digits else digits

/-- The letter of a character that has a short escape. -/
def escapeLetter? : Char → Option Char
  | '\x00' => some '0'
  | '\t' => some 't'
  | '\n' => some 'n'
  | '\r' => some 'r'
  | '\\' => some '\\'
  | '"' => some '"'
  | _ => none

/-- A character as it stands between the quotes. -/
def quotedChar (c : Char) : List Char :=
  match escapeLetter? c with
  | some letter => ['\\', letter]
  | none =>
    if isExtending c || !isPrintable c then
      ['\\', 'u', '\x7b'] ++ hexDigits c.toNat ++ ['\x7d']
    else [c]

def quotedPiece : Utf8.Piece → List Char
  | .char c => quotedChar c
  | .broken bytes => bytes.flatMap fun b => ['\\', 'x'] ++ hexByte b

/-- Bytes in double quotes, with everything escaped that could not be told apart by eye. -/
def quoted (bytes : List UInt8) : String :=
  String.ofList ('"' :: (Utf8.pieces bytes).flatMap quotedPiece ++ ['"'])

end HeaderSearch.Text
