/-
# Byte sequences of character ranges

A range of characters is, in UTF-8, a list of sequences of byte ranges: a text of one character of
the range is a byte of the first range, then one of the second, and so on. Ranges are cut where
the number of bytes changes, at the surrogates, and where trailing bytes do not run through all
their values.
-/

import HeaderSearch.Text.CodeRange

namespace HeaderSearch.Pattern

/-- A sequence of byte ranges. -/
abbrev ByteRanges := List (Nat × Nat)

/-- The greatest code points of one, two and three bytes. -/
def lastOfSize : List Nat := [0x7F, 0x7FF, 0xFFFF]

/-- Where a range of code points has to be cut because of its trailing bytes: the last code point
of the first part. `bits` are the bits of one, two or three trailing bytes. -/
def cutAt? (low high bits : Nat) : Option Nat :=
  let width := Nat.pow 2 bits
  if low / width = high / width then none
  else if low % width ≠ 0 then some (low / width * width + (width - 1))
  else if high % width ≠ width - 1 then some (high / width * width - 1)
  else none

/-- The last code point of the first part of a range that has to be cut. -/
def cut? (low high : Nat) : Option Nat :=
  match lastOfSize.find? fun last => low ≤ last && last < high with
  | some last => some last
  | none => if high ≤ 0x7F then none else [6, 12, 18].findSome? (cutAt? low high)

def codeBytes (code : Nat) : List Nat :=
  if code ≤ 0x7F then [code]
  else if code ≤ 0x7FF then [0xC0 + code / 64, 0x80 + code % 64]
  else if code ≤ 0xFFFF then [0xE0 + code / 4096, 0x80 + code / 64 % 64, 0x80 + code % 64]
  else [0xF0 + code / 262144, 0x80 + code / 4096 % 64, 0x80 + code / 64 % 64, 0x80 + code % 64]

/-- The sequences of a range without surrogates, in ascending order. At most `limit` cuts are
made. -/
def sequencesOf (low high : Nat) : Nat → List ByteRanges
  | 0 => []
  | limit + 1 =>
    if high < low then []
    else match cut? low high with
      | some last => sequencesOf low last limit ++ sequencesOf (last + 1) high limit
      | none => [(codeBytes low).zip (codeBytes high)]

/-- The sequences of a range of characters, in ascending order. A range is cut at most three times
for its size and six times for its trailing bytes. -/
def byteSequences (low high : Nat) : List ByteRanges :=
  sequencesOf low (min high 0xD7FF) 16 ++ sequencesOf (max low 0xE000) high 16

def allByteSequences (ranges : Text.CodeRanges) : List ByteRanges :=
  ranges.flatMap fun range => byteSequences range.1 range.2

/-- All characters but ASCII. -/
example : byteSequences 0x80 0x10FFFF =
    [[(0xC2, 0xDF), (0x80, 0xBF)],
      [(0xE0, 0xE0), (0xA0, 0xBF), (0x80, 0xBF)],
      [(0xE1, 0xEC), (0x80, 0xBF), (0x80, 0xBF)],
      [(0xED, 0xED), (0x80, 0x9F), (0x80, 0xBF)],
      [(0xEE, 0xEF), (0x80, 0xBF), (0x80, 0xBF)],
      [(0xF0, 0xF0), (0x90, 0xBF), (0x80, 0xBF), (0x80, 0xBF)],
      [(0xF1, 0xF3), (0x80, 0xBF), (0x80, 0xBF), (0x80, 0xBF)],
      [(0xF4, 0xF4), (0x80, 0x8F), (0x80, 0xBF), (0x80, 0xBF)]] := by decide +kernel

end HeaderSearch.Pattern
