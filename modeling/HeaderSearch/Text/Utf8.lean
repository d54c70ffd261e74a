/-
# Reading bytes as text

File names and file contents are bytes, and any bytes may occur in them. Read as UTF-8 they fall
into pieces: complete characters, and broken pieces that start like a character and do not go on
like one. A broken piece is as long as it can be, so that a character cut off in the middle is
one broken piece and not several.

Everything that is shown or compared as text goes through these pieces. The lossy reading shows
the replacement character for each broken piece; the strict reading exists only if nothing is
broken.
-/

namespace HeaderSearch.Utf8

/-- A piece of a byte sequence that is read as text: a complete character, or bytes that begin no
character or one that is not finished. -/
inductive Piece where
  | char (c : Char)
  | broken (bytes : List UInt8)
  deriving DecidableEq, Repr

/-- A character of which the first bytes have been read: these bytes, latest first, the bits they
contribute to the code point, how many more are due after the next one, and the bounds of the next
one. -/
structure Started where
  seen : List UInt8
  value : Nat
  due : Nat
  low : UInt8
  high : UInt8
  deriving DecidableEq, Repr

/-- The character that a byte starts, if it can be the first of several. The bounds on the second
byte leave out overlong forms, surrogates and values beyond the last code point. -/
def start? (b : UInt8) : Option Started :=
  if b < 0xC2 then none
  else if b < 0xE0 then some ⟨[b], b.toNat - 0xC0, 0, 0x80, 0xBF⟩
  else if b < 0xF0 then
    some ⟨[b], b.toNat - 0xE0, 1, if b = 0xE0 then 0xA0 else 0x80, if b = 0xED then 0x9F else 0xBF⟩
  else if b < 0xF5 then
    some ⟨[b], b.toNat - 0xF0, 2, if b = 0xF0 then 0x90 else 0x80, if b = 0xF4 then 0x8F else 0xBF⟩
  else none

/-- Read one byte between two characters: the pieces it completes and the character it starts. -/
def begin (b : UInt8) : List Piece × Option Started :=
  if b < 0x80 then ([.char (Char.ofNat b.toNat)], none)
  else match start? b with
    | some started => ([], some started)
    | none => ([.broken [b]], none)

/-- Read one byte in the middle of a character. A byte that cannot continue it breaks it off, and
is then read as the first byte of what follows. -/
def Started.next (s : Started) (b : UInt8) : List Piece × Option Started :=
  if s.low ≤ b ∧ b ≤ s.high then
    let value := s.value * 64 + (b.toNat - 0x80)
    match s.due with
    | 0 => ([.char (Char.ofNat value)], none)
    | due + 1 => ([], some ⟨b :: s.seen, value, due, 0x80, 0xBF⟩)
  else
    let (pieces, started) := begin b
    (.broken s.seen.reverse :: pieces, started)

def step : Option Started → UInt8 → List Piece × Option Started
  | none, b => begin b
  | some s, b => s.next b

/-- The pieces of the rest of a byte sequence. An unfinished character at the end is broken. -/
def piecesFrom : Option Started → List UInt8 → List Piece
  | none, [] => []
  | some s, [] => [.broken s.seen.reverse]
  | state, b :: rest => (step state b).1 ++ piecesFrom (step state b).2 rest

/-- The pieces of a byte sequence, in order and without a gap. -/
def pieces (bytes : List UInt8) : List Piece := piecesFrom none bytes

/-- What is shown for a piece: the character, or the replacement character U+FFFD. -/
def Piece.shown : Piece → Char
  | .char c => c
  | .broken _ => '\uFFFD'

/-- The lossy reading: one character for each piece. -/
def lossyChars (bytes : List UInt8) : List Char := (pieces bytes).map Piece.shown

def lossy (bytes : List UInt8) : String := String.ofList (lossyChars bytes)

def Piece.isChar : Piece → Bool
  | .char _ => true
  | .broken _ => false

/-- The strict reading, which exists only if no piece is broken. -/
def text? (bytes : List UInt8) : Option String :=
  if (pieces bytes).all Piece.isChar then some (lossy bytes) else none

def encodeChars (text : List Char) : List UInt8 := text.flatMap String.utf8EncodeChar

def encode (s : String) : List UInt8 := encodeChars s.toList

/-- A crab with its last byte missing is one broken piece; the byte FF is one of its own. -/
example : pieces [0x61, 0xF0, 0x9F, 0xA6, 0xFF, 0xC3, 0xA9] =
    [.char 'a', .broken [0xF0, 0x9F, 0xA6], .broken [0xFF], .char 'é'] := by decide

/-- A surrogate is no character: its first byte and its second are broken on their own. -/
example : lossyChars [0xED, 0xA0, 0x80] = ['\uFFFD', '\uFFFD', '\uFFFD'] := by decide

end HeaderSearch.Utf8
