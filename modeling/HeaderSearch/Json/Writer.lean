/-
# Writing JSON

Values are written either in one line without blanks, or laid out with one element to a line and
two spaces for each level. In texts only the quote, the backslash and the characters below the
space are escaped, with a letter where there is one.

Writing goes from left to right and stops at the first thing that cannot be written. What was
written before it stands.
-/

import HeaderSearch.Json.Value

namespace HeaderSearch.Json

/-- The letter of a control character that has a short escape. -/
def controlLetter? : Char → Option Char
  | '\x08' => some 'b'
  | '\t' => some 't'
  | '\n' => some 'n'
  | '\x0c' => some 'f'
  | '\r' => some 'r'
  | _ => none

def escapeChar (c : Char) : List Char :=
  if c = '"' ∨ c = '\\' then ['\\', c]
  else if c.toNat < 0x20 then
    match controlLetter? c with
    | some letter => ['\\', letter]
    | none => "\\u00".toList ++ [Nat.digitChar (c.toNat / 16), Nat.digitChar (c.toNat % 16)]
  else [c]

def quote (s : String) : String := String.ofList ('"' :: s.toList.flatMap escapeChar ++ ['"'])

/-- A part of the written form of a value: text, or the point at which writing has to stop. -/
inductive Piece where
  | text (s : String)
  | stop
  deriving DecidableEq, Repr

/-- How values are laid out: in one line, or with every element on a line of its own at a depth. -/
inductive Layout where
  | compact
  | lines (depth : Nat)
  deriving DecidableEq, Repr

def Layout.inner : Layout → Layout
  | .compact => .compact
  | .lines depth => .lines (depth + 1)

/-- What stands between a bracket or a comma and an element. -/
def Layout.gap : Layout → Piece
  | .compact => .text ""
  | .lines depth => .text ("\n" ++ String.ofList (List.replicate (2 * depth) ' '))

def Layout.colon : Layout → String
  | .compact => ":"
  | .lines _ => ": "

mutual

/-- The written form of a value, in pieces. -/
def Value.pieces (layout : Layout) : Value → List Piece
  | .bool b => [.text (if b then "true" else "false")]
  | .num n => [.text (String.ofList (Nat.toDigits 10 n))]
  | .str s => [.text (quote s)]
  | .unwritable => [.stop]
  | .arr [] => [.text "[]"]
  | .arr (value :: values) =>
    [.text "[", layout.inner.gap] ++ Value.pieces layout.inner value ++
      Value.elementPieces layout.inner values ++ [layout.gap, .text "]"]
  | .obj [] => [.text "\x7b\x7d"]
  | .obj ((name, value) :: members) =>
    [.text "\x7b", layout.inner.gap, .text (quote name ++ layout.inner.colon)] ++
      Value.pieces layout.inner value ++ Value.memberPieces layout.inner members ++
      [layout.gap, .text "\x7d"]

def Value.elementPieces (layout : Layout) : List Value → List Piece
  | [] => []
  | value :: values =>
    [.text ",", layout.gap] ++ Value.pieces layout value ++ Value.elementPieces layout values

def Value.memberPieces (layout : Layout) : List (String × Value) → List Piece
  | [] => []
  | (name, value) :: members =>
    [.text ",", layout.gap, .text (quote name ++ layout.colon)] ++
      Value.pieces layout value ++ Value.memberPieces layout members

end

def Piece.isText : Piece → Bool
  | .text _ => true
  | .stop => false

def Piece.string : Piece → String
  | .text s => s
  | .stop => ""

/-- Why a value cannot be written. -/
inductive WriteError where
  | pathNotText
  deriving DecidableEq, Repr

def WriteError.message : WriteError → String
  | .pathNotText => "path contains invalid UTF-8 characters"

/-- What is written of a value before writing has to stop, and why it has to, if it does. -/
structure Written where
  text : String
  error? : Option WriteError
  deriving DecidableEq, Repr

/-- Write a value from left to right. -/
def Value.write (layout : Layout) (value : Value) : Written :=
  let pieces := value.pieces layout
  let written := pieces.takeWhile Piece.isText
  ⟨String.join (written.map Piece.string),
    if written.length = pieces.length then none else some .pathNotText⟩

/-- The complete written form of a value, if it has one. -/
def Written.complete (written : Written) : Except WriteError String :=
  match written.error? with
  | none => .ok written.text
  | some error => .error error

/-- The value in one line. -/
def Value.compact (value : Value) : Except WriteError String := (value.write .compact).complete

/-- The value laid out over several lines. -/
def Value.pretty (value : Value) : Except WriteError String := (value.write (.lines 0)).complete

end HeaderSearch.Json
