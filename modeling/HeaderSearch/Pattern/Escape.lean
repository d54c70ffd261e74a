/-
# Escapes

After a backslash a character means something else than itself: a character that would otherwise
have a meaning stands for itself, and letters stand for control characters, code points, sets of
characters and assertions. ASCII letters and digits without such a meaning are mistakes, and so is
every character beyond ASCII.
-/

import HeaderSearch.Pattern.Cursor

namespace HeaderSearch.Pattern

def isHexDigit (c : Char) : Bool :=
  ('0' ≤ c && c ≤ '9') || ('a' ≤ c && c ≤ 'f') || ('A' ≤ c && c ≤ 'F')

def hexDigitValue (c : Char) : Nat :=
  if c ≤ '9' then c.toNat - 0x30 else if c ≤ 'F' then c.toNat - 0x37 else c.toNat - 0x57

def charOfHex? (digits : List Char) : Option Char :=
  let code := digits.foldl (fun value digit => 16 * value + hexDigitValue digit) 0
  if code.isValidChar then some (Char.ofNat code) else none

def controlLetters : List (Char × Char) :=
  [('a', '\x07'), ('f', '\x0c'), ('t', '\t'), ('n', '\n'), ('r', '\r'), ('v', '\x0b')]

def assertionLetters : List (Char × Assertion) :=
  [('A', .textStart), ('z', .textEnd), ('b', .boundary), ('B', .noBoundary), ('<', .wordStart),
    ('>', .wordEnd)]

def boundaryNames : List (String × Assertion) :=
  [("start", .wordStart), ("end", .wordEnd), ("start-half", .wordStartHalf),
    ("end-half", .wordEndHalf)]

/-- The set that a letter stands for, and whether it is the set of all other characters. -/
def shorthandOf? : Char → Option (Shorthand × Bool)
  | 'd' => some (.digit, false)
  | 'D' => some (.digit, true)
  | 's' => some (.space, false)
  | 'S' => some (.space, true)
  | 'w' => some (.word, false)
  | 'W' => some (.word, true)
  | _ => none

def standsForItself (c : Char) : Bool :=
  c ≤ '\x7f' && !c.isAlphanum && c ≠ '<' && c ≠ '>'

def isBoundaryLetter (c : Char) : Bool := c.isAlpha || c = '-'

namespace Read

/-- Read a given number of hexadecimal digits, and the blanks after each. -/
def hexDigits : Nat → Read (List Char)
  | 0 => return []
  | count + 1 => do
    match ← next? with
    | none => fail .escapeUnfinished (← here)
    | some c =>
      unless isHexDigit c do fail .codeDigit (← nextSpan)
      let more ← advance
      if !more && count ≠ 0 then fail .escapeUnfinished (← here)
      return c :: (← hexDigits count)

def fixedCode (start : Position) (count : Nat) : Read Written := do
  let first ← position
  let digits ← hexDigits count
  match charOfHex? digits with
  | none => fail .codeInvalid (← since first)
  | some c => return .literal ⟨← since start, c, count = 2⟩

def bracedCode (start : Position) : Read Written := do
  let brace ← nextSpan
  discard advance
  let digits ← collect isHexDigit
  match ← next? with
  | none => fail .escapeUnfinished (← since brace.start)
  | some '\x7d' =>
    let inner : Span := ⟨brace.finish, ← position⟩
    discard advance
    if digits = [] then fail .codeEmpty (← since brace.start)
    match charOfHex? digits with
    | none => fail .codeInvalid inner
    | some c => return .literal ⟨← since start, c, false⟩
  | some _ => fail .codeDigit (← nextSpan)

/-- Read a code point after its letter, which says how many digits it has without braces. -/
def code (start : Position) (count : Nat) : Read Written := do
  unless ← advance do fail .escapeUnfinished (← here)
  if (← next?) = some '\x7b' then bracedCode start else fixedCode start count

/-- Read the property of a set of characters, which is one letter or stands in braces. -/
def property (start : Position) : Read Written := do
  unless ← advance do fail .escapeUnfinished (← here)
  match ← next? with
  | some '\x7b' =>
    discard advance
    let query ← collect (· ≠ '\x7d')
    if ← isDone then fail .escapeUnfinished (← here)
    bump
    return .charClass (.property (← since start) query)
  | some '\\' => fail .propertyLetter (← nextSpan)
  | some c =>
    discard advance
    return .charClass (.property (← since start) [c])
  | none => fail .escapeUnfinished (← here)

/-- Read the kind of a word boundary in braces. If what the brace opens is no name, nothing is
read: it is a count then. -/
def boundaryKind? (start : Position) : Read (Option Assertion) := do
  let before ← get
  unless ← advance do fail .boundaryUnfinished (← since start)
  let first ← position
  let name ← collect isBoundaryLetter
  if name = [] then
    set before
    return none
  unless (← next?) = some '\x7d' do fail .boundaryUnclosed (← since before.position)
  let span ← since first
  bump
  match boundaryNames.lookup (String.ofList name) with
  | some kind => return some kind
  | none => fail .boundaryUnknown span

/-- Read an assertion after its letter. -/
def assertion (start : Position) (kind : Assertion) : Read Written := do
  if kind = .boundary && (← next?) = some '\x7b' then
    let kind? ← boundaryKind? start
    return .assertion (← since start) (kind?.getD kind)
  else return .assertion (← since start) kind

def escape : Read Written := do
  let start ← position
  bump
  match ← next? with
  | none => fail .escapeUnfinished (← since start)
  | some c =>
    if c.isDigit then fail .backreference ⟨start, (← nextSpan).finish⟩
    match c with
    | 'x' => code start 2
    | 'u' => code start 4
    | 'U' => code start 8
    | 'p' | 'P' => property start
    | _ =>
      bump
      let span ← since start
      if let some (kind, negated) := shorthandOf? c then
        return .charClass (.shorthand span kind negated)
      else if standsForItself c then return .literal ⟨span, c, false⟩
      else if let some control := controlLetters.lookup c then
        return .literal ⟨span, control, false⟩
      else if let some kind := assertionLetters.lookup c then assertion start kind
      else fail .escapeUnknown span

end Read

end HeaderSearch.Pattern
