/-
# Control sequences

A terminal obeys control sequences and does not show them. On an output that is no terminal they
would be noise, so text is freed of them first: of the sequences that begin with an escape
character, and of control characters that do not lay text out.

After the escape character one character says what kind of sequence it is. A control sequence and
a device string have a header of parameters and intermediate characters, which a final character
ends. A device string goes on after its header until a string terminator, as a message does; a
command ends with a bell. A new escape character or a cancel character breaks off every sequence.

`withoutControls_eq_self` says that text in which every character shows is left as it is.
-/

namespace HeaderSearch.Text

/-- The part of a header that is being read, if nothing stands where it must not. -/
inductive Header where
  | start
  | parameters
  | intermediates
  | malformed
  deriving DecidableEq, Repr

/-- The part of the header after one more character, or `none` if the character ends it. Control
characters and characters beyond ASCII have no place in a header and change nothing. -/
def Header.next? (header : Header) (c : Char) : Option Header :=
  if c < ' ' || c > '~' then some header
  else if '@' ≤ c then none
  else match header with
    | .start => some (if c < '0' then .intermediates else .parameters)
    | .parameters =>
      some (if c < '0' then .intermediates else if c < '<' then .parameters else .malformed)
    | .intermediates => some (if c < '0' then .intermediates else .malformed)
    | .malformed => some .malformed

/-- Where in a sequence a text is, if it is in one. What follows the header of a device string is a
message as well. -/
inductive Control where
  | text
  | escape
  | escapeIntermediate
  | sequence (header : Header)
  | device (header : Header)
  | message
  | command
  deriving DecidableEq, Repr

namespace Control

/-- The sequence that a character begins right after an escape character. -/
def ofKind (c : Char) : Control :=
  match c with
  | '[' => .sequence .start
  | 'P' => .device .start
  | ']' => .command
  | 'X' | '^' | '_' => .message
  | _ => .text

/-- Does a character end a message? Messages are read byte by byte, so every character ends one
that has the byte of the string terminator in its encoding. -/
def endsMessage (c : Char) : Bool := (String.utf8EncodeChar c).contains 0x9C

/-- Where the text is after one more character. -/
def next (control : Control) (c : Char) : Control :=
  if c = '\x18' || c = '\x1a' then .text
  else if c = '\x1b' then .escape
  else match control with
    | .text => .text
    | .escape =>
      if c < ' ' || c > '~' then .escape else if c < '0' then .escapeIntermediate else ofKind c
    | .escapeIntermediate => if '0' ≤ c && c ≤ '~' then .text else .escapeIntermediate
    | .sequence header =>
      match header.next? c with
      | some header => .sequence header
      | none => .text
    | .device header =>
      match header.next? c with
      | none | some .malformed => .message
      | some header => .device header
    | .message => if endsMessage c then .text else .message
    | .command => if c = '\x07' then .text else .command

/-- The control characters that lay text out. -/
def isLayout (c : Char) : Bool := c = '\t' || c = '\n' || c = '\x0c' || c = '\r'

/-- Does a character show? Layout characters do so also in the middle of a sequence, unless it is
one that carries a string. -/
def shows (control : Control) (c : Char) : Bool :=
  match control with
  | .text => isLayout c || (' ' ≤ c && c ≠ '\x7f')
  | .escape | .escapeIntermediate | .sequence _ => isLayout c
  | .device _ | .message | .command => false

/-- What shows of a text. Once a character shows, all that follows is shown as if it were in no
sequence, until a character that does not show: there an unfinished sequence goes on. A character
beyond ASCII that shows finishes it. -/
def shown (control : Control) (showing : Bool) : List Char → List Char
  | [] => []
  | c :: rest =>
    if showing then
      if Control.text.shows c then c :: (if c ≤ '\x7f' then control else .text).shown true rest
      else (control.next c).shown false rest
    else if control.shows c then c :: (control.next c).shown true rest
    else (control.next c).shown false rest

end Control

def withoutControls (text : List Char) : List Char := Control.text.shown false text

theorem Control.next_text_of_shows {c : Char} (h : Control.text.shows c) :
    Control.text.next c = .text := by
  have escape : c ≠ '\x1b' := by rintro rfl; simp +decide at h
  simp [Control.next, escape]

theorem Control.shown_text_eq_self {text : List Char} (h : ∀ c ∈ text, Control.text.shows c)
    (showing : Bool) : Control.text.shown showing text = text := by
  induction text generalizing showing with
  | nil => rfl
  | cons c rest ih =>
    have first : Control.text.shows c := h c (by simp)
    have others (showing : Bool) : Control.text.shown showing rest = rest :=
      ih (fun c mem => h c (by simp [mem])) showing
    simp [Control.shown, first, Control.next_text_of_shows first, others]

/-- A text of which every character shows has nothing to be freed of. -/
theorem withoutControls_eq_self {text : List Char} (h : ∀ c ∈ text, Control.text.shows c) :
    withoutControls text = text := Control.shown_text_eq_self h false

/-- A colour is set and reset: both sequences go. -/
example : withoutControls "a\x1b[1;31mb\x1b[0mc".toList = "abc".toList := by decide

/-- A command without its bell takes everything with it. -/
example : withoutControls "a\x1b]0;title\n".toList = ['a'] := by decide

end HeaderSearch.Text
