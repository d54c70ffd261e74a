/-
# Patterns as they are written

A pattern is first read into a tree that follows its written form, every part with its span. What
the parts mean, and whether they mean anything, is decided later: the tree knows nothing of flags
in force, of the characters in a class, or of what a pattern matches.
-/

import HeaderSearch.Pattern.Position
import HeaderSearch.Text.CodeRange

namespace HeaderSearch.Pattern

/-- What can be turned on and off within a pattern: letters match in either case, the line
assertions hold at every line, the dot matches line feeds too, repetitions prefer few rounds unless
they are marked, the pattern is about characters and not about bytes, lines may end with carriage
returns, blanks and comments in the pattern are skipped. -/
inductive Flag where
  | eitherCase
  | lines
  | dotAll
  | swapGreed
  | unicode
  | returns
  | verbose
  deriving DecidableEq, Repr

def Flag.ofLetter? : Char → Option Flag
  | 'i' => some .eitherCase
  | 'm' => some .lines
  | 's' => some .dotAll
  | 'U' => some .swapGreed
  | 'u' => some .unicode
  | 'R' => some .returns
  | 'x' => some .verbose
  | _ => none

abbrev FlagChanges := List (Flag × Bool)

/-- What can be asserted about a place in the text: a line, the text or a word begins or ends here,
or not. The halves look for word characters on one side only. -/
inductive Assertion where
  | lineStart
  | lineEnd
  | textStart
  | textEnd
  | boundary
  | noBoundary
  | wordStart
  | wordEnd
  | wordStartHalf
  | wordEndHalf
  deriving DecidableEq, Repr

/-- A single character. It is a byte if it is written as the two hexadecimal digits of one. -/
structure Literal where
  span : Span
  char : Char
  isByte : Bool
  deriving DecidableEq, Repr

/-- The sets of characters that have a letter of their own: digits, blanks, and letters with digits
and the underscore. -/
inductive Shorthand where
  | digit
  | space
  | word
  deriving DecidableEq, Repr

/-- What two sets of characters are combined by. -/
inductive ClassOp where
  | intersection
  | difference
  | symmetricDifference
  deriving DecidableEq, Repr

/-- A set of characters, or all others if it is `negated`. -/
inductive CharClass where
  | empty (span : Span)
  | literal (literal : Literal)
  | range (span : Span) (first last : Literal)
  | named (span : Span) (ranges : Text.CodeRanges) (negated : Bool)
  | shorthand (span : Span) (kind : Shorthand) (negated : Bool)
  | property (span : Span) (query : List Char)
  | bracketed (span : Span) (negated : Bool) (contents : CharClass)
  | union (span : Span) (members : List CharClass)
  | combined (span : Span) (op : ClassOp) (left right : CharClass)

def CharClass.span : CharClass → Span
  | .empty span => span
  | .literal value => value.span
  | .range span _ _ => span
  | .named span _ _ => span
  | .shorthand span _ _ => span
  | .property span _ => span
  | .bracketed span _ _ => span
  | .union span _ => span
  | .combined span _ _ _ => span

/-- What a group is for: it captures what it matches, counted from one, or flags are in force within
it. -/
inductive GroupKind where
  | capture (index : Nat)
  | flags (changes : FlagChanges)
  deriving DecidableEq, Repr

/-- A pattern as it is written. Flags on their own are in force to the end of the group, and a part
is repeated as often as possible if it is `greedy`. -/
inductive Written where
  | empty (span : Span)
  | flags (span : Span) (changes : FlagChanges)
  | literal (literal : Literal)
  | dot (span : Span)
  | assertion (span : Span) (kind : Assertion)
  | charClass (set : CharClass)
  | repeated (span : Span) (greedy : Bool) (least : Nat) (most? : Option Nat) (part : Written)
  | group (span : Span) (kind : GroupKind) (part : Written)
  | alternation (span : Span) (parts : List Written)
  | sequence (span : Span) (parts : List Written)

def Written.span : Written → Span
  | .empty span => span
  | .flags span _ => span
  | .literal value => value.span
  | .dot span => span
  | .assertion span _ => span
  | .charClass set => set.span
  | .repeated span _ _ _ _ => span
  | .group span _ _ => span
  | .alternation span _ => span
  | .sequence span _ => span

/-- The sets of ASCII characters that have names. -/
def namedRanges : List (String × Text.CodeRanges) :=
  [("alnum", [(0x30, 0x39), (0x41, 0x5A), (0x61, 0x7A)]),
    ("alpha", [(0x41, 0x5A), (0x61, 0x7A)]),
    ("ascii", [(0x00, 0x7F)]),
    ("blank", [(0x09, 0x09), (0x20, 0x20)]),
    ("cntrl", [(0x00, 0x1F), (0x7F, 0x7F)]),
    ("digit", [(0x30, 0x39)]),
    ("graph", [(0x21, 0x7E)]),
    ("lower", [(0x61, 0x7A)]),
    ("print", [(0x20, 0x7E)]),
    ("punct", [(0x21, 0x2F), (0x3A, 0x40), (0x5B, 0x60), (0x7B, 0x7E)]),
    ("space", [(0x09, 0x0D), (0x20, 0x20)]),
    ("upper", [(0x41, 0x5A)]),
    ("word", [(0x30, 0x39), (0x41, 0x5A), (0x5F, 0x5F), (0x61, 0x7A)]),
    ("xdigit", [(0x30, 0x39), (0x41, 0x46), (0x61, 0x66)])]

def Shorthand.ranges : Shorthand → Text.CodeRanges
  | .digit => [(0x30, 0x39)]
  | .space => [(0x09, 0x0D), (0x20, 0x20)]
  | .word => [(0x30, 0x39), (0x41, 0x5A), (0x5F, 0x5F), (0x61, 0x7A)]

end HeaderSearch.Pattern
