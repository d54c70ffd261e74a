/-
# Selecting log entries

Which entries are shown is written in one line: directives between commas, and after a slash a
pattern that has to occur in every message shown. A directive sets the least important level that
is shown, for the entries whose target begins with its name, or for all if it has no name. Of the
directives that apply, the one with the longest name decides.

A directive or a pattern that cannot be read is left out with a warning. If no directive is left,
only errors are shown. What patterns there are and what they mean is no matter of the filter: it is
handed what reads them.
-/

import HeaderSearch.Log.Basic
import HeaderSearch.Text.Blank
import HeaderSearch.Text.ControlSequence

namespace HeaderSearch.Log

def lineVariable : String := "RUST_LOG"

/-- The least important level that is shown, or `none` if nothing is. -/
abbrev Threshold := Option Level

def Threshold.shows (threshold : Threshold) (level : Level) : Bool :=
  match threshold with
  | none => false
  | some least => level.rank ≤ least.rank

def thresholds : List (String × Threshold) :=
  [("OFF", none), ("ERROR", some .error), ("WARN", some .warn), ("INFO", some .info),
    ("DEBUG", some .debug), ("TRACE", some .trace)]

/-- The threshold that a word names, in either case of its ASCII letters. -/
def Threshold.ofWord? (word : List Char) : Option Threshold :=
  thresholds.lookup (String.ofList (word.map Char.toUpper))

/-- A threshold for the entries whose target begins with a name, or for all if there is no name. -/
structure Directive where
  name? : Option String
  threshold : Threshold
  deriving DecidableEq, Repr

/-- What reads patterns: it makes a test of texts, or says why a pattern is refused. -/
abbrev PatternReader := List Char → Except String (String → Bool)

/-- Why a part of the line is left out: it is no directive, there is more than one slash in the
line, or what follows the slash is refused as a pattern. -/
inductive FilterWarning where
  | badDirective (text : String)
  | tooManySlashes (line : String)
  | badPattern (refusal : String)
  deriving DecidableEq, Repr

def FilterWarning.message : FilterWarning → String
  | .badDirective text => "warning: invalid logging spec '" ++ text ++ "', ignoring it"
  | .tooManySlashes line =>
    "warning: invalid logging spec '" ++ line ++ "' (too many '/'s), ignoring it"
  | .badPattern refusal => "warning: invalid regex filter - " ++ refusal ++ ", ignoring it"

/-- Read a directive: a threshold, a name, or both with `=` between them. A name alone shows
everything. -/
def Directive.parse (text : List Char) : Except FilterWarning Directive :=
  match text.splitOn '=' with
  | [word] =>
    match Threshold.ofWord? word with
    | some threshold => .ok ⟨none, threshold⟩
    | none => .ok ⟨some (String.ofList word), some .trace⟩
  | [name, word] =>
    let word := Text.trim word
    if word = [] then .ok ⟨some (String.ofList name), some .trace⟩
    else match Threshold.ofWord? word with
      | some threshold => .ok ⟨some (String.ofList name), threshold⟩
      | none => .error (.badDirective (String.ofList word))
  | _ => .error (.badDirective (String.ofList text))

/-- Which entries are shown: the directives, at most one for each name, in the order in which they
were first given, and the test that a message has to pass. -/
structure Filter where
  directives : List Directive
  pattern? : Option (String → Bool)

namespace Filter

/-- Add a directive. It takes the place of an earlier one for the same name. -/
def insert (directives : List Directive) (directive : Directive) : List Directive :=
  if directives.any (·.name? = directive.name?) then
    directives.map fun d => if d.name? = directive.name? then directive else d
  else directives ++ [directive]

/-- Read the directives between commas, and say which cannot be read. -/
def parseDirectives (text : List Char) : List Directive × List FilterWarning :=
  let parsed := (((text.splitOn ',').map Text.trim).filter (· ≠ [])).map Directive.parse
  (parsed.foldl (fun directives result =>
      match result with
      | .ok directive => insert directives directive
      | .error _ => directives) [],
    parsed.filterMap fun result =>
      match result with
      | .ok _ => none
      | .error warning => some warning)

/-- Read a line of directives. -/
def parse (read : PatternReader) (line : String) : Filter × List FilterWarning :=
  match line.toList.splitOn '/' with
  | text :: pattern :: [] =>
    let (directives, warnings) := parseDirectives text
    match read pattern with
    | .ok occursIn => (⟨directives, some occursIn⟩, warnings)
    | .error refusal => (⟨directives, none⟩, warnings ++ [.badPattern refusal])
  | [text] =>
    let (directives, warnings) := parseDirectives text
    (⟨directives, none⟩, warnings)
  | _ => (⟨[], none⟩, [.tooManySlashes line])

/-- The directive that decides about a target: the longest name that the target begins with, and
of names equally long the last. -/
def threshold (filter : Filter) (target : String) : Threshold :=
  let directives :=
    if filter.directives = [] then [⟨none, some .error⟩] else filter.directives
  let length (d : Directive) : Nat := (d.name?.map String.utf8ByteSize).getD 0
  let ordered := directives.mergeSort fun a b => length a ≤ length b
  match ordered.reverse.find? fun d => (d.name?.getD "").toList.isPrefixOf target.toList with
  | some directive => directive.threshold
  | none => none

def shows (filter : Filter) (entry : Entry) : Bool :=
  (filter.threshold entry.source.target).shows entry.level &&
    filter.pattern?.all (· entry.message)

end Filter

/-- An entry as one line, or as several with the further ones indented, and without the control
sequences that it has from the names in it. -/
def Entry.render (entry : Entry) : String :=
  let level := entry.level.word.toList
  let padded := level ++ List.replicate (5 - level.length) ' '
  let message := "\n    ".toList.intercalate (entry.message.toList.splitOn '\n')
  String.ofList (Text.withoutControls
    ('[' :: padded ++ ' ' :: entry.source.target.toList ++ "] ".toList ++ message ++ ['\n']))

end HeaderSearch.Log
