/-
# Command-line arguments

Arguments are read from left to right. Flags may stand anywhere, `--root` takes the next argument
whatever it looks like, and of the arguments that are not flags the first is the command and the
second a directory. An empty argument before the command is passed over.
-/

namespace HeaderSearch.CommandLine

/-- What the arguments ask for: a word for the command and a directory, if they were given, further
include roots in order, and whether the run shall say what it does and write a JSON report. -/
structure Invocation where
  command? : Option String
  dir? : Option String
  roots : List String
  verbose : Bool
  json : Bool
  deriving DecidableEq, Repr

/-- Why arguments are refused: nothing follows `--root`, an argument looks like a flag and is none,
or there is a command and a directory already. -/
inductive ArgumentError where
  | rootWithoutDirectory
  | unknownFlag (argument : String)
  | unexpected (argument : String)
  deriving DecidableEq, Repr

def ArgumentError.message : ArgumentError → String
  | .rootWithoutDirectory => "--root needs a directory"
  | .unknownFlag argument => "unknown flag: " ++ argument
  | .unexpected argument => "unexpected argument: " ++ argument

/-- What is left of the text behind `start`, if it begins so. -/
def behind? (start text : String) : Option String :=
  if start.toList.isPrefixOf text.toList then
    some (String.ofList (text.toList.drop start.toList.length))
  else none

namespace Invocation

def empty : Invocation := ⟨none, none, [], false, false⟩

/-- Take in an argument that is not a flag. -/
def addWord (inv : Invocation) (word : String) : Except ArgumentError Invocation :=
  match inv.command?, inv.dir? with
  | none, _ => .ok (if word = "" then inv else { inv with command? := some word })
  | some _, none => .ok { inv with dir? := some word }
  | some _, some _ => .error (.unexpected word)

def parseFrom (inv : Invocation) : List String → Except ArgumentError Invocation
  | [] => .ok inv
  | argument :: rest =>
    if argument = "-v" ∨ argument = "--verbose" then parseFrom { inv with verbose := true } rest
    else if argument = "--json" then parseFrom { inv with json := true } rest
    else if argument = "--root" then
      match rest with
      | [] => .error .rootWithoutDirectory
      | dir :: rest => parseFrom { inv with roots := inv.roots ++ [dir] } rest
    else match behind? "--root=" argument with
      | some dir => parseFrom { inv with roots := inv.roots ++ [dir] } rest
      | none =>
        if (behind? "-" argument).isSome then .error (.unknownFlag argument)
        else match inv.addWord argument with
          | .ok inv => parseFrom inv rest
          | .error error => .error error

/-- Read the arguments of a run. -/
def parse (arguments : List String) : Except ArgumentError Invocation := empty.parseFrom arguments

end Invocation

/-- What a run does. -/
inductive Command where
  | scan
  | catalog
  | resolve
  | threads
  | config
  | help
  deriving DecidableEq, Repr

/-- The command that a word names. Everything that is no command asks for help. -/
def Command.ofWord (word : String) : Command :=
  if word = "scan" then .scan
  else if word = "catalog" then .catalog
  else if word = "resolve" then .resolve
  else if word = "threads" then .threads
  else if word = "config" then .config
  else .help

/-- The word for the command; without one the run explains the program. -/
def Invocation.word (inv : Invocation) : String := inv.command?.getD "help"

def Invocation.command (inv : Invocation) : Command := .ofWord inv.word

end HeaderSearch.CommandLine
