/-
# Include directives

A directive is a line that begins with `#include` once its blanks are taken off. Files are cut
into lines as bytes and each line is then read as text, so a character cut off at the end of a
line cannot swallow the line feed.

The short name is what the delimiters of a directive enclose. Delimiters are taken off the two
ends only, one quote and one angle bracket at each, and need not match; a name may hold anything
else, and need not be a file name at all.
-/

import HeaderSearch.Include.Names
import HeaderSearch.Text.Blank
import HeaderSearch.Text.Utf8

namespace HeaderSearch.Include

def lineFeed : UInt8 := 0x0A

/-- The word that makes a line a directive. -/
def directive : List Char := "#include".toList

/-- The positions of the line feeds in a byte text that begins at `position`. -/
def lineFeeds (position : Nat) : List UInt8 → List Nat
  | [] => []
  | byte :: rest =>
    if byte = lineFeed then position :: lineFeeds (position + 1) rest
    else lineFeeds (position + 1) rest

/-- Where the lines of a byte text end: in front of each line feed, and where the text ends. -/
def lineEnds (bytes : List UInt8) : List Nat := lineFeeds 0 bytes ++ [bytes.length]

/-- The bounds of the lines with these ends, the first of which starts at `start`. The next line
starts behind the line feed, but never behind the end of the text. -/
def boundsFrom (size start : Nat) : List Nat → List (Nat × Nat)
  | [] => []
  | stop :: stops => (start, stop) :: boundsFrom size (min (stop + 1) size) stops

def lineBounds (bytes : List UInt8) : List (Nat × Nat) :=
  boundsFrom bytes.length 0 (lineEnds bytes)

def lines (bytes : List UInt8) : List (List UInt8) :=
  (lineBounds bytes).map fun (start, stop) => bytes.extract start stop

def trimmedLines (bytes : List UInt8) : List (List Char) :=
  (lines bytes).map fun line => Text.trim (Utf8.lossyChars line)

/-- The directives of a byte text, trimmed, in order. -/
def directives (bytes : List UInt8) : List String :=
  ((trimmedLines bytes).filter directive.isPrefixOf).map String.ofList

def shortNameChars (line : List Char) : List Char :=
  let operand := Text.trim (Text.stripStart directive (Text.trim line))
  Text.stripEnd ['>'] (Text.stripEnd ['"'] (Text.stripStart ['<'] (Text.stripStart ['"'] operand)))

/-- The short name in a directive. -/
def shortName (line : String) : String := String.ofList (shortNameChars line.toList)

def shortNames (bytes : List UInt8) : IncludeNames :=
  .ofList ((directives bytes).map shortName)

/-- The headers whose use calls for linking with the thread and dynamic-loading libraries. -/
def threadHeaders : List String :=
  ["condition_variable", "future", "mutex", "new", "pthread.h", "thread", "dlfcn.h"]

/-- Does any of the names call for the thread libraries? -/
def needsThreads (names : IncludeNames) : Bool := threadHeaders.any (· ∈ names)

example : shortName " #include \"<x>\"\t" = "x" := by decide +kernel

example : shortName "#include <\"y.h\">" = "\"y.h\"" := by decide +kernel

example :
    (shortNames (Utf8.encode "x;\n #include <b.h>\r\n#include \"a.h\"\n#include <b.h>")).toList =
      ["a.h", "b.h"] := by decide +kernel

end HeaderSearch.Include
