/-
# Failures

A failed run explains itself by a chain of messages, from what it was about to do down to the
cause. The first message stands alone; causes are listed below it, numbered if there are several,
and a message of several lines stays within its column.
-/

namespace HeaderSearch.CommandLine

/-- Why a run failed: what it was doing, then the causes, the last one deepest. -/
structure Failure where
  message : String
  causes : List String
  deriving DecidableEq, Repr

namespace Failure

/-- A text with a mark before its first line and blanks of a given width before every other. -/
def hang (mark : String) (width : Nat) (text : String) : String :=
  let separator := '\n' :: List.replicate width ' '
  mark ++ String.ofList (separator.intercalate (text.toList.splitOn '\n'))

/-- The mark of the `n`th of several causes. -/
def mark (n : Nat) : String :=
  let digits := Nat.toDigits 10 n
  String.ofList (List.replicate (5 - digits.length) ' ' ++ digits ++ [':', ' '])

def causeLines (failure : Failure) : List String :=
  match failure.causes with
  | [cause] => [hang "    " 4 cause]
  | causes => causes.mapIdx fun n cause => hang (mark n) 7 cause

def render (failure : Failure) : String :=
  let first := "Error: " ++ failure.message ++ "\n"
  if failure.causes = [] then first
  else first ++ "\nCaused by:\n" ++ String.join (failure.causeLines.map (· ++ "\n"))

end Failure

end HeaderSearch.CommandLine
