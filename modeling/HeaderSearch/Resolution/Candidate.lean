/-
# Ranking candidates

A name that is found nowhere else is looked for at the end of catalogued paths, and one of the
paths that end with it is chosen. Paths that contain a keyword come first: of these the shortest
counts in bytes is best, and of two that are equally long the one later in the alphabet. Of paths
without the keyword the earliest in the alphabet is best.
-/

namespace HeaderSearch.Candidate

/-- What marks the location of a C++ header. -/
def cxxKeyword : String := "++"

def occursIn (keyword : List Char) : List Char → Bool
  | [] => keyword.isEmpty
  | c :: rest => keyword.isPrefixOf (c :: rest) || occursIn keyword rest

def hasKeyword (keyword candidate : String) : Bool := occursIn keyword.toList candidate.toList

/-- The ranking of two candidates, where the greater is the better. -/
def rank (keyword a b : String) : Ordering :=
  match hasKeyword keyword a, hasKeyword keyword b with
  | true, false => .gt
  | false, true => .lt
  | true, true => (compare b.utf8ByteSize a.utf8ByteSize).then (compare a b)
  | false, false => compare b a

/-- The better of two candidates; of two that rank alike, the second. -/
def better (keyword a b : String) : String := if rank keyword a b = .gt then a else b

/-- The best of the candidates, if there are any. -/
def best? (keyword : String) : List String → Option String
  | [] => none
  | first :: rest => some (rest.foldl (better keyword) first)

example : best? "++" ["/usr/include/c++/11/tr1/memory", "/usr/include/c++/11/memory",
    "/usr/include/memory"] = some "/usr/include/c++/11/memory" := by decide +kernel

example : best? "++" ["/b/x/foo.h", "/a/long/dir/foo.h"] = some "/a/long/dir/foo.h" := by
  decide +kernel

end HeaderSearch.Candidate
