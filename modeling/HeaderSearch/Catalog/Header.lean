/-
# Which files are headers

A file below an include root is a header if its extension says so, in either case, or if the text
of its path ends with one of the listed names. The second rule admits the headers that have no
extension; it compares text and knows nothing of separators, so a listed name also admits longer
file names that end with it.
-/

import HeaderSearch.Path.Extension

namespace HeaderSearch

def headerExtensions : List (List UInt8) :=
  [Utf8.encode "h", Utf8.encode "hpp", Utf8.encode "hh", Utf8.encode "h++"]

def Path.hasHeaderExtension (path : Path) : Bool :=
  match path.extension? with
  | some ext => headerExtensions.any (sameLetters ext)
  | none => false

/-- Does the path name a header, given the names that are admitted without an extension? -/
def Path.isHeader (path : Path) (listed : List String) : Bool :=
  path.hasHeaderExtension ||
    let text := (Utf8.lossyChars path.bytes).reverse
    listed.any fun name => name.toList.reverse.isPrefixOf text

example : (Path.ofString "inc/a.HPP").isHeader [] = true := by decide

example : (Path.ofString "inc/myvector").isHeader ["vector"] = true := by decide

end HeaderSearch
