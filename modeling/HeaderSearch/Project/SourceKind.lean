/-
# Kinds of source files

A project scan reads headers, C sources and C++ sources, told apart by extension. Case does not
matter, so `.H` is a header and `.C` is a C source.
-/

import HeaderSearch.Path.Extension

namespace HeaderSearch

/-- What a scanned file holds: a header of either language, or a source. -/
inductive SourceKind where
  | header
  | c
  | cpp
  deriving DecidableEq, Repr

namespace SourceKind

/-- The kind of each recognised extension, in lower case. -/
def extensions : List (List UInt8 × SourceKind) :=
  [(Utf8.encode "h", .header), (Utf8.encode "hpp", .header), (Utf8.encode "hh", .header),
   (Utf8.encode "h++", .header), (Utf8.encode "c", .c), (Utf8.encode "cpp", .cpp),
   (Utf8.encode "cc", .cpp), (Utf8.encode "cxx", .cpp), (Utf8.encode "c++", .cpp)]

/-- The kind of the file that a path names, if it is one that is scanned. -/
def ofPath? (path : Path) : Option SourceKind :=
  path.extension?.bind fun ext => extensions.lookup (ext.map lowerByte)

example : ofPath? (Path.ofString "src/a.C") = some .c := by decide

example : ofPath? (Path.ofString "src/a.rs") = none := by decide

end SourceKind

end HeaderSearch
