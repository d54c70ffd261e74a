/-
# Headers by their extension

A scan tells the kind of a file by looking its extension up in a table, in lower case. An index
compares the extension of a file with a list, up to case, and has its own list. Both recognise a
header exactly if the path ends in one of the same four words, so they cannot come apart: what the
scan puts among the headers is what the index would take for one, whatever the bytes of the path.
-/

import HeaderSearch.Catalog.Header
import HeaderSearch.Project.Scan
import HeaderSearch.Proofs.Path.Extension
import HeaderSearch.Proofs.Project.Sources
import HeaderSearch.Proofs.Unordered

namespace HeaderSearch

namespace SourceKind

/-- The words that tell each kind. -/
def words : SourceKind → List String
  | .header => ["h", "hpp", "hh", "h++"]
  | .c => ["c"]
  | .cpp => ["cpp", "cc", "cxx", "c++"]

theorem lt_of_mem_words {kind : SourceKind} :
    ∀ word ∈ kind.words, ∀ b ∈ Utf8.encode word, b < 0x80 := by
  have hascii : kind.words.all fun word => (Utf8.encode word).all (· < 0x80) := by
    cases kind <;> decide
  simpa using hascii

/-- The kind of a path is told by the word in which it ends. -/
theorem ofPath?_eq_some_iff {path : Path} {kind : SourceKind} :
    ofPath? path = some kind ↔ path.EndsInWord kind.words := by
  have hdistinct : (extensions.map Prod.fst).Nodup := by
    decide
  have hwords : ∀ ext, (ext, kind) ∈ extensions ↔ ext ∈ kind.words.map Utf8.encode := by
    intro ext
    cases kind <;> simp [extensions, words]
  rw [ofPath?, Option.bind_eq_some_iff, Path.endsInWord_iff lt_of_mem_words]
  simp only [lookup_eq_some_iff_mem hdistinct, hwords]

end SourceKind

/-- The index goes by the words that tell a header. -/
theorem Path.hasHeaderExtension_iff {path : Path} :
    path.hasHeaderExtension = true ↔ path.EndsInWord SourceKind.header.words := by
  have hlower : ∀ marked ∈ headerExtensions, marked.map lowerByte = marked := by
    decide
  rw [endsInWord_iff SourceKind.lt_of_mem_words, hasHeaderExtension,
    show SourceKind.header.words.map Utf8.encode = headerExtensions from rfl]
  cases path.extension? with
  | none => simp
  | some ext =>
      have hmarked : headerExtensions.any (sameLetters ext) = true ↔
          ext.map lowerByte ∈ headerExtensions := by
        rw [List.any_eq_true]
        constructor
        · rintro ⟨marked, hmem, hsame⟩
          rw [sameLetters_iff.1 hsame, hlower marked hmem]
          exact hmem
        · intro hmem
          exact ⟨_, hmem, sameLetters_iff.2 (hlower _ hmem).symm⟩
      simpa using hmarked

/-- Without listed names the index goes by the extension alone, as the scan does. -/
theorem isHeader_nil_iff {path : Path} :
    path.isHeader [] = true ↔ SourceKind.ofPath? path = some .header := by
  rw [Path.isHeader, List.any_nil, Bool.or_false, Path.hasHeaderExtension_iff,
    SourceKind.ofPath?_eq_some_iff]

/-- The scan and the index agree on every path: either recognises a header exactly if the path ends
in one of four words. So among the headers of a walk are the paths that it visits as something other
than a directory and that have an extension which the index recognises. -/
theorem SourceKind.header_iff_hasHeaderExtension (path : Path) :
    (ofPath? path = some .header ↔ path.hasHeaderExtension = true) ∧
      (path.hasHeaderExtension = true ↔ path.EndsInWord ["h", "hpp", "hh", "h++"]) ∧
      ∀ visits, path ∈ (SourceFiles.ofVisits visits).headers ↔
        (∃ type, .entry path type ∈ visits ∧ type ≠ .dir) ∧ path.hasHeaderExtension = true := by
  have hagree : ofPath? path = some .header ↔ path.hasHeaderExtension = true := by
    rw [ofPath?_eq_some_iff, Path.hasHeaderExtension_iff]
  refine ⟨hagree, Path.hasHeaderExtension_iff, fun visits => ?_⟩
  rw [← hagree, show (SourceFiles.ofVisits visits).headers =
    (SourceFiles.ofVisits visits).get .header from rfl, SourceFiles.get_ofVisits, List.mem_filter,
    decide_eq_true_eq, List.mem_filterMap]
  simp only [Visit.sourcePath?_eq_some_iff]
  constructor
  · rintro ⟨⟨_, hvisit, type, rfl, hdir, -⟩, hkind⟩
    exact ⟨⟨type, hvisit, hdir⟩, hkind⟩
  · rintro ⟨⟨type, hvisit, hdir⟩, hkind⟩
    exact ⟨⟨_, hvisit, type, rfl, hdir, Option.isSome_of_eq_some hkind⟩, hkind⟩

/-- A separator at the end does not count, `..` is no file, and a broken character is one too
many. -/
example : (Path.ofString "src/.hidden.H++/").hasHeaderExtension = true ∧
    SourceKind.ofPath? (Path.ofString "src/a.h/..") = none ∧
    (Path.mk (Utf8.encode "a.h" ++ [0xC3])).hasHeaderExtension = false := by decide

end HeaderSearch
