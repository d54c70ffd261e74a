/-
# Answers that are in the catalog

The system stage looks up the path that it reports, so this path is always in the catalog. The last
stage reports what is displayed for a catalogued path. As long as that path is text, this is the
path itself. Of a path that is not text the replacement characters are reported, and nothing of that
name has been indexed, unless by chance another path is spelled with these very characters.
-/

import HeaderSearch.Proofs.Path.Readable
import HeaderSearch.Proofs.Resolution.Stages

namespace HeaderSearch.SearchSpace

open HeaderSearch.Path

variable {space : SearchSpace} {name : String} {hit : Hit}

/-- What is displayed for some path is in the catalog exactly if a path that is text is listed
there under one of its spellings. -/
theorem ofString_mem_catalog_iff {catalog : Catalog} {text : String} :
    ofString text ∈ catalog ↔
      ∃ e ∈ catalog.entries, e.text?.isSome ∧ e.Same (ofString text) := by
  constructor
  · rintro ⟨e, he, hsame⟩
    refine ⟨e, he, ?_, hsame⟩
    rw [hsame.isSome_text?_iff, text?_ofString]
    rfl
  · rintro ⟨e, he, -, hsame⟩
    exact ⟨e, he, hsame⟩

/-- Outside of the local directories, what is found is in the catalog exactly if the system stage
found it or a path that is text is listed under one of its spellings. If it is not in the catalog,
it is what is displayed for a catalogued path that ends with the name and is not text. -/
theorem mem_catalog_iff_of_locate? (h : space.locate? name = some hit)
    (hstrategy : hit.strategy ≠ .localDir) :
    (hit.path ∈ space.catalog ↔ hit.strategy = .system ∨
      ∃ e ∈ space.catalog.entries, e.text?.isSome ∧ e.Same hit.path) ∧
    (hit.path ∉ space.catalog → ∃ e ∈ space.catalog.entries, e.text? = none ∧
      endsWithName name e.display ∧ hit.path = ofString e.display) := by
  obtain ⟨path, strategy⟩ := hit
  cases strategy with
  | localDir => exact absurd rfl hstrategy
  | system =>
      obtain ⟨_, _, _, _, _, hmem, _⟩ := systemPath?_eq_some_iff.1 (locate?_system_iff.1 h)
      exact ⟨⟨fun _ => .inl rfl, fun _ => hmem⟩, fun hnot => absurd hmem hnot⟩
  | fuzzy =>
      obtain ⟨e, he, hends, hpath⟩ := exists_entry_of_fuzzyPath? (locate?_fuzzy_iff.1 h).2.2
      dsimp only
      rw [hpath, ofString_mem_catalog_iff]
      refine ⟨by simp, fun hnot => ⟨e, he, ?_, hends, rfl⟩⟩
      rw [← Option.not_isSome_iff_eq_none]
      intro htext
      apply hnot
      refine ⟨e, he, htext, ?_⟩
      rw [ofString_display htext]
      exact Same.refl e

/-- The header of a name in `/lib`, below a directory whose own name is the byte FF and no text. -/
def unreadableHeader (name : String) : Path :=
  ⟨Utf8.encode "/lib/" ++ 0xFF :: slash :: Utf8.encode name⟩

/-- Two headers, one of which is spelled with the replacement character of the other. -/
def alikeHeaders : List Path := [unreadableHeader "-x.h", ofString "/lib/\uFFFD//-x.h"]

/-- Of the two headers the one that is not text is chosen, and the other has the path that is
reported for it. -/
theorem mem_catalog_by_other_header :
    (ofHeaders [] alikeHeaders).locate? "-x.h" = some ⟨ofString "/lib/\uFFFD/-x.h", .fuzzy⟩ ∧
    ((ofString "/lib/\uFFFD/-x.h" ∈ (ofHeaders [] alikeHeaders).catalog ↔
      Strategy.fuzzy = .system ∨ ∃ e ∈ (ofHeaders [] alikeHeaders).catalog.entries,
        e.text?.isSome ∧ e.Same (ofString "/lib/\uFFFD/-x.h")) ∧
    (ofString "/lib/\uFFFD/-x.h" ∉ (ofHeaders [] alikeHeaders).catalog →
      ∃ e ∈ (ofHeaders [] alikeHeaders).catalog.entries, e.text? = none ∧
        endsWithName "-x.h" e.display ∧
        ofString "/lib/\uFFFD/-x.h" = ofString e.display)) := by
  have hcandidates : (ofHeaders [] alikeHeaders).fuzzyCandidates "-x.h" =
      ["/lib/\uFFFD/-x.h", "/lib/\uFFFD//-x.h"] := by
    rw [fuzzyCandidates, List.mergeSort_of_pairwise] <;> decide +kernel
  have hchosen : (ofHeaders [] alikeHeaders).fuzzyPath? "-x.h" =
      some (ofString "/lib/\uFFFD/-x.h") := by
    rw [fuzzyPath?, hcandidates]
    decide +kernel
  have hfound : (ofHeaders [] alikeHeaders).locate? "-x.h" =
      some ⟨ofString "/lib/\uFFFD/-x.h", .fuzzy⟩ :=
    locate?_fuzzy_iff.2 ⟨by decide +kernel, by decide +kernel, hchosen⟩
  exact ⟨hfound, mem_catalog_iff_of_locate? hfound (by decide)⟩

/-- The header is reported with a replacement character in its path, and no such path is
catalogued. -/
theorem notMem_catalog_of_not_text :
    (ofHeaders [] [unreadableHeader "x.h"]).locate? "x.h" =
      some ⟨ofString "/lib/\uFFFD/x.h", .fuzzy⟩ ∧
    ofString "/lib/\uFFFD/x.h" ∉ (ofHeaders [] [unreadableHeader "x.h"]).catalog := by
  constructor
  · decide +kernel
  · decide +kernel

end HeaderSearch.SearchSpace
