/-
# Larger catalogs

Headers that are added to a catalog can be found where nothing was found before, and they can move
an answer to an earlier stage or to a better candidate. They cannot do the opposite: what the system
stage looks for stays in the catalog, the local stage does not ask the catalog, and the candidates
of the last stage stay candidates, so that the best of them can only become better.
-/

import HeaderSearch.Proofs.Resolution.Ranking
import HeaderSearch.Proofs.Text.Encoding

namespace HeaderSearch

open HeaderSearch.Path

/-- One catalog is part of the other: they have the same roots, and each header of the one is a
header of the other, spelled in the same way. -/
structure Catalog.PartOf (catalog larger : Catalog) : Prop where
  roots : catalog.roots = larger.roots
  entries : catalog.entries ⊆ larger.entries

/-- The second answer is no worse than the first. It comes from the system stage, or it is the same
local path, or it is another answer of the last stage that ranks at least as high. -/
inductive Hit.NoWorse : Hit → Hit → Prop where
  | system (hit : Hit) (path : Path) : NoWorse hit ⟨path, .system⟩
  | localDir (path : Path) : NoWorse ⟨path, .localDir⟩ ⟨path, .localDir⟩
  | fuzzy {path better : Path}
      (rank : Candidate.rank Candidate.cxxKeyword better.display path.display ≠ .lt) :
      NoWorse ⟨path, .fuzzy⟩ ⟨better, .fuzzy⟩

theorem Catalog.PartOf.mem {catalog larger : Catalog} (h : catalog.PartOf larger) {p : Path}
    (hp : p ∈ catalog) : p ∈ larger := by
  obtain ⟨e, he, hsame⟩ := hp
  exact ⟨e, h.entries he, hsame⟩

namespace SearchSpace

variable {space : SearchSpace} {larger : Catalog} {name : String} {path : Path} {hit : Hit}

/-- The same search in a larger catalog. -/
def withCatalog (space : SearchSpace) (larger : Catalog) : SearchSpace :=
  { space with catalog := larger }

/-- A name that the system stage finds is found by it again, perhaps below an earlier root. -/
theorem exists_systemPath?_of_partOf (h : space.catalog.PartOf larger)
    (hfound : space.systemPath? name = some path) :
    ∃ path', (space.withCatalog larger).systemPath? name = some path' := by
  obtain ⟨before, root, after, hsplit, rfl, hmem, -⟩ := systemPath?_eq_some_iff.1 hfound
  have hroot : root ∈ (space.withCatalog larger).catalog.roots := by
    show root ∈ larger.roots
    rw [← h.roots, hsplit]
    exact List.mem_append_right _ List.mem_cons_self
  cases hlarger : (space.withCatalog larger).systemPath? name with
  | some path' => exact ⟨path', rfl⟩
  | none => exact absurd (h.mem hmem) (systemPath?_eq_none_iff.1 hlarger root hroot)

theorem fuzzyCandidates_subset_of_partOf (h : space.catalog.PartOf larger) (name : String) :
    space.fuzzyCandidates name ⊆ (space.withCatalog larger).fuzzyCandidates name := by
  intro candidate hcandidate
  rw [fuzzyCandidates, List.mem_mergeSort, List.mem_filter] at hcandidate ⊢
  exact ⟨List.map_subset _ h.entries hcandidate.1, hcandidate.2⟩

/-- What the last stage would answer it answers again, with a candidate that ranks at least as
high. -/
theorem exists_fuzzyPath?_of_partOf (h : space.catalog.PartOf larger)
    (hfound : space.fuzzyPath? name = some path) :
    ∃ better, (space.withCatalog larger).fuzzyPath? name = some better ∧
      Candidate.rank Candidate.cxxKeyword better.display path.display ≠ .lt := by
  obtain ⟨best, hbest, rfl⟩ := Option.map_eq_some_iff.1 hfound
  obtain ⟨best', hbest', hrank⟩ :=
    Candidate.exists_best?_of_subset hbest (fuzzyCandidates_subset_of_partOf h name)
  refine ⟨ofString best', by rw [fuzzyPath?, hbest']; rfl, ?_⟩
  rw [display, display, ofString, ofString, Utf8.lossy_encode, Utf8.lossy_encode,
    Candidate.rank_swap, ne_eq, Ordering.swap_eq_lt, ← Ordering.isLE_iff_ne_gt]
  exact hrank

/-- In a larger catalog every name that was found is found again, and the answer is no worse. -/
theorem exists_noWorse_of_partOf (h : space.catalog.PartOf larger)
    (hfound : space.locate? name = some hit) :
    ∃ hit', (space.withCatalog larger).locate? name = some hit' ∧ hit.NoWorse hit' := by
  cases hsystem : (space.withCatalog larger).systemPath? name with
  | some path' => exact ⟨_, locate?_system_iff.2 hsystem, .system hit path'⟩
  | none =>
      obtain ⟨path, strategy⟩ := hit
      cases strategy with
      | system =>
          obtain ⟨path', hpath'⟩ := exists_systemPath?_of_partOf h (locate?_system_iff.1 hfound)
          rw [hsystem] at hpath'
          cases hpath'
      | localDir =>
          have hlocal := (locate?_localDir_iff.1 hfound).2
          exact ⟨_, locate?_localDir_iff.2 ⟨hsystem, hlocal⟩, .localDir path⟩
      | fuzzy =>
          obtain ⟨-, hlocal, hfuzzy⟩ := locate?_fuzzy_iff.1 hfound
          obtain ⟨better, hbetter, hrank⟩ := exists_fuzzyPath?_of_partOf h hfuzzy
          exact ⟨_, locate?_fuzzy_iff.2 ⟨hsystem, hlocal, hbetter⟩, .fuzzy hrank⟩

/-- A search in a catalog that has a C header only. -/
def plainSpace : SearchSpace :=
  ofHeaders [ofString "/inc"] [ofString "/inc/old/map"]

/-- The same catalog with two C++ headers of that name besides. -/
def cxxCatalog : Catalog :=
  .ofEntries [ofString "/inc"]
    [ofString "/inc/c++/10/tr1/map", ofString "/inc/c++/11/map", ofString "/inc/old/map"]

/-- The C header gives way to the C++ header with the shorter path. -/
theorem noWorse_in_cxxCatalog :
    plainSpace.locate? "map" = some ⟨ofString "/inc/old/map", .fuzzy⟩ ∧
    (plainSpace.withCatalog cxxCatalog).locate? "map" =
      some ⟨ofString "/inc/c++/11/map", .fuzzy⟩ ∧
    ∃ hit', (plainSpace.withCatalog cxxCatalog).locate? "map" = some hit' ∧
      Hit.NoWorse ⟨ofString "/inc/old/map", .fuzzy⟩ hit' := by
  have hpart : plainSpace.catalog.PartOf cxxCatalog := by
    refine ⟨by decide +kernel, ?_⟩
    intro e he
    revert e
    decide +kernel
  have hfound : plainSpace.locate? "map" = some ⟨ofString "/inc/old/map", .fuzzy⟩ := by
    decide +kernel
  have hcandidates : (plainSpace.withCatalog cxxCatalog).fuzzyCandidates "map" =
      ["/inc/c++/10/tr1/map", "/inc/c++/11/map", "/inc/old/map"] := by
    rw [fuzzyCandidates, List.mergeSort_of_pairwise] <;> decide +kernel
  have hchosen : (plainSpace.withCatalog cxxCatalog).fuzzyPath? "map" =
      some (ofString "/inc/c++/11/map") := by
    rw [fuzzyPath?, hcandidates]
    decide +kernel
  exact ⟨hfound, locate?_fuzzy_iff.2 ⟨by decide +kernel, by decide +kernel, hchosen⟩,
    exists_noWorse_of_partOf hpart hfound⟩

end SearchSpace

end HeaderSearch
