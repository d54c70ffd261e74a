/-
# Matching whole components

The last stage compares texts: a catalogued path matches if what is displayed for it ends with the
name, and a separator stands before the name there. It never looks at components. But a separator in
front of the name and the separators inside of it are separators of the path as well, so a match
begins where a component begins, and it ends where the path ends. What is displayed for a path has
its components, each of them displayed; so what is not text in a component is matched by replacement
characters, and cannot make a match begin or end anywhere else.

In the other direction components can be compared as texts only if path and name are tidy. Then a
path matches exactly if its displayed components end in those of the name and there is another one
before them.
-/

import HeaderSearch.Proofs.Path.Displayed
import HeaderSearch.Proofs.Path.Tidy
import HeaderSearch.Proofs.Resolution.Indexed

namespace HeaderSearch

namespace Path

/-- The components of the path, as they are shown, end in the components of what was written, and
there is at least one more before these. -/
def ShowsAtEnd (p written : Path) : Prop :=
  written.components.length < p.components.length ∧
    written.components <:+ p.components.map Component.shown

instance (p written : Path) : Decidable (p.ShowsAtEnd written) :=
  inferInstanceAs (Decidable (_ ∧ _))

/-! ## Ends of texts and ends of paths -/

/-- What stands behind a separator at the end of a path are its last components, and not all of
them. -/
theorem suffix_components_of_suffix {p q : Path} (hplain : q.IsPlain)
    (h : slash :: q.bytes <:+ p.bytes) :
    q.components.length < p.components.length ∧ q.components <:+ p.components := by
  obtain ⟨front, hfront⟩ := h
  have hcomponents : p.components =
      (if front = [] then [.root] else (Path.mk front).components) ++ q.components := by
    rw [hplain.components_eq, ← components_append_slash, hfront]
  have hne : (if front = [] then [.root] else (Path.mk front).components) ≠ [] := by
    split
    · exact List.cons_ne_nil _ _
    · next hfront => exact components_ne_nil hfront
  have hpos := List.length_pos_iff.2 hne
  rw [hcomponents]
  refine ⟨?_, List.suffix_append _ _⟩
  rw [List.length_append]
  omega

/-- Tidy texts that have the components of one at the end of those of the other end alike. -/
theorem IsTidy.suffix_of_suffix_components {p q : Path} (hp : p.IsTidy) (hq : q.IsTidy)
    (hplain : q.IsPlain) (hne : q.components ≠ [])
    (hlength : q.components.length < p.components.length)
    (hsuffix : q.components <:+ p.components) : slash :: q.bytes <:+ p.bytes := by
  obtain ⟨front, hfront⟩ := hsuffix
  have hpos : 0 < q.components.length := List.length_pos_iff.2 hne
  have hback : q.components.map segmentOf ≠ [] := by
    simpa using hne
  have hbefore : front.map segmentOf ≠ [] := by
    rw [← hfront, List.length_append] at hlength
    simpa using List.length_pos_iff.1 (show 0 < front.length by omega)
  have hbare : p.components ≠ [.root] := by
    intro hbare
    rw [hbare, List.length_singleton] at hlength
    omega
  have hbare' : q.components ≠ [.root] := by
    intro hbare
    apply hplain.root_notMem
    rw [hbare]
    exact List.mem_singleton_self _
  refine ⟨[slash].intercalate (front.map segmentOf), ?_⟩
  rw [hp.bytes_eq hbare, hq.bytes_eq hbare', ← hfront, List.map_append,
    intercalate_append hbefore hback]

/-- What is displayed for a tidy path is tidy. -/
theorem IsTidy.ofString_display {p : Path} (h : p.IsTidy) : (ofString p.display).IsTidy := by
  rcases h with hroot | htail
  · rw [show p = ⟨[slash]⟩ from congrArg Path.mk hroot]
    decide
  · right
    have hsegments : (ofString p.display).segments = p.segments.map Name.shown :=
      Name.splitOn_shown p.bytes
    rw [hsegments, ← List.map_tail]
    intro segment hsegment
    obtain ⟨original, horiginal, rfl⟩ := List.mem_map.1 hsegment
    rw [ne_eq, ne_eq, Name.shown_eq_nil_iff, Name.shown_eq_dot_iff]
    exact htail original horiginal

end Path

open HeaderSearch.Path

namespace SearchSpace

variable {space : SearchSpace} {name : String}

/-- A text ends with the name, behind a separator, exactly if its bytes do. -/
theorem endsWithName_iff {text : String} :
    endsWithName name text = true ↔ slash :: (ofString name).bytes <:+ (ofString text).bytes := by
  rw [endsWithName, List.isSuffixOf_iff_suffix]
  constructor
  · rintro ⟨front, hfront⟩
    refine ⟨Utf8.encodeChars front, ?_⟩
    rw [ofString, ofString, Utf8.encode, Utf8.encode, ← hfront, Utf8.encodeChars_append]
    rfl
  · rintro ⟨front, hfront⟩
    refine ⟨Utf8.lossyChars front, ?_⟩
    calc
      Utf8.lossyChars front ++ '/' :: name.toList =
          Utf8.lossyChars (front ++ slash :: (ofString name).bytes) := by
        rw [Utf8.lossyChars_append_ascii front (by decide), ofString, Utf8.lossyChars_encode]
        rfl
      _ = text.toList := by
        rw [hfront, ofString, Utf8.lossyChars_encode]

/-- For a name that consists of names with single separators between them, the tidy paths that match
are those that show it at their end. -/
theorem endsWithName_display_iff (hplain : (ofString name).IsPlain)
    (hne : (ofString name).components ≠ []) (htidy : (ofString name).IsTidy) {entry : Path}
    (hentry : entry.IsTidy) :
    endsWithName name entry.display = true ↔ entry.ShowsAtEnd (ofString name) := by
  have hshown := components_ofString_display entry
  have hlength : (ofString entry.display).components.length = entry.components.length := by
    rw [hshown, List.length_map]
  rw [endsWithName_iff, ShowsAtEnd, ← hshown, ← hlength]
  constructor
  · exact suffix_components_of_suffix hplain
  · rintro ⟨hless, hsuffix⟩
    exact hentry.ofString_display.suffix_of_suffix_components htidy hplain hne hless hsuffix

/-- For a name that consists of names, one or more, with single separators between them, the tidy
paths of the catalog that are candidates are those that show it at their end, behind something else.
In a catalog of tidy paths the last stage fails exactly if none of them does. -/
theorem fuzzy_matches_whole_components (space : SearchSpace) (hplain : (ofString name).IsPlain)
    (hne : (ofString name).components ≠ []) (htidy : (ofString name).IsTidy) :
    (∀ entry ∈ space.catalog.entries, entry.IsTidy →
      (entry.display ∈ space.fuzzyCandidates name ↔ entry.ShowsAtEnd (ofString name))) ∧
    ((∀ entry ∈ space.catalog.entries, entry.IsTidy) →
      (space.fuzzyPath? name = none ↔
        ∀ entry ∈ space.catalog.entries, ¬ entry.ShowsAtEnd (ofString name))) := by
  constructor
  · intro entry hentry htidyEntry
    rw [← endsWithName_display_iff hplain hne htidy htidyEntry, mem_fuzzyCandidates_iff]
    constructor
    · rintro ⟨other, -, hends, hdisplay⟩
      rwa [hdisplay] at hends
    · intro hends
      exact ⟨entry, hentry, hends, rfl⟩
  · intro hall
    rw [fuzzyPath?_eq_none_iff]
    apply forall₂_congr
    intro entry hentry
    rw [← endsWithName_display_iff hplain hne htidy (hall entry hentry), Bool.not_eq_true]

/-- A header below a directory whose name is no text, and three whose paths end in its name or in a
part of theirs. -/
def partHeaders : List Path :=
  [unreadableHeader "x.h", ofString "/lib/max.h", ofString "x.h", ofString "ax.h"]

/-- The first of these headers matches `x.h`, also behind the replacement character that is shown
for its directory. The others do not, and `ax.h` is matched by none of them. -/
theorem candidates_of_partHeaders :
    (∀ entry ∈ (ofHeaders [] partHeaders).catalog.entries, entry.IsTidy) ∧
    (∀ name ∈ ["x.h", "\uFFFD/x.h", "ax.h"], (ofString name).IsPlain ∧
      (ofString name).components ≠ [] ∧ (ofString name).IsTidy) ∧
    "/lib/\uFFFD/x.h" ∈ (ofHeaders [] partHeaders).fuzzyCandidates "x.h" ∧
    "/lib/max.h" ∉ (ofHeaders [] partHeaders).fuzzyCandidates "x.h" ∧
    "x.h" ∉ (ofHeaders [] partHeaders).fuzzyCandidates "x.h" ∧
    "/lib/\uFFFD/x.h" ∈ (ofHeaders [] partHeaders).fuzzyCandidates "\uFFFD/x.h" ∧
    (ofHeaders [] partHeaders).fuzzyPath? "ax.h" = none := by
  have htidy : ∀ entry ∈ (ofHeaders [] partHeaders).catalog.entries, entry.IsTidy := by
    decide +kernel
  have hone : (ofString "x.h").IsPlain := ⟨[Utf8.encode "x.h"], by decide⟩
  have htwo : (ofString "\uFFFD/x.h").IsPlain :=
    ⟨[Utf8.encode "\uFFFD", Utf8.encode "x.h"], by decide⟩
  have hpart : (ofString "ax.h").IsPlain := ⟨[Utf8.encode "ax.h"], by decide⟩
  obtain ⟨hmatches, -⟩ := fuzzy_matches_whole_components (ofHeaders [] partHeaders) hone
    (by decide) (by decide)
  obtain ⟨hmatches', -⟩ := fuzzy_matches_whole_components (ofHeaders [] partHeaders) htwo
    (by decide) (by decide)
  obtain ⟨-, hfails⟩ := fuzzy_matches_whole_components (ofHeaders [] partHeaders) hpart
    (by decide) (by decide)
  refine ⟨htidy, ?_, ?_, ?_, ?_, ?_, ?_⟩
  · simp only [List.forall_mem_cons]
    exact ⟨⟨hone, by decide, by decide⟩, ⟨htwo, by decide, by decide⟩,
      ⟨hpart, by decide, by decide⟩, nofun⟩
  · exact (hmatches (unreadableHeader "x.h") (by decide +kernel) (by decide)).2 (by decide)
  · exact mt (hmatches (ofString "/lib/max.h") (by decide +kernel) (by decide)).1 (by decide)
  · exact mt (hmatches (ofString "x.h") (by decide +kernel) (by decide)).1 (by decide)
  · exact (hmatches' (unreadableHeader "x.h") (by decide +kernel) (by decide)).2 (by decide)
  · exact (hfails htidy).2 (by decide +kernel)

end SearchSpace

end HeaderSearch
