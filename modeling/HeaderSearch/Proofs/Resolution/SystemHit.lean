/-
# Headers right below a root

The walk of a root writes names behind the root's own text; the search writes root and name behind
one another and cleans the result. For a root that cleaning leaves alone the two meet, whatever
separators either of them is written with: a header that the walk finds right below the root is
found by the system stage. The answer is then the first root, in search order, below which the
catalog has the name, and the catalog does not remember whose walk it owes the header to.

A root that is written with a `.` in front, or that climbs back out of a name, is another matter.
Its headers are catalogued as its walk spells them, and no cleaned path is the same as that.
-/

import HeaderSearch.Proofs.Catalog.Contents
import HeaderSearch.Proofs.Path.Cleaning
import HeaderSearch.Proofs.Resolution.Stages

namespace HeaderSearch.SearchSpace

open HeaderSearch.Catalog HeaderSearch.Path

variable {disk : Disk} {roots : List Path} {listed : List String} {space : SearchSpace}

/-- A header that the walk of a root admits right below it is always found by the system stage, if
cleaning leaves the root alone. The path that is reported lies below the first root in search order
below which some root's walk admitted the name. -/
theorem locate?_of_mem_headersBelow (hspace : space.catalog = build disk roots listed)
    {root : Path} (hroot : root ∈ roots) (hclean : clean root.components = root.components)
    {name : String} (hname : (ofString name).IsPlain) {header : Path}
    (hheader : header ∈ headersBelow disk listed root)
    (hsame : header.Same (root.join (ofString name))) :
    ∃ before first after, roots = before ++ first :: after ∧
      space.locate? name = some ⟨first.cleanJoin (ofString name), .system⟩ ∧
      clean (first.cleanJoin (ofString name)).components =
        clean first.components ++ (ofString name).components ∧
      (∃ walked ∈ roots, ∃ admitted ∈ headersBelow disk listed walked,
        admitted.Same (first.cleanJoin (ofString name))) ∧
      ∀ earlier ∈ before, ∀ walked ∈ roots, ∀ admitted ∈ headersBelow disk listed walked,
        ¬ admitted.Same (earlier.cleanJoin (ofString name)) := by
  have hmem : root.cleanJoin (ofString name) ∈ space.catalog := by
    rw [hspace, mem_build]
    exact ⟨root, hroot, header, hheader,
      hsame.trans (hname.same_cleanJoin hclean (bytes_ne_nil_of_mem_headersBelow hheader))⟩
  have hroots : space.catalog.roots = roots := by
    rw [hspace, roots_build]
  cases hfound : space.systemPath? name with
  | none =>
      rw [← hroots] at hroot
      exact absurd hmem (systemPath?_eq_none_iff.1 hfound root hroot)
  | some path =>
      obtain ⟨before, first, after, hsplit, rfl, hfirst, hbefore⟩ :=
        systemPath?_eq_some_iff.1 hfound
      refine ⟨before, first, after, hroots ▸ hsplit, locate?_system_iff.2 hfound, ?_, ?_, ?_⟩
      · rw [clean_components_cleanJoin, hname.cleanJoinComponents_eq]
      · rwa [hspace, mem_build] at hfirst
      · intro earlier hearlier walked hwalked admitted hadmitted hearlierSame
        apply hbefore earlier hearlier
        rw [hspace, mem_build]
        exact ⟨walked, hwalked, admitted, hadmitted, hearlierSame⟩

/-- A disk with two headers in the directory `inc`, one of them in a directory of its own. -/
def dirDisk : Disk :=
  ⟨.dir [
    (Utf8.encode "inc", .dir [
      (Utf8.encode "a.h", .file []),
      (Utf8.encode "sys", .dir [(Utf8.encode "types.h", .file [])])])], []⟩

/-- A root may begin with `..` and end in separators, and one before it may be missing. -/
theorem locate?_below_climbing_root :
    ∃ before first after, [ofString "gone", ofString "../inc//"] = before ++ first :: after ∧
      (SearchSpace.mk (build dirDisk [ofString "gone", ofString "../inc//"] []) .conventional
        dirDisk).locate? "sys//types.h" =
          some ⟨first.cleanJoin (ofString "sys//types.h"), .system⟩ ∧
      clean (first.cleanJoin (ofString "sys//types.h")).components =
        clean first.components ++ (ofString "sys//types.h").components ∧
      (∃ walked ∈ [ofString "gone", ofString "../inc//"],
        ∃ admitted ∈ headersBelow dirDisk [] walked,
          admitted.Same (first.cleanJoin (ofString "sys//types.h"))) ∧
      ∀ earlier ∈ before, ∀ walked ∈ [ofString "gone", ofString "../inc//"],
        ∀ admitted ∈ headersBelow dirDisk [] walked,
          ¬ admitted.Same (earlier.cleanJoin (ofString "sys//types.h")) := by
  have hroot : ofString "../inc//" ∈ [ofString "gone", ofString "../inc//"] := by decide
  have hheader : ofString "../inc//sys/types.h" ∈
      headersBelow dirDisk [] (ofString "../inc//") := by
    decide +kernel
  have hname : (ofString "sys//types.h").IsPlain :=
    ⟨[Utf8.encode "sys", Utf8.encode "types.h"], by decide⟩
  exact locate?_of_mem_headersBelow rfl hroot (by decide) hname hheader (by decide)

/-- A disk with two headers `link/f.h`, one of them behind a link. -/
def linkDisk : Disk :=
  ⟨.dir [
    (Utf8.encode "real", .dir [(Utf8.encode "f.h", .file [])]),
    (Utf8.encode "a", .dir [(Utf8.encode "link", .link (ofString "../real"))]),
    (Utf8.encode "b", .dir [(Utf8.encode "link", .dir [(Utf8.encode "f.h", .file [])])])], []⟩

/-- A header right below the root `./inc` is left to the last stage. And of the roots `a`, `a/link`
and `b`, only the walk of `b` admits a header `link/f.h` of its own; the answer lies below `a`, with
thanks to the walk of `a/link`. -/
theorem dotted_root_and_linked_root :
    (ofString "./inc/a.h" ∈ headersBelow dirDisk [] (ofString "./inc") ∧
      (ofString "./inc/a.h").Same ((ofString "./inc").join (ofString "a.h")) ∧
      (SearchSpace.mk (build dirDisk [ofString "./inc"] []) .conventional dirDisk).locate? "a.h" =
        some ⟨ofString "./inc/a.h", .fuzzy⟩) ∧
    (headersBelow linkDisk [] (ofString "a") = [] ∧
      headersBelow linkDisk [] (ofString "a/link") = [ofString "a/link/f.h"] ∧
      headersBelow linkDisk [] (ofString "b") = [(ofString "b").join (ofString "link/f.h")] ∧
      (SearchSpace.mk (build linkDisk [ofString "a", ofString "a/link", ofString "b"] [])
        .conventional linkDisk).locate? "link/f.h" = some ⟨ofString "a/link/f.h", .system⟩) := by
  refine ⟨⟨?_, ?_, ?_⟩, ?_, ?_, ?_, ?_⟩
  all_goals decide +kernel

end HeaderSearch.SearchSpace
