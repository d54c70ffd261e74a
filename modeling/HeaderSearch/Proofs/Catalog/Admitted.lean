/-
# Catalogs hold headers and nothing else

A catalog is built from walks, and walks visit directories, links and files alike. What is admitted
is told by three tests: the type of the entry, the look-up of a link, and the text of the path. So a
catalog contains a path exactly if some walk visited a header at the same path.

This says what became of a path that a walk wrote. A path that is asked for may be written in
another way, and then the question is what stands there: on a proper disk it is a file or a link to
a file, and never a directory, a link to one or a link that leads nowhere.
-/

import HeaderSearch.Proofs.Catalog.Contents
import HeaderSearch.Proofs.Disk.Walked

namespace HeaderSearch.Catalog

open HeaderSearch.Path

variable {disk : Disk} {roots : List Path} {listed : List String} {root p : Path}

theorem header?_eq_some_iff {visit : Visit} : visit.header? disk listed = some p ↔
    ∃ type, visit = .entry p type ∧
      (type = .file ∨ type = .link ∧ disk.isFile p = true) ∧ p.isHeader listed = true := by
  cases visit with
  | rootFailure fault => exact iff_of_false nofun nofun
  | dirFailure path fault => exact iff_of_false nofun nofun
  | entry path type =>
      constructor
      · intro hheader
        obtain ⟨htests, hpath⟩ := Option.ite_none_right_eq_some.1 hheader
        cases hpath
        exact ⟨type, rfl, htests⟩
      · rintro ⟨type, hentry, htests⟩
        cases hentry
        exact if_pos htests

/-- The headers of a walk are the files and the links to files that it visits, as far as they have a
header's name. -/
theorem mem_headersBelow_iff : p ∈ headersBelow disk listed root ↔
    ∃ type, Visit.entry p type ∈ disk.walk root ∧
      (type = .file ∨ type = .link ∧ disk.isFile p = true) ∧ p.isHeader listed = true := by
  rw [headersBelow, List.mem_filterMap]
  simp only [header?_eq_some_iff]
  constructor
  · rintro ⟨visit, hvisit, type, rfl, htests⟩
    exact ⟨type, hvisit, htests⟩
  · rintro ⟨type, hvisit, htests⟩
    exact ⟨_, hvisit, type, rfl, htests⟩

/-- In terms of what is on the disk: what a walk reaches and what it can be looked up as. -/
theorem mem_headersBelow_iff_reaches : p ∈ headersBelow disk listed root ↔
    ∃ node, disk.Reaches root p node ∧
      (node.type = .file ∨ node.type = .link ∧ disk.isFile p = true) ∧
      p.isHeader listed = true := by
  rw [mem_headersBelow_iff]
  constructor
  · rintro ⟨type, hvisit, htests⟩
    obtain ⟨node, hreaches, rfl⟩ := Disk.entry_mem_walk_iff.1 hvisit
    exact ⟨node, hreaches, htests⟩
  · rintro ⟨node, hreaches, htests⟩
    exact ⟨node.type, Disk.entry_mem_walk_iff.2 ⟨node, hreaches, rfl⟩, htests⟩

/-- A catalog contains exactly the headers that walks visit, and walks visit exactly what they
reach. On a proper disk a path in the catalog leads to a file or to a link to one, or it leads
nowhere. -/
theorem mem_build_iff_visited (disk : Disk) (roots : List Path) (listed : List String) :
    (∀ p, p ∈ build disk roots listed ↔ ∃ root ∈ roots, ∃ e type,
      Visit.entry e type ∈ disk.walk root ∧ e.Same p ∧
      (type = .file ∨ type = .link ∧ disk.isFile e = true) ∧ e.isHeader listed = true) ∧
    (∀ root e type, Visit.entry e type ∈ disk.walk root ↔
      ∃ node, disk.Reaches root e node ∧ node.type = type) ∧
    (disk.root.Proper → ∀ p ∈ build disk roots listed, ∀ place, disk.find false p = .ok place →
      place.node.type = .file ∨ place.node.type = .link ∧ disk.isFile p = true) := by
  refine ⟨fun p => ?_, fun root e type => Disk.entry_mem_walk_iff, ?_⟩
  · simp only [mem_build, mem_headersBelow_iff]
    constructor
    · rintro ⟨root, hroot, e, ⟨type, hvisit, htests⟩, hsame⟩
      exact ⟨root, hroot, e, type, hvisit, hsame, htests⟩
    · rintro ⟨root, hroot, e, type, hvisit, hsame, htests⟩
      exact ⟨root, hroot, e, ⟨type, hvisit, htests⟩, hsame⟩
  · intro hproper p hp place hplace
    obtain ⟨root, -, e, he, hsame⟩ := mem_build.1 hp
    obtain ⟨node, hreaches, hfile, -⟩ := mem_headersBelow_iff_reaches.1 he
    exact Disk.type_of_find_of_reaches hproper hreaches hfile hsame hplace

/-- A disk with a directory `inc` in which a file, a directory and three links have a header's
name. -/
def mixedDisk : Disk :=
  ⟨.dir [(Utf8.encode "inc", .dir [
    (Utf8.encode "a.h", .file []),
    (Utf8.encode "dir.h", .dir [(Utf8.encode "vector", .file [])]),
    (Utf8.encode "dirlink.h", .link (ofString "dir.h")),
    (Utf8.encode "gone.h", .link (ofString "nowhere")),
    (Utf8.encode "link.h", .link (ofString "a.h"))])], []⟩

/-- Of the links only the one to a file is catalogued, and it is found also as `inc//link.h`. -/
theorem link_mem_build_mixedDisk :
    (build mixedDisk [ofString "inc"] ["vector"]).entries =
      [ofString "inc/a.h", ofString "inc/dir.h/vector", ofString "inc/link.h"] ∧
    ofString "inc//link.h" ∈ build mixedDisk [ofString "inc"] ["vector"] ∧
    ∀ place, mixedDisk.find false (ofString "inc//link.h") = .ok place →
      place.node.type = .file ∨
        place.node.type = .link ∧ mixedDisk.isFile (ofString "inc//link.h") = true := by
  have hproper : mixedDisk.root.Proper := by
    decide +kernel
  obtain ⟨hmem, -, hleads⟩ := mem_build_iff_visited mixedDisk [ofString "inc"] ["vector"]
  have hlink : ofString "inc//link.h" ∈ build mixedDisk [ofString "inc"] ["vector"] := by
    rw [hmem]
    exact ⟨ofString "inc", by decide, ofString "inc/link.h", .link, by decide +kernel, by decide,
      .inr ⟨rfl, by decide +kernel⟩, by decide +kernel⟩
  exact ⟨by decide +kernel, hlink, hleads hproper _ hlink⟩

end HeaderSearch.Catalog
