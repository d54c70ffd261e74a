/-
# Scanned headers and catalogued headers

A scan and an index tell headers in different ways. The scan takes whatever is not a directory and
has a header's extension, and fails if it cannot read it; the index takes files, and links that
lead to files. So a link to a directory, or to nothing, stops the one and is passed over by the
other. But if the scan of a project succeeds, there is no such link among the headers, and the two
agree.
-/

import HeaderSearch.Proofs.Catalog.Roots
import HeaderSearch.Proofs.Project.HeaderKind
import HeaderSearch.Proofs.Project.Outcome

namespace HeaderSearch

namespace Project

variable {disk : Disk} {root path : Path} {project : Project}

/-- The headers of a project that can be scanned are those that an index of its root admits. -/
theorem mem_headers_iff_of_scan (h : scan disk root = .ok project) :
    path ∈ project.files.headers ↔ path ∈ Catalog.headersBelow disk [] root := by
  obtain ⟨-, -, hfiles, -⟩ := scan_eq_ok_iff.1 h
  obtain ⟨-, hreadable⟩ := exists_scan_eq_ok_iff.1 ⟨project, h⟩
  have hheaders : project.files.headers =
      (disk.sources root).filter (SourceKind.ofPath? · = some .header) := by
    rw [hfiles]
    exact SourceFiles.get_ofVisits _ .header
  rw [hheaders, List.mem_filter, decide_eq_true_eq, Disk.mem_sources_iff,
    Catalog.mem_headersBelow_iff]
  constructor
  · rintro ⟨⟨type, hvisit, hdir, hsome⟩, hkind⟩
    refine ⟨type, hvisit, ?_, isHeader_nil_iff.2 hkind⟩
    cases type with
    | file => exact .inl rfl
    | dir => exact absurd rfl hdir
    | link =>
        -- The link was read, so it leads to a file.
        have hsource := Disk.mem_sources_iff.2 ⟨.link, hvisit, hdir, hsome⟩
        exact .inr ⟨rfl, Disk.exists_readFile_eq_ok_iff.1 (hreadable path hsource)⟩
  · rintro ⟨type, hvisit, hfile, hheader⟩
    have hkind := isHeader_nil_iff.1 hheader
    refine ⟨⟨type, hvisit, ?_, Option.isSome_of_eq_some hkind⟩, hkind⟩
    rcases hfile with rfl | ⟨rfl, -⟩ <;> nofun

/-- On a proper disk, if a project can be scanned, a catalog of its root alone lists exactly the
headers of the project, in some order. Neither holds a header twice, and nothing is left out of the
catalog because it could not be indexed. -/
theorem headers_perm_entries_of_scan (hproper : disk.root.Proper)
    (h : scan disk root = .ok project) :
    project.files.headers.Perm (Catalog.build disk [root] []).entries ∧
    project.files.headers.Pairwise (fun p q => ¬ p.Same q) ∧
    (Catalog.build disk [root] []).entries.Pairwise (fun p q => ¬ p.Same q) ∧
    (Catalog.build disk [root] []).skipped = [] := by
  obtain ⟨hwalk, -, hfiles, -⟩ := scan_eq_ok_iff.1 h
  have hdistinct : project.files.headers.Pairwise fun p q => ¬ p.Same q := by
    rw [hfiles]
    exact (Disk.pairwise_sources hproper root).sublist
      ((SourceFiles.sorts_ofVisits _).sublist .header)
  have hnodup := Path.nodup_of_pairwise_not_same hdistinct
  refine ⟨?_, hdistinct, Catalog.distinct _, ?_⟩
  · rw [List.perm_ext_iff_of_nodup hnodup (Catalog.nodup_entries _)]
    intro path
    rw [mem_headers_iff_of_scan h, Catalog.mem_entries_build_singleton hproper]
  · -- What the index would note is a failing step of the walk, which would have ended the scan.
    rw [Catalog.skipped_build, List.flatMap_singleton, Catalog.skippedBelow,
      List.filterMap_eq_nil_iff]
    intro visit hvisit
    have hclear := hwalk visit (Disk.mem_sortedWalk_iff.2 hvisit)
    cases visit with
    | entry path type => rfl
    | rootFailure fault => cases hclear
    | dirFailure path fault => cases hclear

/-- A project that lists its entries against the order of names. One of its headers is a link, and
another link leads to a directory. -/
def sharedDisk : Disk :=
  ⟨.dir [
    (Utf8.encode "shared", .dir [(Utf8.encode "x.h", .file (Utf8.encode "x"))]),
    (Utf8.encode "app", .dir [
      (Utf8.encode "main.c", .file (Utf8.encode "m")),
      (Utf8.encode "b.h", .link (Path.ofString "../shared/x.h")),
      (Utf8.encode "lib", .link (Path.ofString "../shared")),
      (Utf8.encode "a.HH", .file (Utf8.encode "a"))])], []⟩

/-- The scan tells the two headers in the order of names and the catalog in that of the listing. -/
theorem headers_perm_entries_of_sharedDisk :
    (Catalog.build sharedDisk [Path.ofString "app"] []).entries =
      [Path.ofString "app/b.h", Path.ofString "app/a.HH"] ∧
    ∃ project, scan sharedDisk (Path.ofString "app") = .ok project ∧
      project.files.headers = [Path.ofString "app/a.HH", Path.ofString "app/b.h"] ∧
      project.files.headers.Perm (Catalog.build sharedDisk [Path.ofString "app"] []).entries ∧
      (Catalog.build sharedDisk [Path.ofString "app"] []).skipped = [] := by
  have hheaders : (scan sharedDisk (Path.ofString "app")).toOption.map (·.files.headers) =
      some [Path.ofString "app/a.HH", Path.ofString "app/b.h"] := by
    cbv
  obtain ⟨project, h, hproject⟩ := exists_scan_of_map hheaders
  obtain ⟨hperm, -, -, hskipped⟩ := headers_perm_entries_of_scan (by decide +kernel) h
  exact ⟨by decide +kernel, project, h, hproject, hperm, hskipped⟩

end Project

end HeaderSearch
