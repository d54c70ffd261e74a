/-
# Links to directories

A scan passes over directories, but it goes by the type of the entry itself. A link that leads to a
directory is no directory in this sense, and if its name ends like that of a source, the scan tries
to read it and fails. This can happen in a project in which nothing is broken: every directory can
be listed, every link leads somewhere and every file can be read. But it is also all that can go
wrong in such a project, whether the link lies in it or is the root itself.
-/

import HeaderSearch.Proofs.Project.Outcome

namespace HeaderSearch

namespace Visit

/-- Nothing is broken where the step leads: a link leads to a file or to a directory, and a file
with a recognised extension can be read. -/
def IsIntact (disk : Disk) : Visit → Prop
  | .entry _ .dir => True
  | .entry path .link => disk.pathExists path = true
  | .entry path .file => (SourceKind.ofPath? path).isSome → ∃ data, disk.readFile path = .ok data
  | .rootFailure _ => False
  | .dirFailure _ _ => False

instance (disk : Disk) : DecidablePred (IsIntact disk)
  | .entry _ .dir => instDecidableTrue
  | .entry path .link => inferInstanceAs (Decidable (disk.pathExists path = true))
  | .entry path .file =>
    decidable_of_iff ((SourceKind.ofPath? path).isSome → disk.isFile path = true)
      (imp_congr_right fun _ => Disk.exists_readFile_eq_ok_iff.symm)
  | .rootFailure _ => instDecidableFalse
  | .dirFailure _ _ => instDecidableFalse

theorem IsIntact.fault?_eq_none {disk : Disk} {visit : Visit} (h : visit.IsIntact disk) :
    visit.fault? = none := by
  cases visit with
  | entry path type => rfl
  | rootFailure fault => exact h.elim
  | dirFailure path fault => exact h.elim

end Visit

namespace Project

variable {disk : Disk} {root file : Path}

/-- Where nothing is broken, a source is read unless it is a link that leads to a directory. -/
theorem isFile_or_isDirectory_of_intact (hintact : ∀ visit ∈ disk.walk root, visit.IsIntact disk)
    (hfile : file ∈ disk.sources root) : disk.isFile file = true ∨
      disk.isDirectory file = true ∧ Visit.entry file .link ∈ disk.walk root := by
  obtain ⟨type, hvisit, hdir, hkind⟩ := Disk.mem_sources_iff.1 hfile
  have hleads := hintact _ hvisit
  cases type with
  | dir => exact absurd rfl hdir
  | file => exact .inl (Disk.exists_readFile_eq_ok_iff.1 (hleads hkind))
  | link =>
      have hisFile := Disk.isFile_eq_not_isDirectory hleads
      cases hisDirectory : disk.isDirectory file with
      | false =>
          rw [hisDirectory] at hisFile
          exact .inl hisFile
      | true => exact .inr ⟨rfl, hvisit⟩

/-- Where nothing is broken, reading stops at the sources that are directories. -/
theorem readError?_of_intact (hintact : ∀ visit ∈ disk.walk root, visit.IsIntact disk)
    (hfile : file ∈ disk.sources root) :
    readError? disk file = (Option.guard disk.isDirectory file).map (.read · .isDirectory) := by
  cases hisDirectory : disk.isDirectory file with
  | true => simp [readError?, Disk.readFile_of_isDirectory hisDirectory, hisDirectory]
  | false =>
      have hisFile : disk.isFile file = true := by
        apply (isFile_or_isDirectory_of_intact hintact hfile).resolve_right
        rintro ⟨hdir, -⟩
        exact Bool.eq_false_iff.1 hisDirectory hdir
      rw [readError?_eq_none_iff.2 (Disk.exists_readFile_eq_ok_iff.2 hisFile)]
      simp [hisDirectory]

theorem findSome?_readError?_of_intact (hintact : ∀ visit ∈ disk.walk root, visit.IsIntact disk) :
    (SourceFiles.ofVisits (disk.sortedWalk root)).all.findSome? (readError? disk) =
      ((SourceFiles.ofVisits (disk.sortedWalk root)).all.find? disk.isDirectory).map
        (.read · .isDirectory) := by
  rw [← List.findSome?_guard, List.map_findSome?, ← List.head?_filterMap, ← List.head?_filterMap]
  apply congrArg List.head?
  apply List.filterMap_congr
  intro file hfile
  exact readError?_of_intact hintact (Disk.mem_all_iff_mem_sources.1 hfile)

/-- Only files are read. -/
theorem isFile_of_mem_all_of_scan {project : Project} (h : scan disk root = .ok project)
    (hfile : file ∈ project.files.all) : disk.isFile file = true := by
  obtain ⟨-, -, hfiles, -⟩ := scan_eq_ok_iff.1 h
  obtain ⟨-, hreadable⟩ := exists_scan_eq_ok_iff.1 ⟨project, h⟩
  rw [hfiles, Disk.mem_all_iff_mem_sources] at hfile
  exact Disk.exists_readFile_eq_ok_iff.1 (hreadable file hfile)

/-- If nothing is broken in a project, it can be scanned exactly if no link with the name of a
source leads to a directory. If there are such links, the first of them in the order of reading is
reported, and reported as a directory. What has been read are files in any case. -/
theorem scan_of_intact (hintact : ∀ visit ∈ disk.walk root, visit.IsIntact disk) :
    ((∃ project, scan disk root = .ok project) ↔
      ∀ link, Visit.entry link .link ∈ disk.walk root → (SourceKind.ofPath? link).isSome →
        disk.isDirectory link = false) ∧
    (∀ error, scan disk root = .error error ↔
      ∃ link, error = .read link .isDirectory ∧ Visit.entry link .link ∈ disk.walk root ∧
        (SourceFiles.ofVisits (disk.sortedWalk root)).all.find? disk.isDirectory = some link) ∧
    (∀ project, scan disk root = .ok project →
      ∀ file ∈ project.files.all, disk.isFile file = true) := by
  have hclear : ∀ visit ∈ disk.sortedWalk root, visit.fault? = none := fun visit hvisit =>
    (hintact visit (Disk.mem_sortedWalk_iff.1 hvisit)).fault?_eq_none
  refine ⟨?_, fun error => ?_, fun project h file => isFile_of_mem_all_of_scan h⟩
  · rw [exists_scan_eq_ok_iff, and_iff_right hclear]
    constructor
    · intro hreadable link hvisit hkind
      have hsource := Disk.mem_sources_iff.2 ⟨.link, hvisit, nofun, hkind⟩
      have hisFile := Disk.exists_readFile_eq_ok_iff.1 (hreadable link hsource)
      exact Bool.eq_false_iff.2 fun hdir => Disk.not_isFile_of_isDirectory hdir hisFile
    · intro hlinks file hfile
      rw [Disk.exists_readFile_eq_ok_iff]
      rcases isFile_or_isDirectory_of_intact hintact hfile with hisFile | ⟨hdir, hvisit⟩
      · exact hisFile
      · obtain ⟨-, -, -, hkind⟩ := Disk.mem_sources_iff.1 hfile
        exact absurd hdir (Bool.eq_false_iff.1 (hlinks file hvisit hkind))
  · -- No step of the walk fails, so it is the first unreadable source that is reported.
    rw [scan_eq_error_iff, failsWith_iff, List.findSome?_eq_none_iff.2 hclear,
      findSome?_readError?_of_intact hintact]
    constructor
    · rintro (⟨fault, hfault, -⟩ | ⟨-, hfails⟩)
      · cases hfault
      · obtain ⟨link, hfirst, rfl⟩ := Option.map_eq_some_iff.1 hfails
        have hsource := Disk.mem_all_iff_mem_sources.1 (List.mem_of_find?_eq_some hfirst)
        rcases isFile_or_isDirectory_of_intact hintact hsource with hisFile | ⟨-, hvisit⟩
        · exact absurd hisFile (Disk.not_isFile_of_isDirectory (List.find?_some hfirst))
        · exact ⟨link, rfl, hvisit, hfirst⟩
    · rintro ⟨link, rfl, -, hfirst⟩
      exact .inr ⟨rfl, Option.map_eq_some_iff.2 ⟨link, hfirst, rfl⟩⟩

/-- A disk on which nothing is broken. Links to directories are called `vendor` and `current`, but
also `bad/x.h` and `app.c`. -/
def linkedDisk : Disk :=
  ⟨.dir [
    (Utf8.encode "app", .dir [
      (Utf8.encode "api.h", .link (Path.ofString "../lib/api.h")),
      (Utf8.encode "main.c", .file (Utf8.encode "m")),
      (Utf8.encode "vendor", .link (Path.ofString "../lib"))]),
    (Utf8.encode "app.c", .link (Path.ofString "app")),
    (Utf8.encode "bad", .dir [(Utf8.encode "x.h", .link (Path.ofString "../lib"))]),
    (Utf8.encode "current", .link (Path.ofString "app")),
    (Utf8.encode "lib", .dir [(Utf8.encode "api.h", .file (Utf8.encode "a"))])], []⟩

/-- The links `current` and `vendor` do not stop the scan. -/
theorem scan_of_intact_linkedDisk :
    (∀ visit ∈ linkedDisk.walk (Path.ofString "current"), visit.IsIntact linkedDisk) ∧
    Visit.entry (Path.ofString "current") .link ∈ linkedDisk.walk (Path.ofString "current") ∧
    Visit.entry (Path.ofString "current/vendor") .link ∈
      linkedDisk.walk (Path.ofString "current") ∧
    ∃ project, scan linkedDisk (Path.ofString "current") = .ok project := by
  have hintact : ∀ visit ∈ linkedDisk.walk (Path.ofString "current"),
      visit.IsIntact linkedDisk := by
    decide +kernel
  have hfiles : ∀ file ∈ (linkedDisk.walk (Path.ofString "current")).filterMap Visit.sourcePath?,
      linkedDisk.isDirectory file = false := by
    decide +kernel
  refine ⟨hintact, by decide +kernel, by decide +kernel, (scan_of_intact hintact).1.2 ?_⟩
  intro link hvisit hkind
  apply hfiles link (List.mem_filterMap.2 ⟨_, hvisit, ?_⟩)
  exact Visit.sourcePath?_eq_some_iff.2 ⟨.link, rfl, nofun, hkind⟩

/-- The links `bad/x.h` and `app.c` do: `bad` and `app.c` cannot be scanned, though nothing in them
is broken. -/
theorem scan_of_linked_directory_fails :
    (∀ visit ∈ linkedDisk.walk (Path.ofString "bad"), visit.IsIntact linkedDisk) ∧
    scan linkedDisk (Path.ofString "bad") =
      .error (.read (Path.ofString "bad/x.h") .isDirectory) ∧
    (∀ visit ∈ linkedDisk.walk (Path.ofString "app.c"), visit.IsIntact linkedDisk) ∧
    scan linkedDisk (Path.ofString "app.c") =
      .error (.read (Path.ofString "app.c") .isDirectory) := by
  refine ⟨by decide +kernel, ?_, by decide +kernel, ?_⟩
  · cbv
  · cbv

end Project

end HeaderSearch
