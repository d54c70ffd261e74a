/-
# What becomes of a scan

A scan can fail in two ways, and one comes before the other. It walks first, and the first step of
the walk that fails ends it, whatever it would have met afterwards and whatever files it has met
already that cannot be read. Only if the whole walk succeeds are the sources read, and then it is
the order of reading that decides which of several unreadable files is reported: headers, then C,
then C++, and not the order in which they were met.

`FailsWith` states this without running anything. A scan fails exactly with the errors that it
admits, and succeeds exactly if there is neither a failing step nor an unreadable source.
-/

import HeaderSearch.Proofs.Disk.Reached
import HeaderSearch.Proofs.Project.Extraction
import HeaderSearch.Proofs.Project.Sources

namespace HeaderSearch.Project

variable {disk : Disk} {root : Path} {error : ScanError}

/-- The error that reading the file stops with, if it cannot be read. -/
def readError? (disk : Disk) (file : Path) : Option ScanError :=
  match disk.readFile file with
  | .error fault => some (.read file fault)
  | .ok _ => none

theorem readError?_eq_some_iff {file : Path} : readError? disk file = some error ↔
    ∃ fault, disk.readFile file = .error fault ∧ error = .read file fault := by
  unfold readError?
  cases disk.readFile file <;> simp [eq_comm]

theorem readError?_eq_none_iff {file : Path} :
    readError? disk file = none ↔ ∃ data, disk.readFile file = .ok data := by
  unfold readError?
  cases disk.readFile file <;> simp

/-- Reading stops at the first file that cannot be read. -/
theorem readAll_eq_error_iff {files : List Path} :
    readAll disk files = .error error ↔ files.findSome? (readError? disk) = some error := by
  induction files with
  | nil => simp [readAll]
  | cons file rest ih =>
      rw [List.findSome?_cons, readAll, readError?]
      cases disk.readFile file with
      | error fault => simp
      | ok data =>
          dsimp only
          rw [← ih]
          cases readAll disk rest with
          | error other => exact Iff.rfl
          | ok more => simp [Except.map]

theorem exists_readAll_eq_ok_iff {files : List Path} :
    (∃ corpus, readAll disk files = .ok corpus) ↔
      ∀ file ∈ files, ∃ data, disk.readFile file = .ok data := by
  simp only [← readError?_eq_none_iff, ← List.findSome?_eq_none_iff]
  cases hread : readAll disk files with
  | error error => simp [readAll_eq_error_iff.1 hread]
  | ok corpus =>
      refine iff_of_true ⟨corpus, rfl⟩ (Option.eq_none_iff_forall_ne_some.2 fun error herror => ?_)
      rw [readAll_eq_error_iff.2 herror] at hread
      cases hread

/-- How a scan of `root` fails. -/
inductive FailsWith (disk : Disk) (root : Path) : ScanError → Prop where
  /-- A step of the walk fails, and no step before it. -/
  | walk {before after : List Visit} {visit : Visit} {fault : Fault}
      (steps : disk.sortedWalk root = before ++ visit :: after)
      (clear : ∀ earlier ∈ before, earlier.fault? = none)
      (fails : visit.fault? = some fault) : FailsWith disk root (.walk root fault)
  /-- No step of the walk fails. A source cannot be read, and those to be read before it can. -/
  | read {before after : List Path} {file : Path} {fault : Fault}
      (clear : ∀ visit ∈ disk.sortedWalk root, visit.fault? = none)
      (files : (SourceFiles.ofVisits (disk.sortedWalk root)).all = before ++ file :: after)
      (readable : ∀ earlier ∈ before, ∃ data, disk.readFile earlier = .ok data)
      (fails : disk.readFile file = .error fault) : FailsWith disk root (.read file fault)

theorem failsWith_iff : FailsWith disk root error ↔
    (∃ fault, (disk.sortedWalk root).findSome? Visit.fault? = some fault ∧
      error = .walk root fault) ∨
    ((disk.sortedWalk root).findSome? Visit.fault? = none ∧
      (SourceFiles.ofVisits (disk.sortedWalk root)).all.findSome? (readError? disk) =
        some error) := by
  constructor
  · intro h
    cases h with
    | walk steps clear fails =>
        exact .inl ⟨_, List.findSome?_eq_some_iff.2 ⟨_, _, _, steps, fails, clear⟩, rfl⟩
    | read clear files readable fails =>
        refine .inr ⟨List.findSome?_eq_none_iff.2 clear, List.findSome?_eq_some_iff.2 ?_⟩
        refine ⟨_, _, _, files, readError?_eq_some_iff.2 ⟨_, fails, rfl⟩, ?_⟩
        intro earlier hearlier
        exact readError?_eq_none_iff.2 (readable earlier hearlier)
  · rintro (⟨fault, hwalk, rfl⟩ | ⟨hclear, hread⟩)
    · obtain ⟨before, visit, after, hsteps, hfails, hbefore⟩ := List.findSome?_eq_some_iff.1 hwalk
      exact .walk hsteps hbefore hfails
    · obtain ⟨before, file, after, hfiles, herror, hbefore⟩ := List.findSome?_eq_some_iff.1 hread
      obtain ⟨fault, hfile, rfl⟩ := readError?_eq_some_iff.1 herror
      refine .read (List.findSome?_eq_none_iff.1 hclear) hfiles ?_ hfile
      intro earlier hearlier
      exact readError?_eq_none_iff.1 (hbefore earlier hearlier)

/-- A scan fails in no other way. -/
theorem scan_eq_error_iff : scan disk root = .error error ↔ FailsWith disk root error := by
  rw [failsWith_iff, ← readAll_eq_error_iff, scan]
  dsimp only
  cases (disk.sortedWalk root).findSome? Visit.fault? with
  | some fault => simp [eq_comm]
  | none =>
      cases readAll disk (SourceFiles.ofVisits (disk.sortedWalk root)).all <;> simp [Except.map]

/-- A scan succeeds exactly if no step of the walk fails and every source can be read. -/
theorem exists_scan_eq_ok_iff : (∃ project, scan disk root = .ok project) ↔
    (∀ visit ∈ disk.sortedWalk root, visit.fault? = none) ∧
      ∀ file ∈ disk.sources root, ∃ data, disk.readFile file = .ok data := by
  simp only [← Disk.mem_all_iff_mem_sources, ← exists_readAll_eq_ok_iff, scan_eq_ok_iff]
  constructor
  · rintro ⟨project, hwalk, -, hfiles, hread⟩
    exact ⟨hwalk, project.corpus, hfiles ▸ hread⟩
  · rintro ⟨hwalk, corpus, hread⟩
    exact ⟨⟨root, _, corpus⟩, hwalk, rfl, rfl, hread⟩

/-- A scan succeeds exactly if neither a step of its walk nor the reading of a source fails. If it
fails, then with the first failing step of the walk, and if there is none, with the first file in
the order of reading that cannot be read. If it succeeds, the sources are sorted by kind, no source
is lost or met twice, and the corpus is the bytes of all of them, each with a line feed in front. -/
theorem scan_outcome (disk : Disk) (root : Path) :
    ((∃ project, scan disk root = .ok project) ↔
      (∀ visit ∈ disk.sortedWalk root, visit.fault? = none) ∧
        ∀ file ∈ disk.sources root, ∃ data, disk.readFile file = .ok data) ∧
    (∀ error, scan disk root = .error error ↔ FailsWith disk root error) ∧
    (∀ project, scan disk root = .ok project →
      project.files.Sorts (disk.sources root) ∧
      ∃ contents,
        List.Forall₂ (fun file data => disk.readFile file = .ok data)
          (project.files.headers ++ project.files.c ++ project.files.cpp) contents ∧
        project.corpus = contents.flatMap (Include.lineFeed :: ·)) ∧
    (disk.root.Proper → (disk.sources root).Nodup) := by
  refine ⟨exists_scan_eq_ok_iff, fun error => scan_eq_error_iff, ?_, ?_⟩
  · intro project hscan
    obtain ⟨-, -, hfiles, hread⟩ := scan_eq_ok_iff.1 hscan
    refine ⟨?_, readAll_eq_ok_iff.1 hread⟩
    rw [hfiles]
    exact SourceFiles.sorts_ofVisits _
  · intro hproper
    exact Path.nodup_of_pairwise_not_same (Disk.pairwise_sources hproper root)

/-- Two projects. Both have a header behind a C source in the order of names; in the first of them
both are links that lead nowhere. -/
def twoProjectsDisk : Disk :=
  ⟨.dir [
    (Utf8.encode "gone", .dir [
      (Utf8.encode "a.c", .link (Path.ofString "nowhere")),
      (Utf8.encode "b.h", .link (Path.ofString "nowhere"))]),
    (Utf8.encode "whole", .dir [
      (Utf8.encode "a.c", .file (Utf8.encode "x")),
      (Utf8.encode "b.H", .file (Utf8.encode "y")),
      (Utf8.encode "c.txt", .file (Utf8.encode "z"))])], []⟩

/-- Of the links that lead nowhere the header is reported, which comes first in the order of
reading. The other project is scanned, and its header stands first in the corpus. -/
theorem scan_outcome_of_twoProjects :
    FailsWith twoProjectsDisk (Path.ofString "gone")
      (.read (Path.ofString "gone/b.h") .missing) ∧
    (twoProjectsDisk.sources (Path.ofString "whole")).Nodup ∧
    ∃ project, scan twoProjectsDisk (Path.ofString "whole") = .ok project ∧
      project.corpus = Utf8.encode "\ny\nx" ∧
      project.files.Sorts (twoProjectsDisk.sources (Path.ofString "whole")) := by
  have hgone : scan twoProjectsDisk (Path.ofString "gone") =
      .error (.read (Path.ofString "gone/b.h") .missing) := by
    cbv
  have hcorpus : (scan twoProjectsDisk (Path.ofString "whole")).toOption.map corpus =
      some (Utf8.encode "\ny\nx") := by
    cbv
  obtain ⟨-, hfails, -, -⟩ := scan_outcome twoProjectsDisk (Path.ofString "gone")
  obtain ⟨-, -, hsorts, hnodup⟩ := scan_outcome twoProjectsDisk (Path.ofString "whole")
  refine ⟨(hfails _).1 hgone, hnodup (by decide +kernel), ?_⟩
  obtain ⟨project, h, hproject⟩ := exists_scan_of_map hcorpus
  exact ⟨project, h, hproject, (hsorts project h).1⟩

end HeaderSearch.Project
