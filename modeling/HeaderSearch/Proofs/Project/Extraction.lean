/-
# Extraction file by file

A scan reads the sources of a project into one corpus and looks for directives there. What it finds
is what it would find in the files one by one: the corpus is the contents of the files, each with a
line feed in front, and no line goes on from one file into the next. This needs nothing of the
files, which may end without a line feed and in the middle of a character.
-/

import HeaderSearch.Project.Scan
import HeaderSearch.Proofs.Include.Joined
import Mathlib

namespace HeaderSearch.Project

variable {disk : Disk}

/-- Files are read exactly if each of them can be read, and then the corpus is their contents, each
with a line feed in front. -/
theorem readAll_eq_ok_iff {files : List Path} {corpus : List UInt8} :
    readAll disk files = .ok corpus ↔
      ∃ contents, List.Forall₂ (fun file data => disk.readFile file = .ok data) files contents ∧
        corpus = Include.joined contents := by
  induction files generalizing corpus with
  | nil =>
      constructor
      · intro h
        cases h
        exact ⟨[], .nil, rfl⟩
      · rintro ⟨contents, hcontents, rfl⟩
        cases hcontents
        rfl
  | cons file rest ih =>
      unfold readAll
      cases hfile : disk.readFile file with
      | error fault =>
          refine iff_of_false nofun ?_
          rintro ⟨contents, hcontents, -⟩
          cases hcontents with
          | cons hdata _ =>
              rw [hfile] at hdata
              cases hdata
      | ok data =>
          dsimp only
          constructor
          · intro h
            cases hrest : readAll disk rest with
            | error error =>
                rw [hrest] at h
                cases h
            | ok more =>
                rw [hrest] at h
                cases h
                obtain ⟨contents, hcontents, rfl⟩ := ih.1 hrest
                exact ⟨data :: contents, .cons hfile hcontents, rfl⟩
          · rintro ⟨contents, hcontents, rfl⟩
            cases hcontents with
            | @cons _ data' _ others hdata hothers =>
                rw [hfile] at hdata
                cases hdata
                rw [ih.2 ⟨others, hothers, rfl⟩]
                rfl

/-- A scan succeeds exactly if no step of the walk fails and the source files that it visits can be
read. -/
theorem scan_eq_ok_iff {root : Path} {project : Project} :
    scan disk root = .ok project ↔
      (∀ visit ∈ disk.sortedWalk root, visit.fault? = none) ∧ project.root = root ∧
        project.files = .ofVisits (disk.sortedWalk root) ∧
        readAll disk project.files.all = .ok project.corpus := by
  unfold scan
  dsimp only
  split
  · next fault hfault =>
    refine iff_of_false nofun fun ⟨hwalk, _⟩ => ?_
    rw [List.findSome?_eq_none_iff.2 hwalk] at hfault
    cases hfault
  · next hwalk =>
    rw [List.findSome?_eq_none_iff] at hwalk
    constructor
    · intro h
      cases hread : readAll disk (SourceFiles.ofVisits (disk.sortedWalk root)).all with
      | error error =>
          rw [hread] at h
          cases h
      | ok corpus =>
          rw [hread] at h
          cases h
          exact ⟨hwalk, rfl, rfl, hread⟩
    · rintro ⟨-, hroot, hfiles, hread⟩
      obtain ⟨root', files, corpus⟩ := project
      dsimp only at hroot hfiles hread
      rw [← hfiles, hread, hroot]
      rfl

theorem exists_scan_of_map {α : Type} {root : Path} {f : Project → α} {a : α}
    (h : (scan disk root).toOption.map f = some a) :
    ∃ project, scan disk root = .ok project ∧ f project = a := by
  cases hscan : scan disk root with
  | error error =>
      rw [hscan] at h
      cases h
  | ok project =>
      rw [hscan] at h
      exact ⟨project, rfl, Option.some.inj h⟩

/-- The directives of a project are those of its files, file by file: headers, then C, then C++,
each in the order of the walk. So its names are the names in its files, and it needs the thread
libraries exactly if one of its files does. -/
theorem directives_eq_flatMap_of_scan {root : Path} {project : Project}
    (h : scan disk root = .ok project) :
    project.files = .ofVisits (disk.sortedWalk root) ∧
    ∃ contents,
      List.Forall₂ (fun file data => disk.readFile file = .ok data)
        (project.files.headers ++ project.files.c ++ project.files.cpp) contents ∧
      project.directives = contents.flatMap Include.directives ∧
      (∀ name, name ∈ project.includes ↔ ∃ data ∈ contents, name ∈ Include.shortNames data) ∧
      (Include.needsThreads project.includes = true ↔
        ∃ data ∈ contents, Include.needsThreads (Include.shortNames data) = true) := by
  obtain ⟨-, -, hfiles, hread⟩ := scan_eq_ok_iff.1 h
  obtain ⟨contents, hcontents, hcorpus⟩ := readAll_eq_ok_iff.1 hread
  refine ⟨hfiles, contents, hcontents, ?_, ?_, ?_⟩
  · rw [directives, hcorpus, Include.directives_joined]
  · intro name
    rw [includes, hcorpus, Include.mem_shortNames_joined]
  · rw [includes, hcorpus, Include.needsThreads_joined_iff]

/-- A project of a header that ends in the middle of a directive and of a character, of a C source
that begins with the rest of both, and of a C++ source that uses threads. -/
def cutDisk : Disk :=
  ⟨.dir [
    (Utf8.encode "p.cpp", .file (Utf8.encode "#include <pthread.h>")),
    (Utf8.encode "b.c", .file (0x80 :: Utf8.encode "clude <mutex>\n#include <b.h>")),
    (Utf8.encode "a.h", .file (Utf8.encode "#include <a.h>\n#in" ++ [0xE2, 0x82]))], []⟩

/-- The files of the project make three directives, and what is cut in two makes none. The threads
that the project needs are those of its last file. -/
theorem directives_of_cut_files :
    ∃ project, scan cutDisk (Path.ofString ".") = .ok project ∧
      project.directives = ["#include <a.h>", "#include <b.h>", "#include <pthread.h>"] ∧
      project.includes.toList = ["a.h", "b.h", "pthread.h"] ∧
      Include.needsThreads project.includes = true ∧
      project.files = .ofVisits (cutDisk.sortedWalk (Path.ofString ".")) ∧
      ∃ contents,
        List.Forall₂ (fun file data => cutDisk.readFile file = .ok data)
          (project.files.headers ++ project.files.c ++ project.files.cpp) contents ∧
        project.directives = contents.flatMap Include.directives ∧
        (∀ name, name ∈ project.includes ↔ ∃ data ∈ contents, name ∈ Include.shortNames data) ∧
        (Include.needsThreads project.includes = true ↔
          ∃ data ∈ contents, Include.needsThreads (Include.shortNames data) = true) := by
  have hfound : (scan cutDisk (Path.ofString ".")).toOption.map directives =
      some ["#include <a.h>", "#include <b.h>", "#include <pthread.h>"] := by
    cbv
  obtain ⟨project, h, hdirectives⟩ := exists_scan_of_map hfound
  have hnames : project.includes.toList = ["a.h", "b.h", "pthread.h"] := by
    have hof : project.includes = .ofList (project.directives.map Include.shortName) := rfl
    rw [hof, hdirectives]
    decide +kernel
  refine ⟨project, h, hdirectives, hnames, ?_, directives_eq_flatMap_of_scan h⟩
  refine List.any_eq_true.2 ⟨"pthread.h", by decide, decide_eq_true ?_⟩
  exact show "pthread.h" ∈ project.includes.toList by rw [hnames]; decide

end HeaderSearch.Project
