/-
# Answers from the local directories

The local directories are probed and not indexed: the first candidate under which there is anything
is the answer. Nothing is said about what is there, except that a link which leads nowhere does not
count. So a directory is reported like a file, and it is for the reader of the answer to tell the
two apart. The test by which files are admitted to the catalog does, since a disk holds nothing but
files, directories and links; a device or a pipe would be neither of the two, and is left out here.
-/

import HeaderSearch.Proofs.Disk.Reached
import HeaderSearch.Proofs.Resolution.Stages

namespace HeaderSearch.SearchSpace

variable {space : SearchSpace} {name : String} {path : Path}

/-- An answer from the local directories is the first candidate under which there is anything, so it
does not dangle. It leads to a file or to a directory, as everything on a disk does once its links
are followed, and it passes for a file exactly if it is no directory. -/
theorem first_candidate_of_locate?_localDir
    (h : space.locate? name = some ⟨path, .localDir⟩) :
    (∃ before after, space.localDirs.candidates name = before ++ path :: after ∧
      ∀ earlier ∈ before, space.disk.pathExists earlier = false) ∧
    space.disk.pathExists path = true ∧
    space.disk.isFile path = !space.disk.isDirectory path := by
  obtain ⟨before, after, hcandidates, hexists, hbefore⟩ :=
    localPath?_eq_some_iff.1 (locate?_localDir_iff.1 h).2
  exact ⟨⟨before, after, hcandidates, hbefore⟩, hexists,
    Disk.isFile_eq_not_isDirectory hexists⟩

/-- A search in the conventional directories of a project that has a header and a directory. -/
def projectSpace : SearchSpace :=
  ⟨.empty [], .conventional,
    ⟨.dir [
      (Utf8.encode "include", .dir [(Utf8.encode "a.h", .file [])]),
      (Utf8.encode "sys", .dir [])], []⟩⟩

theorem include_header_of_locate? :
    projectSpace.locate? "a.h" = some ⟨Path.ofString "include/a.h", .localDir⟩ ∧
    (∃ before after,
      projectSpace.localDirs.candidates "a.h" = before ++ Path.ofString "include/a.h" :: after ∧
      ∀ earlier ∈ before, projectSpace.disk.pathExists earlier = false) ∧
    projectSpace.disk.pathExists (Path.ofString "include/a.h") = true ∧
    projectSpace.disk.isFile (Path.ofString "include/a.h") =
      !projectSpace.disk.isDirectory (Path.ofString "include/a.h") := by
  have hfound : projectSpace.locate? "a.h" =
      some ⟨Path.ofString "include/a.h", .localDir⟩ := by
    decide +kernel
  exact ⟨hfound, first_candidate_of_locate?_localDir hfound⟩

/-- A directory that has the name of the include is reported as its header. -/
theorem directory_of_locate? :
    projectSpace.locate? "sys" = some ⟨Path.ofString "sys", .localDir⟩ ∧
    projectSpace.disk.isDirectory (Path.ofString "sys") = true ∧
    projectSpace.disk.isFile (Path.ofString "sys") = false := by
  refine ⟨?_, ?_, ?_⟩
  all_goals decide +kernel

end HeaderSearch.SearchSpace
