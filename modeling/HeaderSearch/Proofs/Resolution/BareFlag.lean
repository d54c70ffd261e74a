/-
# Flags that name no directory

Where a header is found as far below the working directory as its include has components, nothing is
left of its path after going up once for each of them. The include directory is then the working
directory, spelled as the empty path and not as `.`, and a package system that writes the directory
behind `-I` writes a bare `-I`.

For an include that consists of names alone this happens exactly if its header is found under the
path that the include spells.
-/

import HeaderSearch.Proofs.Path.Displayed
import HeaderSearch.Proofs.Resolution.DirOrder
import HeaderSearch.Proofs.Resolution.IncludeDir

namespace HeaderSearch

namespace Path

/-- Going up from the header once for each component of the include leaves nothing of its path. -/
def UsedUpBy (header written : Path) : Prop :=
  header.isAbsolute = false ∧ header.components.length = written.components.length

instance (header written : Path) : Decidable (header.UsedUpBy written) :=
  inferInstanceAs (Decidable (_ ∧ _))

theorem exists_includeDir?_iff_usedUpBy {header written : Path} :
    (∃ dir, header.includeDir? written = some dir ∧ dir.components = []) ↔
      header.UsedUpBy written := by
  rw [includeDir?, exists_ancestor?_iff, UsedUpBy, ← Bool.not_eq_true, isAbsolute_iff_root_mem]
  constructor
  · rintro ⟨back, hback, hlength, hroot⟩
    rw [List.nil_append] at hback
    rw [hback]
    exact ⟨hroot, hlength⟩
  · rintro ⟨hroot, hlength⟩
    exact ⟨header.components, rfl, hlength, hroot⟩

/-- A header whose path ends in the include is used up by it only if nothing stands before. -/
theorem EndsWith.usedUpBy_iff {header written : Path} (h : header.EndsWith written) :
    header.UsedUpBy written ↔ header.Same written := by
  obtain ⟨hsuffix, hroot⟩ := h
  constructor
  · rintro ⟨-, hlength⟩
    exact (hsuffix.eq_of_length hlength.symm).symm
  · intro hsame
    refine ⟨?_, congrArg List.length hsame⟩
    rwa [← Bool.not_eq_true, isAbsolute_iff_root_mem, show header.components = _ from hsame]

/-- Only the empty path is displayed as nothing. -/
theorem display_eq_empty_iff {p : Path} : p.display = "" ↔ p.bytes = [] := by
  constructor
  · intro hempty
    apply Name.shown_eq_nil_iff.1
    rw [Name.shown, show Utf8.lossy p.bytes = "" from hempty]
    rfl
  · intro hnil
    rw [display, hnil]
    rfl

end Path

open HeaderSearch.Path

namespace Resolution

variable {resolution : Resolution}

/-- An include directory has no text exactly if some header is used up by its include. -/
theorem exists_empty_includeDir_iff :
    (∃ dir ∈ resolution.includeDirs, dir.bytes = []) ↔
      ∃ name hit, (name, hit) ∈ resolution.found ∧ hit.path.UsedUpBy (ofString name) := by
  have hempty (dir : Path) : dir.bytes = [] ↔ dir.Same ⟨[]⟩ := bytes_eq_nil_iff
  simp only [hempty, exists_mem_includeDirs_iff, ← exists_includeDir?_iff_usedUpBy]
  rfl

end Resolution

/-- A package system that writes `-I` and the directory behind it. -/
def PackageSystem.writingDirs (provides : String → Except LookupFailure (List Path)) :
    PackageSystem :=
  ⟨provides, fun dir => "-I" ++ dir.display⟩

/-- The flag names no directory exactly if the directory has no text. -/
theorem Resolution.bare_flag_mem_iff {resolution : Resolution}
    {provides : String → Except LookupFailure (List Path)} :
    "-I" ∈ resolution.flags (.writingDirs provides) ↔
      ∃ dir ∈ resolution.includeDirs, dir.bytes = [] := by
  have hbare (dir : Path) : "-I" ++ dir.display = "-I" ↔ dir.bytes = [] := by
    rw [String.append_eq_left_iff, display_eq_empty_iff]
  simp only [flags, PackageSystem.writingDirs, List.mem_map, hbare]

namespace SearchSpace

variable {space : SearchSpace} {name : String} {hit : Hit} {names : IncludeNames}

/-- Names alone are not cleaned away, so a header that is found for them ends in them. -/
theorem endsWith_of_isPlain (h : space.locate? name = some hit)
    (hplain : (ofString name).IsPlain) : hit.path.EndsWith (ofString name) := by
  refine ⟨?_, ?_⟩
  · rcases path_of_locate? h with ⟨dir, hpath⟩ | ⟨text, hpath⟩
    · rw [hpath, components_cleanJoin, hplain.cleanJoinComponents_eq]
      split
      · next hnil =>
        rw [(List.append_eq_nil_iff.1 hnil).2]
        exact List.nil_suffix
      · exact List.suffix_append _ _
    · rw [hpath, components_append_slash, hplain.components_eq]
      exact List.suffix_append _ _
  · exact hplain.root_notMem

/-- Some include directory has no text, and a bare `-I` is written for it, exactly if the path of
some header found is relative and has as many components as its include. For a plain include that
means that its header is found under the path that the include spells. -/
theorem empty_includeDir_iff (provides : String → Except LookupFailure (List Path)) :
    ((∃ dir ∈ (space.resolve names).includeDirs, dir.bytes = []) ↔
      ∃ name hit, (name, hit) ∈ (space.resolve names).found ∧
        hit.path.UsedUpBy (ofString name)) ∧
    ("-I" ∈ (space.resolve names).flags (.writingDirs provides) ↔
      ∃ name hit, (name, hit) ∈ (space.resolve names).found ∧
        hit.path.UsedUpBy (ofString name)) ∧
    ∀ name hit, (name, hit) ∈ (space.resolve names).found → (ofString name).IsPlain →
      (hit.path.UsedUpBy (ofString name) ↔ hit.path.Same (ofString name)) := by
  refine ⟨Resolution.exists_empty_includeDir_iff, ?_, ?_⟩
  · rw [Resolution.bare_flag_mem_iff, Resolution.exists_empty_includeDir_iff]
  · intro name hit hfound hplain
    exact (endsWith_of_isPlain (mem_found_resolve.1 hfound).2 hplain).usedUpBy_iff

/-- A search beside a header in the working directory and another one below it. -/
def workingSpace : SearchSpace :=
  ⟨.empty [], .conventional,
    ⟨.dir [
      (Utf8.encode "x.h", .file []),
      (Utf8.encode "include", .dir [(Utf8.encode "y.h", .file [])])], []⟩⟩

/-- One directory down, an include with a `.` in front uses its header up as well. -/
theorem bare_flag_of_dotted_include :
    ("./y.h", Hit.mk (ofString "include/y.h") .localDir) ∈
      (workingSpace.resolve (.ofList ["./y.h"])).found ∧
    (ofString "include/y.h").UsedUpBy (ofString "./y.h") ∧
    "-I" ∈ (workingSpace.resolve (.ofList ["./y.h"])).flags (.writingDirs fun _ => .ok []) := by
  have hfound : ("./y.h", Hit.mk (ofString "include/y.h") .localDir) ∈
      (workingSpace.resolve (.ofList ["./y.h"])).found := by
    decide +kernel
  have hused : (ofString "include/y.h").UsedUpBy (ofString "./y.h") := by decide
  exact ⟨hfound, hused, (empty_includeDir_iff _).2.1.2 ⟨_, _, hfound, hused⟩⟩

/-- The header in the working directory is found under the path of its include. Its directory has no
text, and the flag written for it names none. -/
theorem bare_flag_of_header_in_workingDir :
    ("x.h", Hit.mk (ofString "x.h") .localDir) ∈
      (workingSpace.resolve (.ofList ["x.h"])).found ∧
    (workingSpace.resolve (.ofList ["x.h"])).includeDirs = [⟨[]⟩] ∧
    (workingSpace.resolve (.ofList ["x.h"])).flags (.writingDirs fun _ => .ok []) = ["-I"] := by
  refine ⟨?_, ?_, ?_⟩
  all_goals decide +kernel

end SearchSpace

end HeaderSearch
