/-
# Answers that are text

A catalog may hold any bytes, but no answer does if the roots and the local directories are text.
The first two stages build their answers from these and from the name. The last stage answers with
what is displayed for a header and not with the header's own path, and what is displayed is text.

So a resolution can be written as JSON to its end, and so can a report on a project if its path is
text.
-/

import HeaderSearch.Proofs.Json.Writable
import HeaderSearch.Proofs.Path.Readable
import HeaderSearch.Proofs.Resolution.Stages
import HeaderSearch.Report

namespace HeaderSearch

open HeaderSearch.Path

/-- The base of the local directories, and each of them, is text. -/
structure LocalDirs.IsText (places : LocalDirs) : Prop where
  base : places.base.text?.isSome
  dirs : ∀ dir ∈ places.dirs, dir.text?.isSome

theorem Path.isSome_text?_ofString (s : String) : (ofString s).text?.isSome := by
  rw [text?_ofString]
  rfl

theorem LocalDirs.IsText.candidates {places : LocalDirs} (h : places.IsText) {name : String} :
    ∀ candidate ∈ places.candidates name, candidate.text?.isSome := by
  intro candidate hmem
  obtain ⟨dir, hdir, rfl⟩ := List.mem_map.1 hmem
  exact isSome_text?_cleanJoin (isSome_text?_join h.base (h.dirs dir hdir))
    (isSome_text?_ofString name)

namespace SearchSpace

variable {space : SearchSpace} {name : String} {hit : Hit}

theorem isSome_text?_of_locate? (hroots : ∀ root ∈ space.catalog.roots, root.text?.isSome)
    (hplaces : space.localDirs.IsText) (h : space.locate? name = some hit) :
    hit.path.text?.isSome := by
  obtain ⟨path, strategy⟩ := hit
  cases strategy with
  | system =>
      obtain ⟨before, root, after, hsplit, rfl, -, -⟩ :=
        systemPath?_eq_some_iff.1 (locate?_system_iff.1 h)
      have hroot := hroots root (hsplit ▸ List.mem_append_right _ List.mem_cons_self)
      exact isSome_text?_cleanJoin hroot (isSome_text?_ofString name)
  | localDir =>
      exact hplaces.candidates path (List.mem_of_find?_eq_some (locate?_localDir_iff.1 h).2)
  | fuzzy =>
      obtain ⟨-, -, hfuzzy⟩ := locate?_fuzzy_iff.1 h
      obtain ⟨e, -, -, rfl⟩ := exists_entry_of_fuzzyPath? hfuzzy
      exact isSome_text?_ofString e.display

theorem isSome_text?_of_mem_found (hroots : ∀ root ∈ space.catalog.roots, root.text?.isSome)
    (hplaces : space.localDirs.IsText) (names : IncludeNames) :
    ∀ entry ∈ (space.resolve names).found, entry.2.path.text?.isSome := by
  rintro ⟨name, hit⟩ hmem
  exact isSome_text?_of_locate? hroots hplaces (mem_found_resolve.1 hmem).2

end SearchSpace

/-! ## Reports -/

theorem Hit.writable_toJson {hit : Hit} (h : hit.path.text?.isSome) : hit.toJson.Writable := by
  refine .obj ?_
  simp only [List.forall_mem_cons]
  exact ⟨Json.writable_ofPath h, .str _, nofun⟩

theorem Resolution.writable_toJson {resolution : Resolution}
    (h : ∀ entry ∈ resolution.found, entry.2.path.text?.isSome) :
    resolution.toJson.Writable := by
  refine .obj ?_
  simp only [List.forall_mem_cons]
  refine ⟨.obj fun member hmem => ?_, Json.writable_ofStrings _, nofun⟩
  obtain ⟨entry, hentry, rfl⟩ := List.mem_map.1 hmem
  exact Hit.writable_toJson (h entry hentry)

theorem Report.writable_form {report : Report} (hproject : report.project.text?.isSome)
    (hfound : ∀ entry ∈ report.resolution.found, entry.2.path.text?.isSome) (version : Nat)
    (threads : Bool) : (report.form version threads).Writable := by
  refine .obj ?_
  simp only [List.forall_mem_cons]
  exact ⟨.num _, .str _, Json.writable_ofPath hproject, .num _, Json.writable_ofStrings _,
    Resolution.writable_toJson hfound, .bool _, nofun⟩

theorem Report.writable_toJson {report : Report} (hproject : report.project.text?.isSome)
    (hfound : ∀ entry ∈ report.resolution.found, entry.2.path.text?.isSome) :
    report.toJson.Writable :=
  writable_form hproject hfound _ _

namespace SearchSpace

/-- If the roots and the local directories are text, every path in a resolution is the path of a
text, whatever bytes the catalogued headers have. So the resolution is written to its end in every
layout, and with it each report on a project whose path is text. -/
theorem resolve_writes_to_end (space : SearchSpace) (names : IncludeNames)
    (hroots : ∀ root ∈ space.catalog.roots, root.text?.isSome)
    (hplaces : space.localDirs.IsText) :
    (∀ entry ∈ (space.resolve names).found, ∃ s, entry.2.path = ofString s) ∧
    (∀ layout, ∃ text, ((space.resolve names).toJson.write layout).complete = .ok text) ∧
    ∀ report : Report, report.resolution = space.resolve names → report.project.text?.isSome →
      ∀ layout, ∃ text, (report.toJson.write layout).complete = .ok text := by
  have hfound := isSome_text?_of_mem_found hroots hplaces names
  have htexts (entry : String × Hit) (hmem : entry ∈ (space.resolve names).found) :
      ∃ s, entry.2.path = ofString s :=
    ⟨entry.2.path.display, (ofString_display (hfound entry hmem)).symm⟩
  have hreport (report : Report) (hresolution : report.resolution = space.resolve names)
      (hproject : report.project.text?.isSome) : report.toJson.Writable := by
    apply Report.writable_toJson hproject
    rw [hresolution]
    exact hfound
  exact ⟨htexts,
    fun layout => ⟨_, (Resolution.writable_toJson hfound).complete_write layout⟩,
    fun report hresolution hproject layout =>
      ⟨_, (hreport report hresolution hproject).complete_write layout⟩⟩

/-- The name of a header in a directory whose own name is the byte FF, and of one that is text. -/
def mixedNames : IncludeNames := .ofList ["x.h", "y.h"]

/-- A search among these two headers. The root and the local directories are text. -/
def mixedHeaderSpace : SearchSpace :=
  ⟨.ofEntries [ofString "/usr/include"]
    [⟨Utf8.encode "/lib/" ++ 0xFF :: slash :: Utf8.encode "x.h"⟩, ofString "/usr/include/y.h"],
    .conventional, ⟨.dir [], []⟩⟩

/-- The report on a project that includes both. -/
def mixedReport : Report :=
  ⟨"now", ofString "p", 2, mixedNames, mixedHeaderSpace.resolve mixedNames⟩

/-- Both headers are found, and the report is written to its end. -/
theorem resolve_mixedHeaderSpace_writes_to_end :
    (∀ root ∈ mixedHeaderSpace.catalog.roots, root.text?.isSome) ∧
    mixedHeaderSpace.localDirs.IsText ∧ mixedReport.project.text?.isSome ∧
    (∃ e ∈ mixedHeaderSpace.catalog.entries, e.text? = none) ∧
    (mixedHeaderSpace.resolve mixedNames).found =
      [("x.h", ⟨ofString "/lib/\uFFFD/x.h", .fuzzy⟩),
        ("y.h", ⟨ofString "/usr/include/y.h", .system⟩)] ∧
    (∀ entry ∈ (mixedHeaderSpace.resolve mixedNames).found, ∃ s, entry.2.path = ofString s) ∧
    ∃ text, (mixedReport.toJson.write (.lines 0)).complete = .ok text := by
  have hroots : ∀ root ∈ mixedHeaderSpace.catalog.roots, root.text?.isSome := by decide +kernel
  have hplaces : mixedHeaderSpace.localDirs.IsText := ⟨by decide +kernel, by decide +kernel⟩
  have hproject : mixedReport.project.text?.isSome := by decide +kernel
  obtain ⟨htexts, -, hreports⟩ :=
    resolve_writes_to_end mixedHeaderSpace mixedNames hroots hplaces
  exact ⟨hroots, hplaces, hproject, by decide +kernel, by decide +kernel, htexts,
    hreports mixedReport rfl hproject (.lines 0)⟩

end SearchSpace

end HeaderSearch
