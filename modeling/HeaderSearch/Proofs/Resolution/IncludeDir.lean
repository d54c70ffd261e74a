/-
# The way back from an include directory

The include directory of a header is as many parents up as the written include has components. It
is handed to the compiler as the directory from which that include finds the header, so looking the
include up once more from there should lead back to the header. The search, however, cleans what it
joins, and then the header's path need not end in what was written: `../x.h` below `/usr/include` is
`/usr/x.h`, two parents up from there is `/`, and `../x.h` from there is `/x.h`.

The way leads back if the header's path ends in the components of the include. Otherwise it does so
in one case only: the include begins with the root or with a `.`, and the parent too many that is
taken for this passes over a component that makes no difference to the cleaned path.
-/

import HeaderSearch.Packages
import HeaderSearch.Proofs.Path.Ancestors
import HeaderSearch.Proofs.Resolution.Stages
import HeaderSearch.Proofs.Text.Encoding

namespace HeaderSearch

namespace Path

/-- The include directory of the header exists, and the include leads from it to the header. -/
def LeadsBack (header written : Path) : Prop :=
  ∃ dir, header.includeDir? written = some dir ∧
    (dir.cleanJoin written).Same (header.cleanJoin (ofString ""))

/-- The header's path ends in the include as it was written. -/
def EndsWith (header written : Path) : Prop :=
  written.components <:+ header.components ∧ .root ∉ written.components

/-- The header's path ends in the include without the root or the `.` at its front, and before that
there is a component that makes no difference to the cleaned path. -/
def EndsPastIdle (header written : Path) : Prop :=
  ∃ front idle rest, header.components = front ++ idle :: rest ∧ idle ≠ .root ∧
    (written.components = .root :: rest ∨ written.components = .here :: rest) ∧
    clean (front ++ rest) = clean (front ++ idle :: rest)

/-- The way leads back exactly if the header ends in as many components as the include has, and
putting the include in their place makes no difference to the cleaned path. -/
theorem leadsBack_iff {header written : Path} :
    header.LeadsBack written ↔ ∃ front back, header.components = front ++ back ∧
      back.length = written.components.length ∧ .root ∉ back ∧
      clean (front ++ written.relativeComponents) = clean header.components := by
  have hself := cleanJoinComponents_empty header
  constructor
  · rintro ⟨dir, hdir, hsame⟩
    obtain ⟨back, hback, hlength, hroot⟩ := exists_ancestor?_iff.1 ⟨dir, hdir, rfl⟩
    refine ⟨dir.components, back, hback, hlength, hroot, ?_⟩
    rw [← hself, ← same_cleanJoin_iff.1 hsame, cleanJoinComponents]
  · rintro ⟨front, back, hback, hlength, hroot, hclean⟩
    obtain ⟨dir, hdir, hfront⟩ := exists_ancestor?_iff.2 ⟨back, hback, hlength, hroot⟩
    refine ⟨dir, hdir, same_cleanJoin_iff.2 ?_⟩
    rw [hself, cleanJoinComponents, hfront, hclean]

theorem LeadsBack.of_endsWith {header written : Path} (h : header.EndsWith written) :
    header.LeadsBack written := by
  obtain ⟨⟨front, hfront⟩, hroot⟩ := h
  apply leadsBack_iff.2
  refine ⟨front, written.components, hfront.symm, rfl, hroot, ?_⟩
  rw [relativeComponents, filter_ne_root_eq_self hroot, hfront]

theorem LeadsBack.of_endsPastIdle {header written : Path} (h : header.EndsPastIdle written) :
    header.LeadsBack written := by
  obtain ⟨front, idle, rest, hheader, hidle, hwritten, hclean⟩ := h
  have hrest : .root ∉ rest := by
    have htail := root_notMem_tail_components written
    rcases hwritten with hwritten | hwritten
    · rwa [hwritten] at htail
    · rwa [hwritten] at htail
  have hfilter := filter_ne_root_eq_self hrest
  apply leadsBack_iff.2
  refine ⟨front, idle :: rest, hheader, ?_, ?_, ?_⟩
  · rcases hwritten with hwritten | hwritten <;> rw [hwritten] <;> rfl
  · rw [List.mem_cons, not_or]
    exact ⟨hidle.symm, hrest⟩
  · rw [hheader, ← hclean, relativeComponents]
    rcases hwritten with hwritten | hwritten
    · rw [hwritten, List.filter_cons_of_neg (by simp), hfilter]
    · rw [hwritten, List.filter_cons_of_pos (by simp), hfilter, clean_append_here]

/-! ## Headers that a search has found -/

/-- Where a `.` is all that is left of the header's path, the way leads back only for includes that
are themselves nothing, a `.` or the root. -/
theorem endsWith_or_endsPastIdle_of_here {header written : Path}
    (hheader : header.components = [.here]) (h : header.LeadsBack written) :
    header.EndsWith written ∨ header.EndsPastIdle written := by
  obtain ⟨front, back, hback, hlength, -, hclean⟩ := leadsBack_iff.1 h
  rw [hheader] at hback hclean
  rcases List.append_eq_singleton_iff.1 hback.symm with ⟨rfl, rfl⟩ | ⟨rfl, rfl⟩
  · obtain ⟨component, hwritten⟩ := List.length_eq_one_iff.1 hlength.symm
    rw [relativeComponents, hwritten] at hclean
    cases component with
    | root => exact .inr ⟨[], .here, [], hheader, by decide, .inl hwritten, rfl⟩
    | here => exact .inl ⟨⟨[], by rw [hwritten, hheader]; rfl⟩, by simp [hwritten]⟩
    | up => cases hclean
    | name bytes => cases hclean
  · have hwritten : written.components = [] := List.length_eq_zero_iff.1 hlength.symm
    exact .inl ⟨⟨[.here], by rw [hwritten, hheader]; rfl⟩, by simp [hwritten]⟩

/-- Below a directory, the way leads back only if nothing of the include was cleaned away: the
cleaned path is as long as it is only if every component of the include is in it. -/
theorem endsWith_or_endsPastIdle_of_cleanJoin {dir written : Path}
    (h : (dir.cleanJoin written).LeadsBack written) :
    (dir.cleanJoin written).EndsWith written ∨ (dir.cleanJoin written).EndsPastIdle written := by
  obtain ⟨front, back, hback, hlength, hroot, hclean⟩ := leadsBack_iff.1 h
  have hself := clean_components_cleanJoin dir written
  have hcomponents := components_cleanJoin dir written
  split at hcomponents
  · next hnil =>
    exact endsWith_or_endsPastIdle_of_here hcomponents h
  · left
    rw [hself, ← hcomponents, hback] at hclean
    have hle : (front ++ written.relativeComponents).length ≤ (front ++ back).length := by
      rw [List.length_append, List.length_append, hlength]
      exact Nat.add_le_add_left (List.length_filter_le _ _) _
    have hsame : front ++ written.relativeComponents = front ++ back := by
      rw [← hclean]
      symm
      apply clean_eq_self_of_length
      rwa [hclean]
    have hrelative : written.relativeComponents = back := List.append_cancel_left hsame
    have hwritten : written.relativeComponents = written.components := by
      apply List.Sublist.eq_of_length List.filter_sublist
      rw [← hlength]
      exact congrArg List.length hrelative
    rw [← hrelative, hwritten] at hback hroot
    exact ⟨⟨front, hback.symm⟩, hroot⟩

/-- Behind a separator, an include that begins with the root or with a `.` is one component short,
and the way leads back over the component in front of it. -/
theorem endsWith_or_endsPastIdle_of_append_slash {text : List UInt8} {written : Path}
    (h : (Path.mk (text ++ slash :: written.bytes)).LeadsBack written) :
    (Path.mk (text ++ slash :: written.bytes)).EndsWith written ∨
      (Path.mk (text ++ slash :: written.bytes)).EndsPastIdle written := by
  have hheader := components_append_slash text written.bytes
  have hwritten := written.components_eq_lead_append
  by_cases hlead : written.lead = []
  · left
    rw [hlead, List.nil_append] at hwritten
    rw [EndsWith, hheader, hwritten]
    exact ⟨List.suffix_append _ _, root_notMem_innerComponents written.bytes⟩
  · right
    have hone : written.lead.length = 1 := by
      rcases written.lead_eq with hnil | hroot | hhere
      · exact absurd hnil hlead
      · rw [hroot, List.length_singleton]
      · rw [hhere, List.length_singleton]
    obtain ⟨front, back, hback, hlength, hroot, hclean⟩ := leadsBack_iff.1 h
    rw [hwritten, List.length_append, hone, Nat.add_comm] at hlength
    obtain ⟨idle, rest, rfl⟩ := List.exists_cons_of_length_eq_add_one hlength
    rw [List.length_cons, Nat.add_right_cancel_iff] at hlength
    have hrest : rest = innerComponents written.bytes := by
      rw [hheader, List.append_cons] at hback
      exact (List.append_inj_right' hback hlength.symm).symm
    subst hrest
    refine ⟨front, idle, _, hback, ?_, ?_, ?_⟩
    · rintro rfl
      exact hroot List.mem_cons_self
    · rw [hwritten]
      rcases written.lead_eq with hnil | hroot | hhere
      · exact absurd hnil hlead
      · exact .inl (by rw [hroot]; rfl)
      · exact .inr (by rw [hhere]; rfl)
    · rw [← clean_append_relativeComponents, hclean, hback]

end Path

namespace SearchSpace

open HeaderSearch.Path

variable {space : SearchSpace} {name : String} {hit : Hit}

/-- Whatever is found is either the name below some directory, cleaned, or a text that ends with
the name behind a separator. -/
theorem path_of_locate? (h : space.locate? name = some hit) :
    (∃ dir : Path, hit.path = dir.cleanJoin (ofString name)) ∨
      ∃ text, hit.path = ⟨text ++ slash :: (ofString name).bytes⟩ := by
  obtain ⟨path, strategy⟩ := hit
  cases strategy with
  | system =>
      obtain ⟨_, root, _, _, hpath, _⟩ := systemPath?_eq_some_iff.1 (locate?_system_iff.1 h)
      exact .inl ⟨root, hpath⟩
  | localDir =>
      obtain ⟨before, after, hcandidates, _⟩ :=
        localPath?_eq_some_iff.1 (locate?_localDir_iff.1 h).2
      have hmem : path ∈ space.localDirs.candidates name := by
        rw [hcandidates]
        exact List.mem_append_right _ List.mem_cons_self
      obtain ⟨dir, _, hdir⟩ := List.mem_map.1 hmem
      exact .inl ⟨_, hdir.symm⟩
  | fuzzy =>
      obtain ⟨e, _, hends, hpath⟩ := exists_entry_of_fuzzyPath? (locate?_fuzzy_iff.1 h).2.2
      obtain ⟨text, htext⟩ := List.isSuffixOf_iff_suffix.1 hends
      refine .inr ⟨Utf8.encodeChars text, ?_⟩
      show path = _
      rw [hpath, ofString, Utf8.encode, ← htext, Utf8.encodeChars_append]
      rfl

/-- For every name that is found, the include directory exists and leads back to the header exactly
if the header's path ends in the include as it was written, or ends in it behind a component that
makes no difference. -/
theorem leadsBack_of_found_iff {names : IncludeNames}
    (h : (name, hit) ∈ (space.resolve names).found) :
    hit.path.LeadsBack (ofString name) ↔
      hit.path.EndsWith (ofString name) ∨ hit.path.EndsPastIdle (ofString name) := by
  constructor
  · intro hback
    rcases path_of_locate? (mem_found_resolve.1 h).2 with ⟨dir, hpath⟩ | ⟨text, hpath⟩
    · rw [hpath] at hback ⊢
      exact endsWith_or_endsPastIdle_of_cleanJoin hback
    · rw [hpath] at hback ⊢
      exact endsWith_or_endsPastIdle_of_append_slash hback
  · intro hends
    rcases hends with hends | hends
    · exact LeadsBack.of_endsWith hends
    · exact LeadsBack.of_endsPastIdle hends

/-- A header behind a `..` at the root, where `..` has no effect: an include with a `.` in front
leads back to it from the root of the disk. -/
theorem leadsBack_behind_idle_parent :
    ("./x.h", Hit.mk (ofString "/.././x.h") .fuzzy) ∈
      ((ofHeaders [] [ofString "/.././x.h"]).resolve (.ofList ["./x.h"])).found ∧
    (ofString "/.././x.h").EndsPastIdle (ofString "./x.h") ∧
    ((ofString "/.././x.h").LeadsBack (ofString "./x.h") ↔
      (ofString "/.././x.h").EndsWith (ofString "./x.h") ∨
        (ofString "/.././x.h").EndsPastIdle (ofString "./x.h")) := by
  have hfound : ("./x.h", Hit.mk (ofString "/.././x.h") .fuzzy) ∈
      ((ofHeaders [] [ofString "/.././x.h"]).resolve (.ofList ["./x.h"])).found := by
    decide +kernel
  have hidle : (ofString "/.././x.h").EndsPastIdle (ofString "./x.h") :=
    ⟨[.root], .up, [.name (Utf8.encode "x.h")], by decide, by decide, by decide, by decide⟩
  exact ⟨hfound, hidle, leadsBack_of_found_iff hfound⟩

/-- A search for one header below `/usr/include`. -/
def usrSpace (header : Path) : SearchSpace := ofHeaders [ofString "/usr/include"] [header]

/-- An include that climbs out of the root is found, but its include directory is the root of the
disk, and from there it leads somewhere else. -/
theorem not_leadsBack_of_climbing_include :
    ("../x.h", Hit.mk (ofString "/usr/x.h") .system) ∈
      ((usrSpace (ofString "/usr/x.h")).resolve (.ofList ["../x.h"])).found ∧
    ((usrSpace (ofString "/usr/x.h")).resolve (.ofList ["../x.h"])).includeDirs =
      [ofString "/"] ∧
    (ofString "/usr/x.h").includeDir? (ofString "../x.h") = some (ofString "/") ∧
    ¬ (ofString "/usr/x.h").LeadsBack (ofString "../x.h") := by
  have hdir : (ofString "/usr/x.h").includeDir? (ofString "../x.h") = some (ofString "/") := by
    decide
  refine ⟨by decide +kernel, by decide +kernel, hdir, ?_⟩
  rintro ⟨dir, hfound, hsame⟩
  rw [hdir] at hfound
  cases hfound
  revert hsame
  decide

end SearchSpace

end HeaderSearch
