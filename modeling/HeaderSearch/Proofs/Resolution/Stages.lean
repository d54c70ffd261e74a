/-
# The three stages of a search

Each stage is described on its own: the first root below which the name is catalogued, the first
local candidate under which there is anything, and one of the catalogued paths that end with the
name. The answer to a name tells which stages failed before it.
-/

import HeaderSearch.Resolution.Basic
import Mathlib.Data.List.Basic

namespace HeaderSearch

namespace Candidate

theorem better_eq_or_eq (keyword a b : String) :
    better keyword a b = a ∨ better keyword a b = b := by
  unfold better
  split
  · exact .inl rfl
  · exact .inr rfl

theorem foldl_better_mem (keyword first : String) (rest : List String) :
    rest.foldl (better keyword) first ∈ first :: rest := by
  induction rest generalizing first with
  | nil => exact List.mem_singleton_self first
  | cons second rest ih =>
      rw [List.foldl_cons]
      rcases List.mem_cons.1 (ih (better keyword first second)) with h | h
      · rw [h]
        rcases better_eq_or_eq keyword first second with h | h <;> simp [h]
      · exact List.mem_cons_of_mem _ (List.mem_cons_of_mem _ h)

/-- The best candidate is one of the candidates. -/
theorem mem_of_best? {keyword : String} {candidates : List String} {best : String}
    (h : best? keyword candidates = some best) : best ∈ candidates := by
  cases candidates with
  | nil => cases h
  | cons first rest =>
      cases h
      exact foldl_better_mem keyword first rest

/-- There is a best candidate exactly if there is one at all. -/
theorem best?_eq_none_iff {keyword : String} {candidates : List String} :
    best? keyword candidates = none ↔ candidates = [] := by
  cases candidates <;> simp [best?]

end Candidate

namespace SearchSpace

/-- A search among the listed headers alone: nothing is probed, and nothing is on disk. -/
def ofHeaders (roots headers : List Path) : SearchSpace :=
  ⟨.ofEntries roots headers, ⟨LocalDirs.defaultBase, []⟩, ⟨.dir [], []⟩⟩

variable {space : SearchSpace} {name : String} {path : Path}

/-- The system stage takes the first root below which the catalog has the name. -/
theorem systemPath?_eq_some_iff :
    space.systemPath? name = some path ↔ ∃ before root after,
      space.catalog.roots = before ++ root :: after ∧
      path = root.cleanJoin (Path.ofString name) ∧ path ∈ space.catalog ∧
      ∀ earlier ∈ before, earlier.cleanJoin (Path.ofString name) ∉ space.catalog := by
  rw [systemPath?, List.find?_eq_some_iff_append]
  constructor
  · rintro ⟨hmem, front, back, hsplit, hfront⟩
    obtain ⟨before, others, hroots, rfl, hothers⟩ := List.map_eq_append_iff.1 hsplit
    obtain ⟨root, after, rfl, rfl, -⟩ := List.map_eq_cons_iff.1 hothers
    refine ⟨before, root, after, hroots, rfl, of_decide_eq_true hmem, ?_⟩
    intro earlier hearlier
    simpa using hfront _ (List.mem_map_of_mem hearlier)
  · rintro ⟨before, root, after, hroots, rfl, hmem, hbefore⟩
    refine ⟨decide_eq_true hmem, _, _, by rw [hroots, List.map_append, List.map_cons], ?_⟩
    intro candidate hcandidate
    obtain ⟨earlier, hearlier, rfl⟩ := List.mem_map.1 hcandidate
    simpa using hbefore earlier hearlier

/-- The system stage fails exactly if the catalog has the name below no root. -/
theorem systemPath?_eq_none_iff :
    space.systemPath? name = none ↔
      ∀ root ∈ space.catalog.roots, root.cleanJoin (Path.ofString name) ∉ space.catalog := by
  simp [systemPath?]

/-- The local stage takes the first candidate under which there is anything. -/
theorem localPath?_eq_some_iff :
    space.localPath? name = some path ↔ ∃ before after,
      space.localDirs.candidates name = before ++ path :: after ∧
      space.disk.pathExists path = true ∧
      ∀ earlier ∈ before, space.disk.pathExists earlier = false := by
  rw [localPath?, List.find?_eq_some_iff_append]
  simp only [Bool.not_eq_true']
  constructor
  · rintro ⟨hexists, before, after, hsplit, hbefore⟩
    exact ⟨before, after, hsplit, hexists, hbefore⟩
  · rintro ⟨before, after, hsplit, hexists, hbefore⟩
    exact ⟨hexists, before, after, hsplit, hbefore⟩

theorem mem_fuzzyCandidates_iff {candidate : String} :
    candidate ∈ space.fuzzyCandidates name ↔
      ∃ e ∈ space.catalog.entries, endsWithName name e.display = true ∧ e.display = candidate := by
  rw [fuzzyCandidates, List.mem_mergeSort, List.mem_filter, List.mem_map]
  constructor
  · rintro ⟨⟨e, he, rfl⟩, hends⟩
    exact ⟨e, he, hends, rfl⟩
  · rintro ⟨e, he, hends, rfl⟩
    exact ⟨⟨e, he, rfl⟩, hends⟩

theorem fuzzyPath?_eq_none_iff : space.fuzzyPath? name = none ↔
    ∀ e ∈ space.catalog.entries, endsWithName name e.display = false := by
  rw [fuzzyPath?, Option.map_eq_none_iff, Candidate.best?_eq_none_iff,
    List.eq_nil_iff_forall_not_mem]
  simp only [mem_fuzzyCandidates_iff]
  constructor
  · intro h e he
    rw [← Bool.not_eq_true]
    exact fun hends => h _ ⟨e, he, hends, rfl⟩
  · rintro h _ ⟨e, he, hends, -⟩
    rw [h e he] at hends
    cases hends

/-- What the last stage answers is displayed as a catalogued path is that ends with the name. -/
theorem exists_entry_of_fuzzyPath? (h : space.fuzzyPath? name = some path) :
    ∃ e ∈ space.catalog.entries, endsWithName name e.display ∧
      path = Path.ofString e.display := by
  obtain ⟨best, hbest, rfl⟩ := Option.map_eq_some_iff.1 h
  obtain ⟨e, he, hends, rfl⟩ := mem_fuzzyCandidates_iff.1 (Candidate.mem_of_best? hbest)
  exact ⟨e, he, hends, rfl⟩

theorem locate?_system_iff :
    space.locate? name = some ⟨path, .system⟩ ↔ space.systemPath? name = some path := by
  unfold locate?
  cases space.systemPath? name with
  | some found => simp
  | none => cases space.localPath? name <;> simp

theorem locate?_localDir_iff :
    space.locate? name = some ⟨path, .localDir⟩ ↔
      space.systemPath? name = none ∧ space.localPath? name = some path := by
  unfold locate?
  cases space.systemPath? name with
  | some found => simp
  | none => cases space.localPath? name <;> simp

theorem locate?_fuzzy_iff :
    space.locate? name = some ⟨path, .fuzzy⟩ ↔ space.systemPath? name = none ∧
      space.localPath? name = none ∧ space.fuzzyPath? name = some path := by
  unfold locate?
  cases space.systemPath? name with
  | some found => simp
  | none => cases space.localPath? name <;> simp

/-- Of the names in a set those are found that are found on their own, and as they are found on
their own. -/
theorem mem_found_resolve {names : IncludeNames} {hit : Hit} :
    (name, hit) ∈ (space.resolve names).found ↔
      name ∈ names ∧ space.locate? name = some hit := by
  rw [resolve, List.mem_filterMap]
  constructor
  · rintro ⟨other, hmem, hother⟩
    obtain ⟨found, hfound, heq⟩ := Option.map_eq_some_iff.1 hother
    cases heq
    exact ⟨hmem, hfound⟩
  · rintro ⟨hmem, hfound⟩
    exact ⟨name, hmem, by rw [hfound]; rfl⟩

end SearchSpace

end HeaderSearch
