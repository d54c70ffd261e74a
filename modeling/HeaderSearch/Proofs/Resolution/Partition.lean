/-
# A resolution partitions its names

Every name of a set is either found or not found, and it is found exactly if it is found on its own,
with the same answer. Both halves of a resolution are in strict order, so the answers to the single
names determine the resolution: two resolutions that split one set by the same answers are equal.

This has two consequences. The resolution is what arises when the answers are taken in one by one,
in the order of the names, since each of them keeps what was taken in before partitioned. And names
do not influence each other: the part of a resolution that concerns some of its names splits these
names by the same answers, and so it is the resolution of these names.
-/

import HeaderSearch.Proofs.Unordered
import HeaderSearch.Proofs.Resolution.Stages
import Mathlib.Data.List.Induction
import Mathlib.Data.List.Sort

namespace HeaderSearch

namespace IncludeNames

/-- The names of two sets together. -/
def union (names others : IncludeNames) : IncludeNames := others.toList.foldl insert names

instance : Union IncludeNames := ⟨union⟩

theorem mem_union {names others : IncludeNames} {name : String} :
    name ∈ names ∪ others ↔ name ∈ names ∨ name ∈ others := by
  have fold (added : List String) (start : IncludeNames) :
      name ∈ added.foldl insert start ↔ name ∈ start ∨ name ∈ added := by
    induction added generalizing start with
    | nil => simp
    | cons first rest ih => simp [ih, mem_insert, or_assoc, or_left_comm]
  exact fold others.toList names

end IncludeNames

namespace Resolution

/-- The names that were found, in order. -/
def foundNames (resolution : Resolution) : List String := resolution.found.map Prod.fst

/-- The part of a resolution that concerns the names of a set. -/
def restrict (resolution : Resolution) (names : IncludeNames) : Resolution where
  found := resolution.found.filter (·.1 ∈ names)
  notFound := resolution.notFound.filter (· ∈ names)

/-- Take in the answer to one more name. -/
def record (resolution : Resolution) (name : String) : Option Hit → Resolution
  | some hit => { resolution with found := insertByKey Prod.fst (name, hit) resolution.found }
  | none => { resolution with notFound := resolution.notFound ++ [name] }

/-- Take in the answers to all names of a set, in order. -/
def ofAnswers (names : IncludeNames) (answer? : String → Option Hit) : Resolution :=
  names.toList.foldl (fun resolution name => resolution.record name (answer? name)) empty

/-- The resolution splits a set of names by the answers that `answer?` gives to the single names. -/
structure Partitions (resolution : Resolution) (names : IncludeNames)
    (answer? : String → Option Hit) : Prop where
  /-- The names found are in order, and none is found twice. -/
  found_sorted : resolution.foundNames.Pairwise (· < ·)
  /-- The names not found are in order, and none is listed twice. -/
  notFound_sorted : resolution.notFound.Pairwise (· < ·)
  /-- What is found for a name of the set is the answer to it. -/
  hit?_eq_some_iff : ∀ name hit,
    resolution.hit? name = some hit ↔ name ∈ names ∧ answer? name = some hit
  /-- The names not found are those without an answer. -/
  mem_notFound_iff : ∀ name, name ∈ resolution.notFound ↔ name ∈ names ∧ answer? name = none
  /-- No name is both found and not found. -/
  disjoint : ∀ name ∈ resolution.foundNames, name ∉ resolution.notFound
  /-- The names found and those not found are the names of the set. -/
  cover : ∀ name, name ∈ names ↔ name ∈ resolution.foundNames ∨ name ∈ resolution.notFound

theorem mem_foundNames_iff {resolution : Resolution} {name : String} :
    name ∈ resolution.foundNames ↔ ∃ hit, resolution.hit? name = some hit := by
  constructor
  · intro hmem
    rw [← Option.ne_none_iff_exists']
    intro hnone
    obtain ⟨⟨other, hit⟩, hfound, rfl⟩ := List.mem_map.1 hmem
    simpa using List.lookup_eq_none_iff.1 hnone _ hfound
  · rintro ⟨hit, hhit⟩
    exact List.mem_map.2 ⟨(name, hit), mem_of_lookup_eq_some hhit, rfl⟩

/-- If no name is found twice, what is listed as found is what is found. -/
theorem mem_found_iff {resolution : Resolution} (h : resolution.foundNames.Pairwise (· < ·))
    {name : String} {hit : Hit} :
    (name, hit) ∈ resolution.found ↔ resolution.hit? name = some hit :=
  (lookup_eq_some_iff_mem h.nodup).symm

/-! ## Taking in one answer -/

theorem foundNames_record_sorted {resolution : Resolution}
    (h : resolution.foundNames.Pairwise (· < ·)) (name : String) (answer : Option Hit) :
    (resolution.record name answer).foundNames.Pairwise (· < ·) := by
  cases answer with
  | none => exact h
  | some hit =>
      exact List.pairwise_map.2
        (pairwise_insertByKey String.lt_trans (name, hit) (List.pairwise_map.1 h))

theorem mem_found_record {resolution : Resolution} {name other : String} {answer : Option Hit}
    {hit : Hit} (hlast : ∀ found ∈ resolution.found, found.1 < name) :
    (other, hit) ∈ (resolution.record name answer).found ↔
      (other, hit) ∈ resolution.found ∨ other = name ∧ answer = some hit := by
  cases answer with
  | none => simp [record]
  | some found =>
      rw [record, insertByKey_eq_append String.lt_asymm hlast]
      simp [eq_comm]

theorem mem_notFound_record {resolution : Resolution} {name other : String}
    {answer : Option Hit} :
    other ∈ (resolution.record name answer).notFound ↔
      other ∈ resolution.notFound ∨ other = name ∧ answer = none := by
  cases answer <;> simp [record]

/-! ## Partitions -/

namespace Partitions

variable {resolution other : Resolution} {names others : IncludeNames}
  {answer? : String → Option Hit}

/-- That nothing is found twice, in two places or in none follows from what is said of each
name. -/
theorem of_pointwise (found_sorted : resolution.foundNames.Pairwise (· < ·))
    (notFound_sorted : resolution.notFound.Pairwise (· < ·))
    (hit : ∀ name hit, resolution.hit? name = some hit ↔ name ∈ names ∧ answer? name = some hit)
    (missing : ∀ name, name ∈ resolution.notFound ↔ name ∈ names ∧ answer? name = none) :
    resolution.Partitions names answer? := by
  refine ⟨found_sorted, notFound_sorted, hit, missing, ?_, ?_⟩
  · intro name hfound hmissing
    obtain ⟨answer, hanswer⟩ := mem_foundNames_iff.1 hfound
    have hsome := ((hit name answer).1 hanswer).2
    rw [((missing name).1 hmissing).2] at hsome
    cases hsome
  · intro name
    rw [mem_foundNames_iff, missing]
    simp only [hit]
    cases answer? name <;> simp

/-- The answers to the names of the set determine the resolution. -/
theorem unique (h : resolution.Partitions names answer?) (h' : other.Partitions names answer?) :
    resolution = other := by
  have hfound : resolution.found = other.found := by
    have : Std.Irrefl fun a b : String × Hit => a.1 < b.1 := ⟨fun a => String.lt_irrefl a.1⟩
    have : Std.Antisymm fun a b : String × Hit => a.1 < b.1 :=
      ⟨fun _ _ hlt hgt => absurd hgt (String.lt_asymm hlt)⟩
    refine List.Pairwise.eq_of_mem_iff (List.pairwise_map.1 h.found_sorted)
      (List.pairwise_map.1 h'.found_sorted) fun ⟨name, hit⟩ => ?_
    rw [mem_found_iff h.found_sorted, mem_found_iff h'.found_sorted, h.hit?_eq_some_iff,
      h'.hit?_eq_some_iff]
  have hnotFound : resolution.notFound = other.notFound :=
    h.notFound_sorted.eq_of_mem_iff h'.notFound_sorted fun name => by
      rw [h.mem_notFound_iff, h'.mem_notFound_iff]
  cases resolution
  cases other
  exact congrArg₂ Resolution.mk hfound hnotFound

/-- The part that concerns some of the names splits these by the same answers. -/
theorem restrict (h : resolution.Partitions names answer?) (hsub : ∀ name ∈ others, name ∈ names) :
    (resolution.restrict others).Partitions others answer? := by
  have hsorted : (resolution.restrict others).foundNames.Pairwise (· < ·) :=
    h.found_sorted.sublist (List.filter_sublist.map _)
  refine of_pointwise hsorted (h.notFound_sorted.filter _) ?_ ?_
  · intro name hit
    rw [← mem_found_iff hsorted, Resolution.restrict, List.mem_filter,
      mem_found_iff h.found_sorted, h.hit?_eq_some_iff, decide_eq_true_iff]
    exact ⟨fun ⟨⟨_, hanswer⟩, hmem⟩ => ⟨hmem, hanswer⟩,
      fun ⟨hmem, hanswer⟩ => ⟨⟨hsub name hmem, hanswer⟩, hmem⟩⟩
  · intro name
    rw [Resolution.restrict, List.mem_filter, h.mem_notFound_iff, decide_eq_true_iff]
    exact ⟨fun ⟨⟨_, hanswer⟩, hmem⟩ => ⟨hmem, hanswer⟩,
      fun ⟨hmem, hanswer⟩ => ⟨⟨hsub name hmem, hanswer⟩, hmem⟩⟩

theorem congr (h : resolution.Partitions names answer?)
    (hsame : ∀ name, name ∈ names ↔ name ∈ others) : resolution.Partitions others answer? := by
  refine of_pointwise h.found_sorted h.notFound_sorted ?_ ?_
  · intro name hit
    rw [h.hit?_eq_some_iff, hsame]
  · intro name
    rw [h.mem_notFound_iff, hsame]

/-- Taking in the answer to a name behind all others keeps the names partitioned. -/
theorem record (h : resolution.Partitions names answer?) {name : String}
    (hlast : ∀ earlier ∈ names, earlier < name) :
    (resolution.record name (answer? name)).Partitions (names.insert name) answer? := by
  have hfound : ∀ found ∈ resolution.found, found.1 < name := fun found hmem =>
    hlast found.1 ((h.cover found.1).2 (.inl (List.mem_map_of_mem hmem)))
  have hsorted := foundNames_record_sorted h.found_sorted name (answer? name)
  refine of_pointwise hsorted ?_ ?_ ?_
  · unfold Resolution.record
    split
    · exact h.notFound_sorted
    · refine List.pairwise_append.2 ⟨h.notFound_sorted, List.pairwise_singleton _ _, ?_⟩
      intro earlier hearlier last hmem
      obtain rfl := List.mem_singleton.1 hmem
      exact hlast earlier ((h.cover earlier).2 (.inr hearlier))
  · intro other hit
    rw [← mem_found_iff hsorted, mem_found_record hfound, mem_found_iff h.found_sorted,
      h.hit?_eq_some_iff, IncludeNames.mem_insert]
    grind
  · intro other
    rw [mem_notFound_record, h.mem_notFound_iff, IncludeNames.mem_insert]
    grind

/-- Once the answers to all names of a set are taken in, in order, the set is partitioned. -/
theorem ofAnswers (names : IncludeNames) (answer? : String → Option Hit) :
    (Resolution.ofAnswers names answer?).Partitions names answer? := by
  obtain ⟨listed, sorted⟩ := names
  -- The names taken in so far are a set of their own, and the next name is behind all of them.
  induction listed using List.reverseRecOn with
  | nil =>
      refine of_pointwise .nil .nil ?_ ?_
      · exact fun name hit => iff_of_false nofun fun h => List.not_mem_nil h.1
      · exact fun name => iff_of_false List.not_mem_nil fun h => List.not_mem_nil h.1
  | append_singleton before name ih =>
      obtain ⟨hbefore, -, hlast⟩ := List.pairwise_append.1 sorted
      have hpart := (ih hbefore).record fun earlier hmem => hlast earlier hmem name (by simp)
      rw [Resolution.ofAnswers, List.foldl_concat]
      refine hpart.congr fun other => ?_
      rw [IncludeNames.mem_insert]
      show other = name ∨ other ∈ before ↔ other ∈ before ++ [name]
      rw [List.mem_append, List.mem_singleton, or_comm]

end Partitions

end Resolution

namespace SearchSpace

open Resolution

/-- The names of a set are split by what is found for them on their own. -/
theorem partitions_resolve (space : SearchSpace) (names : IncludeNames) :
    (space.resolve names).Partitions names space.locate? := by
  have hsorted : (space.resolve names).foundNames.Pairwise (· < ·) := by
    refine List.pairwise_map.2 (List.Pairwise.filterMap _ ?_ names.sorted)
    intro name later hlt found hfound found' hfound'
    obtain ⟨hit, -, rfl⟩ := Option.map_eq_some_iff.1 hfound
    obtain ⟨hit', -, rfl⟩ := Option.map_eq_some_iff.1 hfound'
    exact hlt
  refine Partitions.of_pointwise hsorted (names.sorted.filter _) ?_ ?_
  · intro name hit
    rw [← mem_found_iff hsorted, mem_found_resolve]
  · intro name
    rw [resolve, List.mem_filter, Option.isNone_iff_eq_none]
    rfl

/-- A resolution partitions its names pointwise, each half in strict order, and is what arises when
the answers are taken in one by one. Of two sets that are looked up together each comes out as if it
had been looked up alone. -/
theorem resolve_partitions_and_restricts (space : SearchSpace) (names others : IncludeNames) :
    (space.resolve names).Partitions names space.locate? ∧
    ofAnswers names space.locate? = space.resolve names ∧
    (space.resolve (names ∪ others)).restrict names = space.resolve names ∧
    (space.resolve (names ∪ others)).restrict others = space.resolve others := by
  have hunion := space.partitions_resolve (names ∪ others)
  refine ⟨space.partitions_resolve names, ?_, ?_, ?_⟩
  · exact (Partitions.ofAnswers names space.locate?).unique (space.partitions_resolve names)
  · have hpart := hunion.restrict fun name hmem => IncludeNames.mem_union.2 (.inl hmem)
    exact hpart.unique (space.partitions_resolve names)
  · have hpart := hunion.restrict fun name hmem => IncludeNames.mem_union.2 (.inr hmem)
    exact hpart.unique (space.partitions_resolve others)

end SearchSpace

end HeaderSearch
