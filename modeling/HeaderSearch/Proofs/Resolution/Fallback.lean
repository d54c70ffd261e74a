/-
# Asking about what was not found

The package system is asked about the names that were not found, one after the other and about each
once. A name is provided if the answer lists paths; an answer without paths leaves it out, and so
does a failed look-up, of which there is an entry besides.

One question does not influence the next. So the look-ups that fail might as well have found
nothing: only their entries would be missing. And since a resolution partitions its names, each of
them is found, or provided by a package, or neither.
-/

import HeaderSearch.Packages
import HeaderSearch.Proofs.Resolution.Partition
import Mathlib.Data.List.Perm.Basic

namespace HeaderSearch

/-! ## Answers -/

section Answered

variable {α : Type} {answer? : String → Option α} {name : String} {names : List String}

/-- The names that have an answer, in order, each with it. -/
def answered (answer? : String → Option α) (names : List String) : List (String × α) :=
  names.filterMap fun name => (answer? name).map (name, ·)

theorem mem_answered_iff {a : α} :
    (name, a) ∈ answered answer? names ↔ name ∈ names ∧ answer? name = some a := by
  rw [answered, List.mem_filterMap]
  constructor
  · intro h
    obtain ⟨asked, hasked, heq⟩ := h
    obtain ⟨given, hgiven, hpair⟩ := Option.map_eq_some_iff.1 heq
    cases hpair
    exact ⟨hasked, hgiven⟩
  · intro h
    exact ⟨name, h.1, by rw [h.2]; rfl⟩

theorem map_fst_answered (answer? : String → Option α) (names : List String) :
    (answered answer? names).map Prod.fst = names.filter fun name => (answer? name).isSome := by
  rw [answered, List.map_filterMap, ← List.filterMap_eq_filter]
  congr
  funext name
  cases hanswer : answer? name with
  | none => simp [Option.guard, hanswer]
  | some a => simp [Option.guard, hanswer]

end Answered

namespace PackageSystem

variable {packages : PackageSystem} {name : String} {paths : List Path} {causes : LookupFailure}

/-- The paths that a package provides for a name, if there are any. -/
def provided? (packages : PackageSystem) (name : String) : Option (List Path) :=
  match packages.provides name with
  | .ok (path :: paths) => some (path :: paths)
  | _ => none

/-- Why the look-up of a name fails, if it does. -/
def failure? (packages : PackageSystem) (name : String) : Option LookupFailure :=
  match packages.provides name with
  | .error causes => some causes
  | .ok _ => none

/-- Look a name up, and note that it was asked for. -/
def noting (packages : PackageSystem) (name : String) :
    StateM (List String) (Except LookupFailure (List Path)) := do
  modify (· ++ [name])
  return packages.provides name

/-- A package system that has nothing for some of the names, and answers as before for all
others. -/
def silenced (packages : PackageSystem) (silent : String → Bool) : PackageSystem :=
  { packages with
    provides := fun name => if silent name then .ok [] else packages.provides name }

theorem provided?_eq_some_iff :
    packages.provided? name = some paths ↔ packages.provides name = .ok paths ∧ paths ≠ [] := by
  unfold provided?
  split
  · next path rest hprovides =>
    rw [hprovides, Option.some_inj, Except.ok.injEq]
    constructor
    · intro heq
      exact ⟨heq, heq ▸ List.cons_ne_nil path rest⟩
    · exact And.left
  · next hnone =>
    constructor
    · intro hsome
      cases hsome
    · intro hsome
      cases paths with
      | nil => exact absurd rfl hsome.2
      | cons path rest => exact absurd hsome.1 (hnone path rest)

theorem failure?_eq_some_iff :
    packages.failure? name = some causes ↔ packages.provides name = .error causes := by
  unfold failure?
  split
  · next hprovides => rw [hprovides, Option.some_inj, Except.error.injEq]
  · next hprovides => simp [hprovides]

theorem provided?_silenced {silent : String → Bool}
    (h : ∀ name, silent name = true → ∃ causes, packages.provides name = .error causes)
    (name : String) : (packages.silenced silent).provided? name = packages.provided? name := by
  cases hsilent : silent name with
  | false => simp [provided?, silenced, hsilent]
  | true =>
      obtain ⟨causes, hcauses⟩ := h name hsilent
      simp [provided?, silenced, hsilent, hcauses]

theorem failure?_silenced (packages : PackageSystem) (silent : String → Bool) (name : String) :
    (packages.silenced silent).failure? name =
      if silent name then none else packages.failure? name := by
  cases hsilent : silent name with
  | false => simp [failure?, silenced, hsilent]
  | true => simp [failure?, silenced, hsilent]

end PackageSystem

/-! ## Questions -/

namespace Resolution

variable {resolution : Resolution} {packages : PackageSystem} {names : IncludeNames}
  {answer? : String → Option Hit}

/-- The look-ups that fail, in the order of the questions, each with its causes. -/
def failures (resolution : Resolution) (packages : PackageSystem) :
    List (String × LookupFailure) :=
  answered packages.failure? resolution.notFound

/-- The names for which there is nothing at all: not found, and not provided by a package. -/
def remaining (resolution : Resolution) (packages : PackageSystem) : List String :=
  resolution.notFound.filter fun name => (packages.provided? name).isNone

/-- What comes of asking when the questions are noted, and the questions. -/
def noted (resolution : Resolution) (packages : PackageSystem) : Fallback × List String :=
  Id.run ((resolution.askAll packages.noting).run [])

theorem record_eq (fallback : Fallback) (packages : PackageSystem) (name : String) :
    fallback.record name (packages.provides name) =
      ⟨fallback.provided ++ ((packages.provided? name).map (name, ·)).toList,
        fallback.log ++ ((packages.failure? name).map (·.entry name)).toList⟩ := by
  unfold PackageSystem.provided? PackageSystem.failure?
  match packages.provides name with
  | .ok [] => simp [Fallback.record]
  | .ok (path :: paths) => simp [Fallback.record]
  | .error causes => simp [Fallback.record]

/-- One answer after the other: each name adds its paths or its entry, whatever came before. -/
theorem foldl_record_eq (packages : PackageSystem) (names : List String) (start : Fallback) :
    names.foldl (fun fallback name => fallback.record name (packages.provides name)) start =
      ⟨start.provided ++ answered packages.provided? names,
        start.log ++ names.filterMap fun name => (packages.failure? name).map (·.entry name)⟩ := by
  unfold answered
  induction names generalizing start with
  | nil => simp
  | cons name rest ih =>
      rw [List.foldl_cons, ih, record_eq, List.filterMap_cons, List.filterMap_cons]
      cases packages.provided? name <;> cases packages.failure? name <;> simp

theorem askAll_eq (resolution : Resolution) (packages : PackageSystem) :
    Id.run (resolution.askAll packages.provides) =
      resolution.notFound.foldl
        (fun fallback name => fallback.record name (packages.provides name)) .empty :=
  List.idRun_foldlM

theorem fallback_eq (resolution : Resolution) (packages : PackageSystem) :
    resolution.fallback packages = answered packages.provided? resolution.notFound := by
  rw [fallback, askAll_eq, foldl_record_eq]
  rfl

theorem fallbackLog_eq (resolution : Resolution) (packages : PackageSystem) :
    resolution.fallbackLog packages =
      (resolution.failures packages).map fun failure => failure.2.entry failure.1 := by
  rw [fallbackLog, askAll_eq, foldl_record_eq, failures, answered.eq_def packages.failure?,
    List.map_filterMap]
  simp only [Option.map_map, Function.comp_def]
  rfl

/-- Noting a question adds it to those noted so far, and changes nothing about its answer. -/
theorem run_foldlM_noting (packages : PackageSystem) (names asked : List String)
    (start : Fallback) :
    (names.foldlM (fun fallback name => fallback.record name <$> packages.noting name)
        start).run asked =
      (names.foldl (fun fallback name => fallback.record name (packages.provides name)) start,
        asked ++ names) := by
  induction names generalizing asked start with
  | nil =>
      rw [List.append_nil]
      rfl
  | cons name rest ih =>
      rw [List.foldlM_cons, List.foldl_cons, List.append_cons]
      exact ih (asked ++ [name]) (start.record name (packages.provides name))

theorem noted_eq (resolution : Resolution) (packages : PackageSystem) :
    resolution.noted packages =
      (⟨resolution.fallback packages, resolution.fallbackLog packages⟩, resolution.notFound) := by
  rw [noted, askAll, run_foldlM_noting, fallback, fallbackLog, askAll_eq]
  rfl

/-! ## What comes of asking -/

/-- What becomes of the names of a set if the package system is asked about those that the
resolution has not found. -/
structure FallsBackOn (resolution : Resolution) (names : IncludeNames) (packages : PackageSystem) :
    Prop where
  /-- A package system that notes the questions has been asked about the names that were not found,
  in this order, and the outcome is that of the fallback. -/
  asked : resolution.noted packages =
    (⟨resolution.fallback packages, resolution.fallbackLog packages⟩, resolution.notFound)
  /-- The questions come in the order of the names, and none comes twice. -/
  asked_sorted : resolution.notFound.Pairwise (· < ·)
  /-- No question is about a name that was found. -/
  found_not_asked : ∀ name ∈ resolution.foundNames, name ∉ resolution.notFound
  /-- Provided are the names whose answer lists paths, with these paths. -/
  lookup_eq_some_iff : ∀ name paths, (resolution.fallback packages).lookup name = some paths ↔
    name ∈ resolution.notFound ∧ packages.provides name = .ok paths ∧ paths ≠ []
  /-- The names provided are in order, and none is listed twice. -/
  provided_sorted : ((resolution.fallback packages).map Prod.fst).Pairwise (· < ·)
  /-- The look-ups that fail are those with an error for an answer. -/
  mem_failures_iff : ∀ name causes, (name, causes) ∈ resolution.failures packages ↔
    name ∈ resolution.notFound ∧ packages.provides name = .error causes
  /-- They are in the order of the names, and none is listed twice. -/
  failures_sorted : ((resolution.failures packages).map Prod.fst).Pairwise (· < ·)
  /-- There is one entry for each of them, in this order, and no other. -/
  warned : resolution.fallbackLog packages =
    (resolution.failures packages).map fun failure => failure.2.entry failure.1
  /-- Had there been nothing for some of these names, instead of a failure, then nothing would
  be different but that their entries would be missing. -/
  isolated : ∀ silent : String → Bool,
    (∀ name, silent name = true → ∃ causes, packages.provides name = .error causes) →
    resolution.fallback (packages.silenced silent) = resolution.fallback packages ∧
    resolution.fallbackLog (packages.silenced silent) =
      ((resolution.failures packages).filter fun failure => !silent failure.1).map
        fun failure => failure.2.entry failure.1
  /-- Each name of the set is found, or provided, or remains. -/
  partition : (resolution.foundNames ++ (resolution.fallback packages).map Prod.fst ++
    resolution.remaining packages).Perm names.toList

/-- Whatever is found or not, the names not found are provided or remain. -/
theorem provided_append_remaining_perm (resolution : Resolution) (packages : PackageSystem) :
    ((resolution.fallback packages).map Prod.fst ++ resolution.remaining packages).Perm
      resolution.notFound := by
  rw [fallback_eq, map_fst_answered, remaining]
  simp only [← Option.not_isSome]
  exact List.filter_append_perm _ _

theorem Partitions.found_append_notFound_perm (h : resolution.Partitions names answer?) :
    (resolution.foundNames ++ resolution.notFound).Perm names.toList := by
  have hnodup : (resolution.foundNames ++ resolution.notFound).Nodup := by
    rw [List.nodup_append']
    exact ⟨h.found_sorted.nodup, h.notFound_sorted.nodup, h.disjoint⟩
  apply (List.perm_ext_iff_of_nodup hnodup names.sorted.nodup).2
  intro name
  rw [List.mem_append]
  exact (h.cover name).symm

theorem failures_silenced (resolution : Resolution) (packages : PackageSystem)
    (silent : String → Bool) :
    resolution.failures (packages.silenced silent) =
      (resolution.failures packages).filter fun failure => !silent failure.1 := by
  rw [failures, failures, answered, answered, List.filter_filterMap]
  congr
  funext name
  rw [PackageSystem.failure?_silenced]
  cases packages.failure? name with
  | none => simp
  | some causes => cases hsilent : silent name <;> simp [Option.filter, hsilent]

end Resolution

open Resolution

/-- The package system is asked about every name of a set that was not found, once and in order, and
about no other. It provides exactly the names whose answer lists paths; a look-up that fails is
reported once, and matters to no other name. So the names that were found, those that are provided
and those that remain are the set. -/
theorem SearchSpace.resolve_fallsBackOn (space : SearchSpace) (names : IncludeNames)
    (packages : PackageSystem) : (space.resolve names).FallsBackOn names packages := by
  have hpartition := space.partitions_resolve names
  have hprovided :
      (((space.resolve names).fallback packages).map Prod.fst).Pairwise (· < ·) := by
    rw [fallback_eq, map_fst_answered]
    exact hpartition.notFound_sorted.filter _
  have hfailed : (((space.resolve names).failures packages).map Prod.fst).Pairwise (· < ·) := by
    rw [failures, map_fst_answered]
    exact hpartition.notFound_sorted.filter _
  refine {
    asked := noted_eq _ packages
    asked_sorted := hpartition.notFound_sorted
    found_not_asked := hpartition.disjoint
    lookup_eq_some_iff := ?_
    provided_sorted := hprovided
    mem_failures_iff := ?_
    failures_sorted := hfailed
    warned := fallbackLog_eq _ packages
    isolated := ?_
    partition := ?_ }
  · intro name paths
    rw [HeaderSearch.lookup_eq_some_iff_mem hprovided.nodup, fallback_eq, mem_answered_iff,
      PackageSystem.provided?_eq_some_iff]
  · intro name causes
    rw [failures, mem_answered_iff, PackageSystem.failure?_eq_some_iff]
  · intro silent hfails
    constructor
    · rw [fallback_eq, fallback_eq, funext (PackageSystem.provided?_silenced hfails)]
    · rw [fallbackLog_eq, failures_silenced]
  · rw [List.append_assoc]
    exact ((provided_append_remaining_perm _ packages).append_left _).trans
      hpartition.found_append_notFound_perm

/-- A package system that has one header, and fails at another. -/
def unreliablePackages : PackageSystem where
  provides name :=
    if name = "gl.h" then .ok [Path.ofString "/opt/gl.h"]
    else if name = "x.h" then .error ["lookup", "locked"]
    else .ok []
  flag dir := dir.display

/-- One name that is found, and three that are not. -/
def partlyFound : Resolution :=
  (SearchSpace.ofHeaders [Path.ofString "/inc"] [Path.ofString "/inc/a.h"]).resolve
    (.ofList ["x.h", "gl.h", "b.h", "a.h"])

/-- The failure at `x.h` is reported, and `gl.h` is provided as it would be if there were nothing
for `x.h`. -/
theorem SearchSpace.partlyFound_despite_failure :
    partlyFound.noted unreliablePackages =
      (⟨[("gl.h", [Path.ofString "/opt/gl.h"])],
        [⟨.packages, .warn, "package lookup for x.h failed: lookup: locked"⟩]⟩,
        ["b.h", "gl.h", "x.h"]) ∧
    (∀ name, decide (name = "x.h") = true →
      ∃ causes, unreliablePackages.provides name = .error causes) ∧
    partlyFound.fallback (unreliablePackages.silenced (· = "x.h")) =
      partlyFound.fallback unreliablePackages ∧
    partlyFound.fallbackLog (unreliablePackages.silenced (· = "x.h")) = [] := by
  have hfails : ∀ name, decide (name = "x.h") = true →
      ∃ causes, unreliablePackages.provides name = .error causes := by
    intro name hname
    obtain rfl := of_decide_eq_true hname
    exact ⟨["lookup", "locked"], rfl⟩
  have hfallsBack : partlyFound.FallsBackOn (.ofList ["x.h", "gl.h", "b.h", "a.h"])
      unreliablePackages := resolve_fallsBackOn _ _ unreliablePackages
  have hisolated := hfallsBack.isolated (· = "x.h") hfails
  exact ⟨by decide +kernel, hfails, hisolated.1, hisolated.2.trans (by decide +kernel)⟩

end HeaderSearch
