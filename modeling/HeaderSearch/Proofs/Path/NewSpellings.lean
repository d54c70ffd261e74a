/-
# New spellings

Of a list of paths those are kept that are new where they stand: not the same as a path before them,
whatever the spelling. What is kept is pairwise different, stands for all paths of the list, and
does not change if a path that is not new is left out.
-/

import HeaderSearch.Path.Basic
import Mathlib.Data.List.Induction

namespace HeaderSearch

/-- The paths of a list that are new where they stand: not the same as one before them in the list,
nor as one of those that came earlier. -/
def newSpellings (earlier : List Path) : List Path → List Path
  | [] => []
  | p :: rest =>
    if ∃ e ∈ earlier, e.Same p then newSpellings (earlier ++ [p]) rest
    else p :: newSpellings (earlier ++ [p]) rest

variable {earlier others before after paths : List Path} {p : Path}

/-- What came earlier matters only up to spelling. -/
theorem newSpellings_congr
    (h : ∀ p : Path, (∃ e ∈ earlier, e.Same p) ↔ ∃ e ∈ others, e.Same p) (paths : List Path) :
    newSpellings earlier paths = newSpellings others paths := by
  induction paths generalizing earlier others with
  | nil => rfl
  | cons first rest ih =>
      have hrest : newSpellings (earlier ++ [first]) rest =
          newSpellings (others ++ [first]) rest := by
        apply ih
        intro p
        simp only [List.mem_append, or_and_right, exists_or, h]
      simp only [newSpellings, h, hrest]

theorem newSpellings_append (earlier before after : List Path) :
    newSpellings earlier (before ++ after) =
      newSpellings earlier before ++ newSpellings (earlier ++ before) after := by
  induction before generalizing earlier with
  | nil => rw [List.append_nil]; rfl
  | cons first rest ih =>
      rw [List.cons_append, newSpellings, newSpellings, ih, List.append_cons earlier first rest]
      split
      · rfl
      · rfl

/-- One more path at the end is listed unless a path before it is the same. -/
theorem newSpellings_concat (earlier paths : List Path) (p : Path) :
    newSpellings earlier (paths ++ [p]) =
      newSpellings earlier paths ++ if ∃ e ∈ earlier ++ paths, e.Same p then [] else [p] := by
  rw [newSpellings_append]
  rfl

/-- A path that is not new where it stands can be left out. -/
theorem newSpellings_leaveOut (h : ∃ e ∈ before, e.Same p) (after : List Path) :
    newSpellings [] (before ++ p :: after) = newSpellings [] (before ++ after) := by
  rw [newSpellings_append, newSpellings_append, List.nil_append, newSpellings, if_pos h]
  congr 1
  apply newSpellings_congr
  intro q
  simp only [List.mem_append, List.mem_singleton, or_and_right, exists_or, exists_eq_left]
  apply or_iff_left_of_imp
  intro hq
  obtain ⟨e, he, hsame⟩ := h
  exact ⟨e, he, hsame.trans hq⟩

/-- Of the paths that are kept none is the same as one that came earlier. -/
theorem not_same_of_mem_newSpellings {e : Path} (he : e ∈ earlier)
    (h : p ∈ newSpellings earlier paths) : ¬ e.Same p := by
  induction paths generalizing earlier with
  | nil => cases h
  | cons first rest ih =>
      rw [newSpellings] at h
      split at h
      · exact ih (List.mem_append_left _ he) h
      · next hnew =>
        cases h with
        | head => exact fun hsame => hnew ⟨e, he, hsame⟩
        | tail _ h => exact ih (List.mem_append_left _ he) h

/-- The paths that are kept are pairwise different. -/
theorem pairwise_newSpellings (earlier paths : List Path) :
    (newSpellings earlier paths).Pairwise fun p q => ¬ p.Same q := by
  induction paths generalizing earlier with
  | nil => exact .nil
  | cons first rest ih =>
      rw [newSpellings]
      split
      · exact ih _
      · refine .cons (fun p hp => ?_) (ih _)
        exact not_same_of_mem_newSpellings (by simp) hp

/-- Every path of the list is kept, in one spelling or another, and nothing else is. -/
theorem exists_same_mem_newSpellings_iff :
    (∃ e ∈ newSpellings [] paths, e.Same p) ↔ ∃ e ∈ paths, e.Same p := by
  induction paths using List.reverseRecOn with
  | nil => rfl
  | append_singleton paths last ih =>
      rw [newSpellings_concat, List.nil_append]
      simp only [List.mem_append, or_and_right, exists_or, ih, List.mem_singleton, exists_eq_left]
      split
      · next hold =>
        rw [or_iff_left_of_imp, or_iff_left_of_imp]
        · intro hlast
          obtain ⟨e, he, hsame⟩ := hold
          exact ⟨e, he, hsame.trans hlast⟩
        · intro hnone
          obtain ⟨e, he, -⟩ := hnone
          cases he
      · simp

/-- What lists a further path exactly if it is new lists the paths that are new where they stand. -/
theorem eq_newSpellings (listed : List Path → List Path) (hnil : listed [] = [])
    (hconcat : ∀ paths p, listed (paths ++ [p]) =
      if ∃ e ∈ paths, e.Same p then listed paths else listed paths ++ [p]) (paths : List Path) :
    listed paths = newSpellings [] paths := by
  induction paths using List.reverseRecOn with
  | nil => exact hnil
  | append_singleton paths p ih =>
      rw [hconcat, newSpellings_concat, ih, List.nil_append]
      split
      · rw [List.append_nil]
      · rfl

end HeaderSearch
