/-
# Scanning candidates from the last to the first

The best of a sorted list of candidates can also be found without comparing any two of them by the
ranking. The list is scanned from its end, and a candidate takes the place of the best one so far
if that one has not got the keyword, or if the candidate has it and is shorter. The rule is not an
order: what it accepts depends on what was met before. But whatever is still to come is not later
in the alphabet than what was met, and for such candidates the rule keeps the same of two as the
ranking does.
-/

import HeaderSearch.Proofs.Resolution.Ranking

namespace HeaderSearch.Candidate

variable {keyword best c : String}

/-! ## The scan -/

/-- Does a candidate take the place of the best one so far? -/
def supersedes (keyword c : String) : Option String → Bool
  | none => true
  | some best => !hasKeyword keyword best ||
      (hasKeyword keyword c && c.utf8ByteSize < best.utf8ByteSize)

/-- The best candidate so far, after one more has been met. -/
def keepBest (keyword : String) (best? : Option String) (c : String) : Option String :=
  if supersedes keyword c best? then some c else best?

/-- What is left after a scan from the last candidate to the first. -/
def scanDown (keyword : String) (candidates : List String) : Option String :=
  candidates.reverse.foldl (keepBest keyword) none

/-! ## One step -/

theorem compare_ne_lt (h : c ≤ best) : compare best c ≠ .lt :=
  fun hlt => String.not_lt.2 h (compareOfLessAndEq_eq_lt.1 hlt)

/-- Between two candidates with the keyword the shorter is taken. If they are equally long the one
met first stays, since it is the later one in the alphabet. -/
theorem better_of_holders (hbest : hasKeyword keyword best = true)
    (hc : hasKeyword keyword c = true) (hle : c ≤ best) :
    better keyword best c = if c.utf8ByteSize < best.utf8ByteSize then c else best := by
  rw [better, rank_of_holders hbest hc, rankHolders]
  rcases Nat.lt_trichotomy c.utf8ByteSize best.utf8ByteSize with hlt | hsize | hgt
  · rw [if_pos hlt, Nat.compare_eq_lt.2 hlt]
    rfl
  · rw [hsize, if_neg (Nat.lt_irrefl _), Nat.compare_eq_eq.2 rfl, Ordering.then]
    cases hcompare : compare best c with
    | lt => exact absurd hcompare (compare_ne_lt hle)
    | eq => exact (Std.LawfulEqCmp.eq_of_compare hcompare).symm
    | gt => rfl
  · rw [if_neg (Nat.not_lt_of_gt hgt), Nat.compare_eq_gt.2 hgt]
    rfl

/-- Between two candidates without the keyword the earlier in the alphabet is taken. -/
theorem better_of_others (hbest : hasKeyword keyword best = false)
    (hc : hasKeyword keyword c = false) (hle : c ≤ best) : better keyword best c = c := by
  have hswap : compare best c = (compare c best).swap := Std.OrientedCmp.eq_swap
  rw [better, rank_of_others hbest hc, if_neg]
  intro hgt
  rw [hgt] at hswap
  exact compare_ne_lt hle hswap

/-- A candidate that is not later in the alphabet than the best one so far takes its place exactly
if it is the better of the two. -/
theorem keepBest_some (hle : c ≤ best) :
    keepBest keyword (some best) c = some (better keyword best c) := by
  cases hbest : hasKeyword keyword best with
  | false =>
      have htaken : better keyword best c = c := by
        cases hc : hasKeyword keyword c with
        | false => exact better_of_others hbest hc hle
        | true => rw [better, rank_to_holder hbest hc, if_neg (by decide)]
      simp [keepBest, supersedes, hbest, htaken]
  | true =>
      cases hc : hasKeyword keyword c with
      | false =>
          have hkept : better keyword best c = best := by
            rw [better, rank_of_holder hbest hc, if_pos rfl]
          simp [keepBest, supersedes, hbest, hc, hkept]
      | true =>
          rw [better_of_holders hbest hc hle, apply_ite some]
          simp [keepBest, supersedes, hbest, hc]

/-! ## The whole scan -/

/-- Over candidates that go down the alphabet the scan keeps what the ranking prefers. -/
theorem foldl_keepBest {rest : List String} (h : (best :: rest).Pairwise (· ≥ ·)) :
    rest.foldl (keepBest keyword) (some best) = some (rest.foldl (better keyword) best) := by
  induction rest generalizing best with
  | nil => rfl
  | cons c rest ih =>
      obtain ⟨hbest, hrest⟩ := List.pairwise_cons.1 h
      rw [List.foldl_cons, List.foldl_cons, keepBest_some (hbest c List.mem_cons_self)]
      apply ih
      -- Whichever of the two was kept, the others are not later in the alphabet.
      rcases better_eq_or_eq keyword best c with hkept | hkept
      · rw [hkept]
        exact h.sublist (by simp)
      · rw [hkept]
        exact hrest

/-- The best of a list in alphabetical order, in which candidates may be repeated, is what the scan
from its end leaves. -/
theorem best?_eq_scanDown (keyword : String) {candidates : List String}
    (h : candidates.Pairwise (· ≤ ·)) : best? keyword candidates = scanDown keyword candidates := by
  have hdown : candidates.reverse.Pairwise (· ≥ ·) := List.pairwise_reverse.2 h
  have hsame (c : String) : c ∈ candidates ↔ c ∈ candidates.reverse := List.mem_reverse.symm
  rw [best?_congr hsame, scanDown]
  cases hscan : candidates.reverse with
  | nil => rfl
  | cons last rest =>
      rw [hscan] at hdown
      exact (foldl_keepBest hdown).symm

/-- A list in which candidates are repeated, and in which two with the keyword are equally long. -/
def repeatedCandidates : List String :=
  ["/a/c++/10/x", "/a/c++/11/x", "/a/c++/11/x", "/a/c++/11/y/x", "/z/x", "/z/x"]

/-- The scan gives up the short paths at the end for the first path with the keyword, this one for a
shorter one, and that one for nothing. -/
theorem best?_of_repeatedCandidates :
    repeatedCandidates.Pairwise (· ≤ ·) ∧
    best? "++" repeatedCandidates = scanDown "++" repeatedCandidates ∧
    scanDown "++" repeatedCandidates = some "/a/c++/11/x" := by
  have hsorted : repeatedCandidates.Pairwise (· ≤ ·) := by decide +kernel
  exact ⟨hsorted, best?_eq_scanDown "++" hsorted, by decide +kernel⟩

end HeaderSearch.Candidate
