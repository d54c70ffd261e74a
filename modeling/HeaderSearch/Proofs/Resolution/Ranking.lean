/-
# The ranking is a total order

Candidates are ranked by three rules, and which of them applies depends on both candidates. Yet the
rules fit together: those with the keyword come behind all others and are ordered by the second
rule, those without it by the third. So the ranking is transitive, two different candidates never
rank alike, and exchanging the candidates turns the ranking around.

The best of a list is therefore its greatest member. It depends on what is in the list alone, and
more candidates can only lead to a better one. Among candidates that begin alike only what follows
counts, apart from the keyword.
-/

import HeaderSearch.Proofs.Resolution.Stages

namespace HeaderSearch.Candidate

variable {keyword a b c best : String} {candidates : List String}

/-! ## The order -/

/-- The ranking among candidates with the keyword: the shorter is better, and of two that are
equally long the one later in the alphabet. -/
def rankHolders (a b : String) : Ordering :=
  (compare b.utf8ByteSize a.utf8ByteSize).then (compare a b)

instance : Std.TransCmp rankHolders :=
  inferInstanceAs (Std.TransCmp
    (compareLex (fun a b => compareOn String.utf8ByteSize b a) (compare : String → String → _)))

theorem rank_of_holders (ha : hasKeyword keyword a = true) (hb : hasKeyword keyword b = true) :
    rank keyword a b = rankHolders a b := by
  rw [rank, ha, hb]
  rfl

theorem rank_of_holder (ha : hasKeyword keyword a = true) (hb : hasKeyword keyword b = false) :
    rank keyword a b = .gt := by
  rw [rank, ha, hb]

theorem rank_to_holder (ha : hasKeyword keyword a = false) (hb : hasKeyword keyword b = true) :
    rank keyword a b = .lt := by
  rw [rank, ha, hb]

theorem rank_of_others (ha : hasKeyword keyword a = false) (hb : hasKeyword keyword b = false) :
    rank keyword a b = compare b a := by
  rw [rank, ha, hb]

/-- Exchanging the candidates turns the ranking around. -/
theorem rank_swap (keyword a b : String) : rank keyword a b = (rank keyword b a).swap := by
  cases ha : hasKeyword keyword a with
  | true =>
      cases hb : hasKeyword keyword b with
      | true =>
          rw [rank_of_holders ha hb, rank_of_holders hb ha]
          exact Std.OrientedCmp.eq_swap
      | false =>
          rw [rank_of_holder ha hb, rank_to_holder hb ha]
          rfl
  | false =>
      cases hb : hasKeyword keyword b with
      | true =>
          rw [rank_to_holder ha hb, rank_of_holder hb ha]
          rfl
      | false =>
          rw [rank_of_others ha hb, rank_of_others hb ha]
          exact Std.OrientedCmp.eq_swap

/-- A candidate with the keyword is at most as good only as others with the keyword. -/
theorem hasKeyword_of_isLE (h : (rank keyword a b).isLE = true)
    (ha : hasKeyword keyword a = true) : hasKeyword keyword b = true := by
  by_contra hb
  rw [rank_of_holder ha (Bool.not_eq_true _ ▸ hb)] at h
  cases h

theorem rank_trans (hab : (rank keyword a b).isLE = true) (hbc : (rank keyword b c).isLE = true) :
    (rank keyword a c).isLE = true := by
  cases ha : hasKeyword keyword a with
  | true =>
      have hb := hasKeyword_of_isLE hab ha
      have hc := hasKeyword_of_isLE hbc hb
      rw [rank_of_holders ha hb] at hab
      rw [rank_of_holders hb hc] at hbc
      rw [rank_of_holders ha hc]
      exact Std.TransCmp.isLE_trans hab hbc
  | false =>
      cases hc : hasKeyword keyword c with
      | true =>
          rw [rank_to_holder ha hc]
          rfl
      | false =>
          -- A candidate between two without the keyword has not got it either.
          have hb : hasKeyword keyword b = false := by
            rw [← Bool.not_eq_true]
            intro hb
            rw [hasKeyword_of_isLE hbc hb] at hc
            cases hc
          rw [rank_of_others ha hb] at hab
          rw [rank_of_others hb hc] at hbc
          rw [rank_of_others ha hc]
          exact Std.TransCmp.isLE_trans hbc hab

instance : Std.TransCmp (rank keyword) where
  eq_swap := rank_swap keyword _ _
  isLE_trans := rank_trans

/-- No two candidates rank alike. -/
theorem eq_of_rank_eq (h : rank keyword a b = .eq) : a = b := by
  cases ha : hasKeyword keyword a with
  | true =>
      cases hb : hasKeyword keyword b with
      | true =>
          rw [rank_of_holders ha hb, rankHolders, Ordering.then_eq_eq] at h
          exact Std.LawfulEqCmp.eq_of_compare h.2
      | false =>
          rw [rank_of_holder ha hb] at h
          cases h
  | false =>
      cases hb : hasKeyword keyword b with
      | true =>
          rw [rank_to_holder ha hb] at h
          cases h
      | false =>
          rw [rank_of_others ha hb] at h
          exact (Std.LawfulEqCmp.eq_of_compare h).symm

instance : Std.LawfulEqCmp (rank keyword) where
  compare_self := Std.ReflCmp.compare_self
  eq_of_compare := eq_of_rank_eq

/-- Where the keyword decides, it decides alike for other candidates that have it or lack it in the
same way. -/
theorem isLE_of_hasKeyword_ne {a' b' : String} (h : (rank keyword a b).isLE = true)
    (hne : hasKeyword keyword a ≠ hasKeyword keyword b)
    (ha : hasKeyword keyword a = hasKeyword keyword a')
    (hb : hasKeyword keyword b = hasKeyword keyword b') : (rank keyword a' b').isLE = true := by
  have hlacks : hasKeyword keyword a = false := by
    rw [← Bool.not_eq_true]
    exact fun hhas => hne (by rw [hhas, hasKeyword_of_isLE h hhas])
  have hhas : hasKeyword keyword b = true := by
    rw [← Bool.not_eq_false]
    exact fun hlacks' => hne (by rw [hlacks, hlacks'])
  rw [rank_to_holder (ha ▸ hlacks) (hb ▸ hhas)]
  rfl

/-! ## A common beginning -/

theorem append_lt_append_iff (front : List Char) {a b : List Char} :
    front ++ a < front ++ b ↔ a < b := by
  induction front with
  | nil => rfl
  | cons c front ih => rw [List.cons_append, List.cons_append, List.cons_lt_cons_iff]; simp [ih]

/-- Texts that begin alike are ordered by what follows. -/
theorem compare_append (front a b : String) : compare (front ++ a) (front ++ b) = compare a b := by
  have hlt : front ++ a < front ++ b ↔ a < b := by
    rw [String.lt_iff, String.lt_iff, String.toList_append, String.toList_append,
      append_lt_append_iff]
  have heq : front ++ a = front ++ b ↔ a = b := by
    simp
  change compareOfLessAndEq _ _ = compareOfLessAndEq _ _
  simp only [compareOfLessAndEq, hlt, heq]

theorem rankHolders_append (front a b : String) :
    rankHolders (front ++ a) (front ++ b) = rankHolders a b := by
  have hsize : compare (front ++ b).utf8ByteSize (front ++ a).utf8ByteSize =
      compare b.utf8ByteSize a.utf8ByteSize := by
    rw [String.utf8ByteSize_append, String.utf8ByteSize_append]
    simp [Nat.compare_eq_ite_lt]
  rw [rankHolders, rankHolders, hsize, compare_append]

/-- Candidates keep their ranking if another text stands in front of both, provided that this does
not take the keyword from them or give it to them. -/
theorem rank_append {front front' : String}
    (ha : hasKeyword keyword (front ++ a) = hasKeyword keyword (front' ++ a))
    (hb : hasKeyword keyword (front ++ b) = hasKeyword keyword (front' ++ b)) :
    rank keyword (front ++ a) (front ++ b) = rank keyword (front' ++ a) (front' ++ b) := by
  have hholders : rankHolders (front ++ a) (front ++ b) =
      rankHolders (front' ++ a) (front' ++ b) := by
    rw [rankHolders_append, rankHolders_append]
  have hothers : compare (front ++ b) (front ++ a) = compare (front' ++ b) (front' ++ a) := by
    rw [compare_append, compare_append]
  rw [rankHolders, rankHolders] at hholders
  simp only [rank, ha, hb, hholders, hothers]

/-! ## The best candidate -/

theorem rank_better_left (keyword a b : String) : (rank keyword a (better keyword a b)).isLE := by
  unfold better
  split
  · exact Std.ReflCmp.isLE_rfl
  · next h => cases hrank : rank keyword a b <;> simp_all

theorem rank_better_right (keyword a b : String) : (rank keyword b (better keyword a b)).isLE := by
  unfold better
  split
  · next h => rw [rank_swap, h]; rfl
  · exact Std.ReflCmp.isLE_rfl

/-- The running best is at least as good as everything that it has been compared with. -/
theorem rank_foldl_better (keyword first : String) (rest : List String) :
    ∀ c ∈ first :: rest, (rank keyword c (rest.foldl (better keyword) first)).isLE := by
  induction rest generalizing first with
  | nil =>
      intro c hc
      rw [List.mem_singleton.1 hc]
      exact Std.ReflCmp.isLE_rfl
  | cons second rest ih =>
      obtain ⟨hbest, hrest⟩ := List.forall_mem_cons.1 (ih (better keyword first second))
      rw [List.foldl_cons, List.forall_mem_cons, List.forall_mem_cons]
      exact ⟨rank_trans (rank_better_left keyword first second) hbest,
        rank_trans (rank_better_right keyword first second) hbest, hrest⟩

/-- The best candidate is the greatest of them. -/
theorem best?_eq_some_iff : best? keyword candidates = some best ↔
    best ∈ candidates ∧ ∀ c ∈ candidates, (rank keyword c best).isLE := by
  have hgreatest {found : String} (hfound : best? keyword candidates = some found) :
      ∀ c ∈ candidates, (rank keyword c found).isLE := by
    cases candidates with
    | nil => cases hfound
    | cons first rest =>
        cases hfound
        exact rank_foldl_better keyword first rest
  constructor
  · intro h
    exact ⟨mem_of_best? h, hgreatest h⟩
  · rintro ⟨hmem, hbest⟩
    obtain ⟨found, hfound⟩ : ∃ found, best? keyword candidates = some found := by
      cases candidates with
      | nil => cases hmem
      | cons first rest => exact ⟨_, rfl⟩
    have hle := hgreatest hfound best hmem
    have hge := hbest found (mem_of_best? hfound)
    rw [hfound, eq_of_rank_eq (Std.OrientedCmp.isLE_antisymm hge hle)]

/-- More candidates lead to a better one, or to the same. -/
theorem exists_best?_of_subset {others : List String} (h : best? keyword candidates = some best)
    (hsub : candidates ⊆ others) :
    ∃ best', best? keyword others = some best' ∧ (rank keyword best best').isLE := by
  have hmem := hsub (mem_of_best? h)
  cases hbest : best? keyword others with
  | none =>
      rw [best?_eq_none_iff.1 hbest] at hmem
      cases hmem
  | some best' => exact ⟨best', rfl, (best?_eq_some_iff.1 hbest).2 best hmem⟩

/-- The best candidate depends on what the candidates are, and neither on their order nor on how
often each is listed. -/
theorem best?_congr {others : List String} (h : ∀ c, c ∈ candidates ↔ c ∈ others) :
    best? keyword candidates = best? keyword others := by
  apply Option.ext
  intro best
  simp only [best?_eq_some_iff, h]

/-- Every other candidate ranks below the best one. -/
theorem rank_best_of_ne (h : best? keyword candidates = some best) (hc : c ∈ candidates)
    (hne : c ≠ best) : rank keyword c best = .lt := by
  have hle := (best?_eq_some_iff.1 h).2 c hc
  cases hrank : rank keyword c best with
  | lt => rfl
  | eq => exact absurd (eq_of_rank_eq hrank) hne
  | gt =>
      rw [hrank] at hle
      cases hle

/-- For every keyword the ranking is a total order of the texts: only a text itself ranks like it,
exchanging two candidates turns the answer around, and what is at most as good as something is at
most as good as everything better. So each list with candidates has exactly one that all others
rank below, which is the best, and lists with the same candidates have the same best one. -/
theorem rank_orders_and_best?_is_greatest (keyword : String) :
    (∀ a b, rank keyword a b = .eq ↔ a = b) ∧
    (∀ a b, rank keyword b a = (rank keyword a b).swap) ∧
    (∀ a b c, (rank keyword a b).isLE → (rank keyword b c).isLE → (rank keyword a c).isLE) ∧
    (∀ candidates, candidates ≠ [] → ∃ best ∈ candidates, best? keyword candidates = some best ∧
      ∀ c ∈ candidates, c ≠ best → rank keyword c best = .lt) ∧
    ∀ candidates others, (∀ c, c ∈ candidates ↔ c ∈ others) →
      best? keyword candidates = best? keyword others := by
  have hequal (a b : String) : rank keyword a b = .eq ↔ a = b :=
    ⟨eq_of_rank_eq, fun h => h ▸ Std.ReflCmp.compare_self⟩
  have hgreatest (candidates : List String) (hne : candidates ≠ []) :
      ∃ best ∈ candidates, best? keyword candidates = some best ∧
        ∀ c ∈ candidates, c ≠ best → rank keyword c best = .lt := by
    obtain ⟨best, hbest⟩ := Option.ne_none_iff_exists'.1 (mt best?_eq_none_iff.1 hne)
    exact ⟨best, mem_of_best? hbest, hbest, fun c => rank_best_of_ne hbest⟩
  exact ⟨hequal, fun a b => rank_swap keyword b a, fun a b c => rank_trans, hgreatest,
    fun candidates others => best?_congr⟩

/-- Candidates for one name, the first and the last with the keyword. -/
def mixedCandidates : List String := ["/c/c++/x", "/inc/x", "/b/c++/x"]

/-- The same candidates in another order, and one of them twice. -/
def shuffledCandidates : List String := ["/inc/x", "/b/c++/x", "/inc/x", "/c/c++/x"]

/-- The short candidate without the keyword ranks below one with it, and so below the other. The
order in which the three are listed makes no difference to the best of them. -/
theorem best?_of_shuffledCandidates :
    (rank "++" "/inc/x" "/b/c++/x").isLE ∧ (rank "++" "/b/c++/x" "/c/c++/x").isLE ∧
    (rank "++" "/inc/x" "/c/c++/x").isLE ∧
    mixedCandidates ≠ [] ∧
    (∃ best ∈ mixedCandidates, best? "++" mixedCandidates = some best ∧
      ∀ c ∈ mixedCandidates, c ≠ best → rank "++" c best = .lt) ∧
    (∀ c, c ∈ mixedCandidates ↔ c ∈ shuffledCandidates) ∧
    best? "++" mixedCandidates = best? "++" shuffledCandidates := by
  obtain ⟨-, -, htrans, hgreatest, hcongr⟩ := rank_orders_and_best?_is_greatest "++"
  have hfirst : (rank "++" "/inc/x" "/b/c++/x").isLE := by decide +kernel
  have hsecond : (rank "++" "/b/c++/x" "/c/c++/x").isLE := by decide +kernel
  have hnonempty : mixedCandidates ≠ [] := List.cons_ne_nil _ _
  have hsame (c : String) : c ∈ mixedCandidates ↔ c ∈ shuffledCandidates := by
    simp only [mixedCandidates, shuffledCandidates, List.mem_cons, List.not_mem_nil, or_false]
    tauto
  exact ⟨hfirst, hsecond, htrans _ _ _ hfirst hsecond, hnonempty, hgreatest _ hnonempty, hsame,
    hcongr _ _ hsame⟩

end HeaderSearch.Candidate
