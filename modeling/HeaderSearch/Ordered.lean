/-
# Insertion in key order

Sets whose members come out in a fixed order are kept as lists in strictly increasing order of a
key. Inserting a member whose key is present changes nothing, so of several members with one key
the one that was inserted first stays.
-/

namespace HeaderSearch

variable {α κ : Type} [LT κ] [DecidableLT κ]

/-- Insert `a` in key order, unless its key is present. -/
def insertByKey (key : α → κ) (a : α) : List α → List α
  | [] => [a]
  | b :: rest =>
    if key a < key b then a :: b :: rest
    else if key b < key a then b :: insertByKey key a rest
    else b :: rest

/-- The members of a list in key order. They are inserted from the back, so of several members with
one key the last in the list stays. -/
def collectByKey (key : α → κ) (members : List α) : List α := members.foldr (insertByKey key) []

theorem mem_of_mem_insertByKey {key : α → κ} {a c : α} {sorted : List α}
    (h : c ∈ insertByKey key a sorted) : c = a ∨ c ∈ sorted := by
  induction sorted with
  | nil => simpa [insertByKey] using h
  | cons b rest ih =>
    unfold insertByKey at h
    split at h
    · simpa using h
    · split at h
      · rcases List.mem_cons.1 h with rfl | h
        · simp
        · rcases ih h with h | h <;> simp [h]
      · exact Or.inr h

/-- What is in the list stays in it. -/
theorem mem_insertByKey_of_mem {key : α → κ} {a c : α} {sorted : List α} (h : c ∈ sorted) :
    c ∈ insertByKey key a sorted := by
  induction sorted with
  | nil => cases h
  | cons b rest ih =>
    unfold insertByKey
    split
    · exact List.mem_cons_of_mem _ h
    · split
      · rcases List.mem_cons.1 h with rfl | h
        · exact List.mem_cons_self
        · exact List.mem_cons_of_mem _ (ih h)
      · exact h

/-- The inserted member is in the list afterwards, or one that comes neither before nor behind
it. -/
theorem exists_mem_insertByKey (key : α → κ) (a : α) (sorted : List α) :
    ∃ b ∈ insertByKey key a sorted, b = a ∨ ¬ key a < key b ∧ ¬ key b < key a := by
  induction sorted with
  | nil => exact ⟨a, List.mem_cons_self, .inl rfl⟩
  | cons b rest ih =>
    unfold insertByKey
    split
    · exact ⟨a, List.mem_cons_self, .inl rfl⟩
    · next hab =>
      split
      · obtain ⟨c, hc, hsame⟩ := ih
        exact ⟨c, List.mem_cons_of_mem _ hc, hsame⟩
      · next hba => exact ⟨b, List.mem_cons_self, .inr ⟨hab, hba⟩⟩

/-- If members of one key are one member, the inserted member is in the list afterwards. -/
theorem mem_insertByKey {key : α → κ} (antisymm : ∀ {x y : α}, ¬ key x < key y →
    ¬ key y < key x → x = y) {a c : α} {sorted : List α} :
    c ∈ insertByKey key a sorted ↔ c = a ∨ c ∈ sorted := by
  refine ⟨mem_of_mem_insertByKey, fun h => ?_⟩
  rcases h with rfl | h
  · obtain ⟨b, hb, rfl | ⟨hcb, hbc⟩⟩ := exists_mem_insertByKey key c sorted
    · exact hb
    · obtain rfl := antisymm hcb hbc
      exact hb
  · exact mem_insertByKey_of_mem h

/-- Insertion keeps the order strict, given that the order on keys is transitive. -/
theorem pairwise_insertByKey (trans : ∀ {x y z : κ}, x < y → y < z → x < z) {key : α → κ} (a : α)
    {sorted : List α} (h : sorted.Pairwise (fun x y => key x < key y)) :
    (insertByKey key a sorted).Pairwise (fun x y => key x < key y) := by
  induction sorted with
  | nil => simp [insertByKey]
  | cons b rest ih =>
    obtain ⟨hb, hrest⟩ := List.pairwise_cons.1 h
    unfold insertByKey
    split
    · next hab =>
      refine List.pairwise_cons.2 ⟨fun c hc => ?_, h⟩
      rcases List.mem_cons.1 hc with rfl | hc
      · exact hab
      · exact trans hab (hb c hc)
    · split
      · next hba =>
        refine List.pairwise_cons.2 ⟨fun c hc => ?_, ih hrest⟩
        rcases mem_of_mem_insertByKey hc with rfl | hc
        · exact hba
        · exact hb c hc
      · exact h

/-- A member whose key comes behind all others is inserted at the end. -/
theorem insertByKey_eq_append (asymm : ∀ {x y : κ}, x < y → ¬ y < x) {key : α → κ} {a : α}
    {sorted : List α} (h : ∀ b ∈ sorted, key b < key a) :
    insertByKey key a sorted = sorted ++ [a] := by
  induction sorted with
  | nil => rfl
  | cons b rest ih =>
    obtain ⟨hb, hrest⟩ := List.forall_mem_cons.1 h
    rw [insertByKey, if_neg (asymm hb), if_pos hb, ih hrest, List.cons_append]

theorem mem_of_mem_collectByKey {key : α → κ} {c : α} {members : List α}
    (h : c ∈ collectByKey key members) : c ∈ members := by
  induction members with
  | nil => exact h
  | cons a rest ih =>
    rcases mem_of_mem_insertByKey h with rfl | h
    · exact List.mem_cons_self
    · exact List.mem_cons_of_mem _ (ih h)

/-- Every member has one of its key among what is collected. -/
theorem exists_mem_collectByKey (antisymm : ∀ {x y : κ}, ¬ x < y → ¬ y < x → x = y)
    (key : α → κ) {a : α} {members : List α} (h : a ∈ members) :
    ∃ b ∈ collectByKey key members, key b = key a := by
  induction members with
  | nil => cases h
  | cons first rest ih =>
    rcases List.mem_cons.1 h with rfl | h
    · obtain ⟨b, hb, rfl | ⟨hab, hba⟩⟩ :=
        exists_mem_insertByKey key a (collectByKey key rest)
      · exact ⟨b, hb, rfl⟩
      · exact ⟨b, hb, antisymm hba hab⟩
    · obtain ⟨b, hb, hkey⟩ := ih h
      exact ⟨b, mem_insertByKey_of_mem hb, hkey⟩

/-- What is collected is in strict order, so no two members have one key. -/
theorem pairwise_collectByKey (trans : ∀ {x y z : κ}, x < y → y < z → x < z) (key : α → κ)
    (members : List α) : (collectByKey key members).Pairwise (fun x y => key x < key y) := by
  induction members with
  | nil => exact .nil
  | cons a rest ih => exact pairwise_insertByKey trans a ih

end HeaderSearch
