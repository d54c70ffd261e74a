/-
# Trees up to the order of entries

The order in which a directory lists its entries is an accident of the disk. Two trees are the same
up to it if their directories hold the same names, with trees that are again the same up to it.

On proper trees a look-up cannot tell the two apart, as it goes by names, and a sorted walk visits
the same in the same order. An unsorted walk visits the same in some order.
-/

import HeaderSearch.Proofs.Disk.Walked

namespace HeaderSearch

namespace Node

/-- The trees differ only in the order in which directories list their entries. The entries of two
directories are paired by name, and each directory lists its side of the pairs in an order of its
own. -/
inductive Reordered : Node → Node → Prop where
  | file (data : List UInt8) : Reordered (.file data) (.file data)
  | link (target : Path) : Reordered (.link target) (.link target)
  | dir {entries others : List (Name × Node)} (pairs : List (Name × Node × Node))
      (left : entries.Perm (pairs.map fun pair => (pair.1, pair.2.1)))
      (right : others.Perm (pairs.map fun pair => (pair.1, pair.2.2)))
      (nodes : ∀ pair ∈ pairs, Reordered pair.2.1 pair.2.2) :
      Reordered (.dir entries) (.dir others)

variable {node other : Node} {entries others : List (Name × Node)}

theorem Reordered.symm (h : node.Reordered other) : other.Reordered node := by
  induction h with
  | file data => exact .file data
  | link target => exact .link target
  | dir pairs left right _ ih =>
      refine .dir (pairs.map fun pair => (pair.1, pair.2.2, pair.2.1)) ?_ ?_ ?_
      · simpa [Function.comp_def] using right
      · simpa [Function.comp_def] using left
      · intro pair hpair
        obtain ⟨origin, horigin, rfl⟩ := List.mem_map.1 hpair
        exact ih origin horigin

theorem Reordered.type_eq (h : node.Reordered other) : node.type = other.type := by
  cases h <;> rfl

/-- Whatever is among the entries of the one directory is also among those of the other. -/
theorem Reordered.exists_entry (h : (Node.dir entries).Reordered (.dir others)) {name : Name}
    (hmem : (name, node) ∈ entries) : ∃ other, (name, other) ∈ others ∧ node.Reordered other := by
  cases h with
  | dir pairs left right nodes =>
      obtain ⟨⟨name', node', other⟩, hpair, hentry⟩ := List.mem_map.1 (left.mem_iff.1 hmem)
      cases hentry
      exact ⟨other, right.mem_iff.2 (List.mem_map_of_mem hpair), nodes _ hpair⟩

theorem Reordered.map_fst_perm (h : (Node.dir entries).Reordered (.dir others)) :
    (entries.map Prod.fst).Perm (others.map Prod.fst) := by
  cases h with
  | dir pairs left right _ =>
      have hleft : (entries.map Prod.fst).Perm (pairs.map Prod.fst) := by
        simpa [Function.comp_def] using left.map Prod.fst
      have hright : (others.map Prod.fst).Perm (pairs.map Prod.fst) := by
        simpa [Function.comp_def] using right.map Prod.fst
      exact hleft.trans hright.symm

theorem Reordered.proper (h : node.Reordered other) (hproper : node.Proper) : other.Proper := by
  induction h with
  | file data => exact hproper
  | link target => exact hproper
  | @dir entries others pairs left right nodes ih =>
      have hdirs : (Node.dir entries).Reordered (.dir others) := .dir pairs left right nodes
      obtain ⟨distinct, names, hnodes⟩ := proper_dir_iff.1 hproper
      refine proper_dir_iff.2 ⟨(hdirs.map_fst_perm.nodup_iff).1 distinct, ?_, ?_⟩
      · rintro ⟨name, other⟩ hmem
        obtain ⟨node, hentry, -⟩ := hdirs.symm.exists_entry hmem
        exact names (name, node) hentry
      · rintro ⟨name, other⟩ hmem
        obtain ⟨⟨name', node, other'⟩, hpair, hentry⟩ := List.mem_map.1 (right.mem_iff.1 hmem)
        cases hentry
        exact ih _ hpair (hnodes _ (left.mem_iff.2 (List.mem_map_of_mem hpair)))

/-- On proper trees a look-up cannot tell in which order directories list their entries. -/
theorem bisimulation_reordered :
    Node.Bisimulation fun node other => node.Reordered other ∧ node.Proper where
  file := by
    rintro data other ⟨h, -⟩
    cases h
    rfl
  link := by
    rintro target other ⟨h, -⟩
    cases h
    rfl
  dir := by
    rintro entries other ⟨h, hproper⟩
    obtain ⟨others, rfl⟩ : ∃ others, other = .dir others := by
      cases h with
      | @dir _ others => exact ⟨others, rfl⟩
    have hother := h.proper hproper
    refine ⟨others, rfl, fun name => ?_⟩
    cases hfound : entries.lookup name with
    | none =>
        cases hfound' : others.lookup name with
        | none => exact .none
        | some node' =>
            obtain ⟨node, hmem, -⟩ := h.symm.exists_entry (hother.lookup_eq_some_iff.1 hfound')
            rw [hproper.lookup_eq_some_iff.2 hmem] at hfound
            cases hfound
    | some node =>
        have hmem := hproper.lookup_eq_some_iff.1 hfound
        obtain ⟨node', hmem', hrelated⟩ := h.exists_entry hmem
        rw [hother.lookup_eq_some_iff.2 hmem']
        exact .some ⟨hrelated, (proper_dir_iff.1 hproper).2.2 _ hmem⟩

/-! ## Sorting -/

theorem sortedAll_eq_map (entries : List (Name × Node)) :
    sortedAll entries = entries.map fun entry => (entry.1, entry.2.sorted) := by
  induction entries with
  | nil => rfl
  | cons entry rest ih => rw [sortedAll, ih, List.map_cons]

/-- The order of entries is forgotten by sorting. -/
theorem Reordered.sorted_eq (h : node.Reordered other) (hproper : node.Proper) :
    node.sorted = other.sorted := by
  induction h with
  | file data => rfl
  | link target => rfl
  | @dir entries others pairs left right nodes ih =>
      obtain ⟨distinct, -, hnodes⟩ := proper_dir_iff.1 hproper
      have hpairs : ∀ pair ∈ pairs, pair.2.1.sorted = pair.2.2.sorted := fun pair hpair =>
        ih pair hpair (hnodes _ (left.mem_iff.2 (List.mem_map_of_mem hpair)))
      have hperm : (sortedAll entries).Perm (sortedAll others) := by
        rw [sortedAll_eq_map, sortedAll_eq_map]
        refine (left.map _).trans (.trans ?_ (right.map _).symm)
        rw [List.map_map, List.map_map]
        refine .of_eq (List.map_congr_left fun pair hpair => ?_)
        simp [hpairs pair hpair]
      have hkeys : ((sortedAll entries).map Prod.fst).Nodup := by
        simpa [sortedAll_eq_map, Function.comp_def] using distinct
      rw [sorted, sorted, mergeSort_eq_of_perm ?_ ?_ ?_ hperm]
      · intro a b c hab hbc
        simp only [decide_eq_true_eq] at *
        exact List.le_trans hab hbc
      · intro a b
        simpa using List.le_total a.1 b.1
      · intro a ha b hb hab hba
        simp only [decide_eq_true_eq] at *
        exact List.inj_on_of_nodup_map hkeys ha hb (List.le_antisymm hab hba)

/-! ## Walking -/

theorem Below.exists_reordered {parent path : Path} (hbelow : Below parent entries path node)
    (h : (Node.dir entries).Reordered (.dir others)) :
    ∃ other, Below parent others path other ∧ node.Reordered other := by
  induction hbelow generalizing others with
  | entry mem =>
      obtain ⟨other, hother, hrelated⟩ := h.exists_entry mem
      exact ⟨other, .entry hother, hrelated⟩
  | inside mem listable _ ih =>
      obtain ⟨next, hnext, hrelated⟩ := h.exists_entry mem
      obtain ⟨inner, rfl⟩ : ∃ inner, next = .dir inner := by
        cases hrelated with
        | @dir _ inner => exact ⟨inner, rfl⟩
      obtain ⟨other, hbelow, hother⟩ := ih hrelated
      exact ⟨other, .inside hnext listable hbelow, hother⟩

end Node

/-- The disks differ only in the order in which directories list their entries. -/
structure Disk.Reordered (disk other : Disk) : Prop where
  root : disk.root.Reordered other.root
  workingDir : disk.workingDir = other.workingDir

namespace Disk

variable {disk other : Disk} {root path : Path} {node : Node}

theorem Reordered.symm (h : disk.Reordered other) : other.Reordered disk :=
  ⟨h.root.symm, h.workingDir.symm⟩

theorem Reordered.related (h : disk.Reordered other) (hproper : disk.root.Proper) :
    disk.Related (fun node other => node.Reordered other ∧ node.Proper) other :=
  ⟨⟨h.root, hproper⟩, h.workingDir⟩

/-- A walk that reaches a node reaches one of the same type at the same path, whatever the order in
which directories are listed. -/
theorem Reordered.exists_reaches (h : disk.Reordered other) (hproper : disk.root.Proper)
    (hreaches : disk.Reaches root path node) :
    ∃ node', other.Reaches root path node' ∧ node.type = node'.type := by
  have hrelated := h.related hproper
  cases hreaches with
  | @root stopped leads found =>
      have hfind := hrelated.find Node.bisimulation_reordered false root
      rw [found] at hfind
      generalize hfound : other.find false root = found' at hfind
      cases hfind with
      | @reached _ stopped' hstopped =>
          rw [hrelated.pathExists_eq Node.bisimulation_reordered] at leads
          exact ⟨stopped'.node, .root leads hfound, hstopped.node.1.type_eq⟩
  | below found hdir below =>
      have hfind := hrelated.find Node.bisimulation_reordered true root
      rw [found] at hfind
      generalize hfound : other.find true root = found' at hfind
      cases hfind with
      | @reached _ place' hplace =>
          have hnode := hplace.node
          rw [hdir] at hnode
          obtain ⟨others, hdir', -⟩ := Node.bisimulation_reordered.dir hnode
          obtain ⟨node', hbelow, hrelated⟩ := below.exists_reordered (hdir' ▸ hnode.1)
          exact ⟨node', .below hfound hdir' hbelow, hrelated.type_eq⟩

theorem Reordered.sortedWalk_eq (h : disk.Reordered other) (hproper : disk.root.Proper)
    (root : Path) : disk.sortedWalk root = other.sortedWalk root := by
  have hrelated := h.related hproper
  have hcontents : ∀ node node' : Node, node.Reordered node' ∧ node.Proper →
      walkBy.contents Node.sorted root node = walkBy.contents Node.sorted root node' := by
    intro node node' hnode
    rw [walkBy.contents, walkBy.contents, hnode.1.sorted_eq hnode.2]
  have hstopped := hrelated.find Node.bisimulation_reordered false root
  have hplace := hrelated.find Node.bisimulation_reordered true root
  unfold sortedWalk walkBy
  generalize disk.find false root = stopped, other.find false root = stopped',
    disk.find true root = found, other.find true root = found' at hstopped hplace ⊢
  cases hstopped with
  | failed fault => rfl
  | @reached place place' hstopped =>
      obtain ⟨hnode, -⟩ := hstopped
      obtain ⟨node, trail⟩ := place
      obtain ⟨node', trail'⟩ := place'
      dsimp only at hnode ⊢
      cases node with
      | file data =>
          obtain rfl := Node.bisimulation_reordered.file hnode
          rfl
      | dir entries =>
          obtain ⟨others, rfl, -⟩ := Node.bisimulation_reordered.dir hnode
          dsimp only
          rw [hcontents _ _ hnode]
      | link target =>
          obtain rfl := Node.bisimulation_reordered.link hnode
          cases hplace with
          | failed fault => rfl
          | reached hplace =>
              dsimp only
              rw [hcontents _ _ hplace.node]

end Disk

end HeaderSearch
