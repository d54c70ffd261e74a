/-
# Which spelling is catalogued

Walks of several roots may come to the same header and write its path in different ways. The
catalog lists it once, as it was written first. One walk writes each path in one way only, if the
disk is proper; so the spelling in the catalog is that of the first root whose walk comes to the
header, and the order in which directories are listed decides only where in the catalog the header
stands.
-/

import HeaderSearch.Proofs.Catalog.Admitted
import HeaderSearch.Proofs.Disk.Reordered

namespace HeaderSearch.Catalog

variable {disk other : Disk} {listed : List String} {catalog : Catalog} {root e p : Path}

theorem nodup_entries (catalog : Catalog) : catalog.entries.Nodup :=
  Path.nodup_of_pairwise_not_same catalog.distinct

/-- Whether a path is catalogued depends on which entries there are, and not on their order. -/
theorem mem_iff_of_entries {catalog' : Catalog}
    (h : ∀ e, e ∈ catalog.entries ↔ e ∈ catalog'.entries) : p ∈ catalog ↔ p ∈ catalog' := by
  constructor
  · rintro ⟨e, he, hsame⟩
    exact ⟨e, (h e).1 he, hsame⟩
  · rintro ⟨e, he, hsame⟩
    exact ⟨e, (h e).2 he, hsame⟩

theorem entries_insert (catalog : Catalog) (p : Path) : (catalog.insert p).entries =
    if p ∈ catalog then catalog.entries else catalog.entries ++ [p] := by
  unfold insert
  split <;> rfl

theorem mem_entries_insert :
    e ∈ (catalog.insert p).entries ↔ e ∈ catalog.entries ∨ (p = e ∧ e ∉ catalog) := by
  rw [entries_insert]
  split
  · next hmem =>
    have hold : ¬ (p = e ∧ e ∉ catalog) := fun ⟨heq, hnew⟩ => hnew (heq ▸ hmem)
    rw [or_iff_left hold]
  · next hnew =>
    have hnew' : (p = e ∧ e ∉ catalog) ↔ e = p :=
      ⟨fun h => h.1.symm, fun heq => ⟨heq.symm, heq ▸ hnew⟩⟩
    rw [List.mem_append, List.mem_singleton, hnew']

/-- If no path is listed in two spellings, those are inserted that are not catalogued yet. -/
theorem mem_entries_foldl_insert {paths : List Path}
    (hone : ∀ p ∈ paths, ∀ q ∈ paths, p.Same q → p = q) :
    e ∈ (paths.foldl insert catalog).entries ↔
      e ∈ catalog.entries ∨ (e ∈ paths ∧ e ∉ catalog) := by
  induction paths generalizing catalog with
  | nil => simp
  | cons first rest ih =>
      obtain ⟨hfirst, hrest⟩ := List.forall_mem_cons.1 hone
      have hlater : ∀ e ∈ rest, first.Same e → first = e := fun e he =>
        hfirst e (List.mem_cons_of_mem _ he)
      rw [List.foldl_cons, ih fun p hp q hq => hrest p hp q (List.mem_cons_of_mem _ hq),
        mem_entries_insert, mem_insert, List.mem_cons]
      constructor
      · rintro ((hmem | ⟨rfl, hnew⟩) | ⟨he, hnew⟩)
        · exact .inl hmem
        · exact .inr ⟨.inl rfl, hnew⟩
        · exact .inr ⟨.inr he, fun hmem => hnew (.inr hmem)⟩
      · rintro (hmem | ⟨rfl | he, hnew⟩)
        · exact .inl (.inl hmem)
        · exact .inl (.inr ⟨rfl, hnew⟩)
        · -- Either the first path is this one, or it does not stand in its way.
          by_cases hsame : first.Same e
          · exact .inl (.inr ⟨hlater e he hsame, hnew⟩)
          · exact .inr ⟨he, fun hmem => hmem.elim hsame hnew⟩

/-- To the entries a root adds the headers of its walk, one after another; what could not be indexed
is noted beside them. -/
theorem entries_addRoot {catalog' : Catalog} (h : catalog.entries = catalog'.entries) :
    (addRoot disk listed catalog root).entries =
      ((headersBelow disk listed root).foldl insert catalog').entries := by
  unfold addRoot headersBelow
  induction disk.walk root generalizing catalog catalog' with
  | nil => exact h
  | cons visit rest ih =>
      rw [List.foldl_cons]
      cases visit with
      | rootFailure fault => exact ih h
      | dirFailure path fault => exact ih h
      | entry path type =>
          unfold addVisit
          rw [show (Visit.entry path type).skipped? root = none from rfl]
          cases hvisit : (Visit.entry path type).header? disk listed with
          | none =>
              rw [List.filterMap_cons_none hvisit]
              exact ih h
          | some q =>
              rw [List.filterMap_cons_some hvisit, List.foldl_cons]
              apply ih
              have hmem : q ∈ catalog ↔ q ∈ catalog' := mem_iff_of_entries fun e => by rw [h]
              simp only [entries_insert, hmem, h]

/-- On a proper disk the walk of a root writes no header in two ways. -/
theorem eq_of_same_of_mem_headersBelow (hproper : disk.root.Proper)
    (he : e ∈ headersBelow disk listed root) (hp : p ∈ headersBelow disk listed root)
    (hsame : e.Same p) : e = p := by
  obtain ⟨_, hreaches, -⟩ := mem_headersBelow_iff_reaches.1 he
  obtain ⟨_, hreaches', -⟩ := mem_headersBelow_iff_reaches.1 hp
  exact hreaches.eq_of_same hproper hreaches' hsame

/-- So a catalog of one root lists the headers of its walk as they were written. -/
theorem mem_entries_build_singleton (hproper : disk.root.Proper) :
    e ∈ (build disk [root] listed).entries ↔ e ∈ headersBelow disk listed root := by
  have hone : ∀ p ∈ headersBelow disk listed root, ∀ q ∈ headersBelow disk listed root,
      p.Same q → p = q := fun p hp q hq => eq_of_same_of_mem_headersBelow hproper hp hq
  have hnone : e ∉ (empty [root]).entries := List.not_mem_nil
  rw [build, List.foldl_cons, List.foldl_nil, entries_addRoot rfl, mem_entries_foldl_insert hone,
    or_iff_right hnone, and_iff_left (notMem_empty [root] e)]

/-- A walk admits the same headers whatever the order in which directories are listed. -/
theorem mem_headersBelow_of_reordered (h : disk.Reordered other) (hproper : disk.root.Proper)
    (hp : p ∈ headersBelow disk listed root) : p ∈ headersBelow other listed root := by
  rw [mem_headersBelow_iff_reaches] at hp ⊢
  obtain ⟨node, hreaches, hfile, hname⟩ := hp
  obtain ⟨node', hreaches', htype⟩ := h.exists_reaches hproper hreaches
  rw [(h.related hproper).isFile_eq Node.bisimulation_reordered, htype] at hfile
  exact ⟨node', hreaches', hfile, hname⟩

theorem mem_headersBelow_iff_of_reordered (h : disk.Reordered other) (hproper : disk.root.Proper) :
    p ∈ headersBelow disk listed root ↔ p ∈ headersBelow other listed root :=
  ⟨mem_headersBelow_of_reordered h hproper,
    mem_headersBelow_of_reordered h.symm (h.root.proper hproper)⟩

/-- Catalogs with the same entries have the same entries again once the same roots are taken in,
each from its own disk. -/
theorem mem_entries_foldl_addRoot_iff (h : disk.Reordered other) (hproper : disk.root.Proper)
    {roots : List Path} {catalog' : Catalog}
    (hentries : ∀ e, e ∈ catalog.entries ↔ e ∈ catalog'.entries) (e : Path) :
    e ∈ (roots.foldl (addRoot disk listed) catalog).entries ↔
      e ∈ (roots.foldl (addRoot other listed) catalog').entries := by
  have hother := h.root.proper hproper
  induction roots generalizing catalog catalog' with
  | nil => exact hentries e
  | cons root rest ih =>
      rw [List.foldl_cons, List.foldl_cons]
      apply ih
      intro p
      rw [entries_addRoot rfl, entries_addRoot rfl,
        mem_entries_foldl_insert fun p hp q hq => eq_of_same_of_mem_headersBelow hproper hp hq,
        mem_entries_foldl_insert fun p hp q hq => eq_of_same_of_mem_headersBelow hother hp hq,
        hentries, mem_iff_of_entries hentries, mem_headersBelow_iff_of_reordered h hproper]

/-- The same headers are catalogued, with the same spellings, whatever the order in which
directories are listed. -/
theorem entries_build_perm (h : disk.Reordered other) (hproper : disk.root.Proper)
    (roots : List Path) (listed : List String) :
    (build disk roots listed).entries.Perm (build other roots listed).entries := by
  rw [List.perm_ext_iff_of_nodup (nodup_entries _) (nodup_entries _)]
  exact mem_entries_foldl_addRoot_iff h hproper fun _ => Iff.rfl

end HeaderSearch.Catalog
