/-
# First spellings

Paths are put into a catalog one after another, and a path that is in it already, in this spelling
or in another one, changes nothing. So of the paths that were put in the catalog lists those that
are new where they stand: the order is kept, and each header keeps the spelling in which it came
first.

To look a path up one need not go through the list. An index keeps, beside the list, the set of what
was put in, told apart by components. Its list grows exactly when its set does. That keeps the two
coherent, whatever is put in: the set answers what the list would, and the list never names one path
twice. The list is that of the catalog, and its length is the number of different headers.
-/

import HeaderSearch.Proofs.Catalog.Roots
import HeaderSearch.Proofs.Path.NewSpellings
import Mathlib.Data.Finset.Card

namespace HeaderSearch

/-! ## A list with a set beside it -/

/-- A list of headers, and beside it the set in which they are looked up. The set tells paths apart
by their components, and not by how they are spelled. -/
structure Index where
  /-- The headers, in the order in which they came. -/
  entries : List Path
  /-- The components of all paths that came. -/
  lookup : Finset (List Component)

namespace Index

variable {index : Index} {p q : Path}

/-- An index of nothing. -/
def empty : Index := ⟨[], ∅⟩

/-- Put a path into the set, and list it if it was not there. -/
def push (index : Index) (p : Path) : Index where
  entries := if p.components ∈ index.lookup then index.entries else index.entries ++ [p]
  lookup := insert p.components index.lookup

/-- Is the path in the set? -/
def contains (index : Index) (p : Path) : Bool := p.components ∈ index.lookup

/-- The index of the paths in a list. -/
def ofPaths (paths : List Path) : Index := paths.foldl push empty

/-- List and set agree: each path that is found in the set is listed in one spelling, and nothing
else is found or listed. -/
structure Coherent (index : Index) : Prop where
  distinct : index.entries.Pairwise fun p q => ¬ p.Same q
  contains : ∀ p, index.contains p = true ↔ ∃ e ∈ index.entries, e.Same p

theorem contains_push : (index.push p).contains q = true ↔ p.Same q ∨ index.contains q = true := by
  rw [contains, contains, decide_eq_true_iff, decide_eq_true_iff, push, Finset.mem_insert]
  exact or_congr_left eq_comm

theorem entries_push : (index.push p).entries =
    if index.contains p = true then index.entries else index.entries ++ [p] := by
  simp only [push, contains, decide_eq_true_iff]

/-- A path that is put in leaves list and set in agreement. -/
theorem Coherent.push (h : index.Coherent) (p : Path) : (index.push p).Coherent := by
  by_cases hold : index.contains p = true
  · have hentries : (index.push p).entries = index.entries := by
      rw [entries_push, if_pos hold]
    constructor
    · rw [hentries]
      exact h.distinct
    · intro q
      rw [contains_push, hentries, ← h.contains, or_iff_right_of_imp]
      intro hsame
      obtain ⟨e, he, hlisted⟩ := (h.contains p).1 hold
      exact (h.contains q).2 ⟨e, he, hlisted.trans hsame⟩
  · have hentries : (index.push p).entries = index.entries ++ [p] := by
      rw [entries_push, if_neg hold]
    constructor
    · rw [hentries, List.pairwise_append]
      refine ⟨h.distinct, List.pairwise_singleton _ _, fun e he q hq hsame => ?_⟩
      rw [List.mem_singleton.1 hq] at hsame
      exact hold ((h.contains p).2 ⟨e, he, hsame⟩)
    · intro q
      rw [contains_push, hentries, h.contains]
      simp [or_comm]

/-- So list and set agree after any sequence of paths. -/
theorem coherent_ofPaths (paths : List Path) : (ofPaths paths).Coherent := by
  induction paths using List.reverseRecOn with
  | nil => exact ⟨.nil, fun p => by simp [ofPaths, contains, empty]⟩
  | append_singleton paths p ih =>
      rw [ofPaths, List.foldl_concat]
      exact ih.push p

/-- What was put in is found, under every spelling, and nothing else. -/
theorem contains_ofPaths {paths : List Path} :
    (ofPaths paths).contains p = true ↔ ∃ q ∈ paths, q.Same p := by
  induction paths using List.reverseRecOn with
  | nil => simp [ofPaths, contains, empty]
  | append_singleton paths last ih =>
      rw [ofPaths, List.foldl_concat, contains_push, ← ofPaths, ih]
      simp [or_comm]

/-- The list holds the paths that were new when they were put in. -/
theorem entries_ofPaths (paths : List Path) : (ofPaths paths).entries = newSpellings [] paths := by
  apply eq_newSpellings (fun paths => (ofPaths paths).entries) rfl
  intro paths p
  rw [ofPaths, List.foldl_concat, entries_push, ← ofPaths]
  simp only [contains_ofPaths]

end Index

/-! ## Catalogs -/

namespace Catalog

variable {catalog : Catalog} {pushed : List Path}

/-- The catalog is made of the paths in the list, put in one after another. -/
structure MadeOf (catalog : Catalog) (pushed : List Path) : Prop where
  /-- The entries are the paths that are not the same as an earlier one, in their order. -/
  entries : catalog.entries = newSpellings [] pushed
  /-- No two entries are the same path. -/
  distinct : catalog.entries.Pairwise fun p q => ¬ p.Same q
  /-- What is in the catalog was put in, under one spelling or another. -/
  mem : ∀ p, p ∈ catalog ↔ ∃ q ∈ pushed, q.Same p
  /-- The length of the list is the number of different headers. -/
  length : catalog.entries.length = (pushed.map Path.components).toFinset.card
  /-- List and set of an index that is given the same paths agree with one another, -/
  coherent : (Index.ofPaths pushed).Coherent
  /-- and the index lists what the catalog lists, -/
  listed : (Index.ofPaths pushed).entries = catalog.entries
  /-- and finds what is in it. -/
  found : ∀ p, (Index.ofPaths pushed).contains p = true ↔ p ∈ catalog

theorem entries_ofEntries (roots pushed : List Path) :
    (ofEntries roots pushed).entries = newSpellings [] pushed := by
  apply eq_newSpellings (fun pushed => (ofEntries roots pushed).entries) rfl
  intro paths p
  have hlast : ofEntries roots (paths ++ [p]) = (ofEntries roots paths).insert p :=
    List.foldl_concat ..
  rw [hlast, entries_insert]
  simp only [mem_ofEntries]

/-- There are as many entries as there are different paths among those that they stand for. -/
theorem length_entries_eq_card (h : ∀ p, p ∈ catalog ↔ ∃ q ∈ pushed, q.Same p) :
    catalog.entries.length = (pushed.map Path.components).toFinset.card := by
  have hnodup : (catalog.entries.map Path.components).Nodup := by
    rw [List.Nodup, List.pairwise_map]
    exact catalog.distinct
  have hsame : (catalog.entries.map Path.components).toFinset =
      (pushed.map Path.components).toFinset := by
    ext components
    rw [List.mem_toFinset, List.mem_toFinset, List.mem_map, List.mem_map]
    constructor
    · rintro ⟨e, he, rfl⟩
      exact (h e).1 ⟨e, he, .refl e⟩
    · rintro ⟨q, hq, rfl⟩
      exact (h q).2 ⟨q, hq, .refl q⟩
  rw [← hsame, List.toFinset_card_of_nodup hnodup, List.length_map]

/-- The entries alone tell what a catalog is made of, whatever its roots are and whatever was
skipped. -/
theorem madeOf_of_entries (h : catalog.entries = newSpellings [] pushed) :
    catalog.MadeOf pushed := by
  have hcoherent := Index.coherent_ofPaths pushed
  have hlisted : (Index.ofPaths pushed).entries = catalog.entries := by
    rw [Index.entries_ofPaths, h]
  have hfound (p : Path) : (Index.ofPaths pushed).contains p = true ↔ p ∈ catalog := by
    rw [hcoherent.contains, hlisted]
    rfl
  have hmem (p : Path) : p ∈ catalog ↔ ∃ q ∈ pushed, q.Same p := by
    rw [← hfound, Index.contains_ofPaths]
  exact {
    entries := h
    distinct := hlisted ▸ hcoherent.distinct
    mem := hmem
    length := length_entries_eq_card hmem
    coherent := hcoherent
    listed := hlisted
    found := hfound }

/-- A catalog of paths is made of these paths, and a catalog of roots is made of the headers that
the walks of the roots find, one walk behind the other. -/
theorem madeOf_ofEntries_and_build :
    (∀ roots pushed, (ofEntries roots pushed).MadeOf pushed) ∧
      ∀ disk roots listed,
        (build disk roots listed).MadeOf (roots.flatMap (headersBelow disk listed)) := by
  constructor
  · intro roots pushed
    exact madeOf_of_entries (entries_ofEntries roots pushed)
  · intro disk roots listed
    apply madeOf_of_entries
    rw [entries_build, entries_ofEntries]

/-- Separators at the end and a `.` inside make no difference, and a `.` at the front does. -/
example : (ofEntries [] (["b.h", "s/a.h", "s/./a.h", "b.h/", "./b.h", "s//a.h"].map
    Path.ofString)).entries = ["b.h", "s/a.h", "./b.h"].map Path.ofString := by decide

end Catalog

end HeaderSearch
