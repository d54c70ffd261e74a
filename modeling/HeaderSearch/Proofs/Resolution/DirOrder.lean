/-
# The order of include directories

The directories that are handed to the package system are collected in the order of paths. That
order compares component by component: at the first place where two paths differ, the root comes
before `.`, this before `..`, and all of them before names, which are compared byte by byte; and a
path comes before what lies below it. Two paths are never both before one another, and neither is
before the other exactly if they are spellings of one path. So a list in strict order cannot name
one directory twice, however it is spelled.

Collecting directories keeps the order and loses none of them: of each directory one spelling stays.
-/

import HeaderSearch.Packages
import Mathlib.Data.List.Lex

namespace HeaderSearch

/-- Lexicographic order looks at the members of two lists only through their order, so it is kept by
every renaming of the members that keeps them apart. -/
theorem lex_map_iff {α β : Type} {f : α → β} {r : β → β → Prop} {s : α → α → Prop}
    (hf : Function.Injective f) (hr : ∀ a b, r (f a) (f b) ↔ s a b) {front back : List α} :
    List.Lex r (front.map f) (back.map f) ↔ List.Lex s front back := by
  induction front generalizing back with
  | nil =>
      cases back with
      | nil => exact iff_of_false List.not_lex_nil List.not_lex_nil
      | cons b back => exact iff_of_true .nil .nil
  | cons a front ih =>
      cases back with
      | nil => exact iff_of_false List.not_lex_nil List.not_lex_nil
      | cons b back =>
          rw [List.map_cons, List.map_cons, List.cons_lex_cons_iff, List.cons_lex_cons_iff, ih, hr,
            hf.eq_iff]

namespace Component

/-- The kinds of components in their order. -/
def rank : Component → Nat
  | .root => 0
  | .here => 1
  | .up => 2
  | .name _ => 3

/-- The order of components: by their kind, and names byte by byte. -/
def Before : Component → Component → Prop
  | .name bytes, .name bytes' => bytes < bytes'
  | first, second => first.rank < second.rank

theorem key_lt_key_iff (c d : Component) : c.key < d.key ↔ c.Before d := by
  cases c with
  | name bytes =>
      cases d with
      | name bytes' =>
          rw [key, key, List.cons_lt_cons_iff, or_iff_right (Nat.lt_irrefl 3), and_iff_right rfl]
          exact lex_map_iff (fun _ _ => UInt8.toNat_inj.1) fun _ _ => UInt8.lt_iff_toNat_lt.symm
      | _ => simp [key, Before, rank, List.cons_lt_cons_iff]
  | _ => cases d <;> simp [key, Before, rank, List.cons_lt_cons_iff]

end Component

namespace Path

/-- The order of paths, component by component. -/
def Before (p q : Path) : Prop := List.Lex Component.Before p.components q.components

theorem key_lt_key_iff {p q : Path} : p.key < q.key ↔ p.Before q :=
  lex_map_iff (fun _ _ => Component.eq_of_key_eq) Component.key_lt_key_iff

instance (p q : Path) : Decidable (p.Before q) := decidable_of_iff _ key_lt_key_iff

/-- The directory `a` comes before the file `a.b` and what is below `a` does too, although `.` is
the smaller byte; and `..` comes before every name. -/
example : (ofString "a").Before (ofString "a/b") ∧ (ofString "a/b").Before (ofString "a.b") ∧
    (ofString "..").Before (ofString "!") := by decide

/-- A path does not come before itself, in whatever spelling. -/
theorem Before.not_same {p q : Path} (h : p.Before q) : ¬ p.Same q := by
  intro hsame
  rw [← key_lt_key_iff, key_eq_key_iff.2 hsame] at h
  exact List.lt_irrefl _ h

end Path

open HeaderSearch.Path

namespace Resolution

variable {resolution : Resolution}

theorem pairwise_before_includeDirs : resolution.includeDirs.Pairwise Path.Before := by
  unfold includeDirs
  exact (pairwise_collectByKey List.lt_trans Path.key _).imp key_lt_key_iff.1

/-- Up to spelling, the include directories are those of the names found. -/
theorem exists_mem_includeDirs_iff {path : Path} :
    (∃ dir ∈ resolution.includeDirs, dir.Same path) ↔
      ∃ name hit, (name, hit) ∈ resolution.found ∧
        ∃ dir, hit.path.includeDir? (ofString name) = some dir ∧ dir.Same path := by
  constructor
  · rintro ⟨dir, hdir, hsame⟩
    obtain ⟨⟨name, hit⟩, hfound, hinclude⟩ :=
      List.mem_filterMap.1 (mem_of_mem_collectByKey hdir)
    exact ⟨name, hit, hfound, dir, hinclude, hsame⟩
  · rintro ⟨name, hit, hfound, dir, hinclude, hsame⟩
    have hmem : dir ∈ resolution.found.filterMap fun entry =>
        entry.2.path.includeDir? (ofString entry.1) :=
      List.mem_filterMap.2 ⟨(name, hit), hfound, hinclude⟩
    obtain ⟨kept, hkept, hkey⟩ := exists_mem_collectByKey
      (fun hxy hyx => List.le_antisymm (List.not_lt.1 hyx) (List.not_lt.1 hxy)) Path.key hmem
    exact ⟨kept, hkept, (key_eq_key_iff.1 hkey).trans hsame⟩

/-- Whatever the package system, it is asked for one flag after another for a list of directories
that is in strict path order, so that it does not name one directory in two spellings. Up to
spelling these directories are exactly the include directories of the names found. -/
theorem flags_of_dirs_in_path_order (resolution : Resolution) :
    ∃ dirs : List Path,
      (∀ packages : PackageSystem, resolution.flags packages = dirs.map packages.flag) ∧
      dirs.Pairwise Path.Before ∧
      dirs.Pairwise (fun p q => ¬ p.Same q) ∧
      ∀ path, (∃ dir ∈ dirs, dir.Same path) ↔
        ∃ name hit, (name, hit) ∈ resolution.found ∧
          ∃ dir, hit.path.includeDir? (ofString name) = some dir ∧ dir.Same path := by
  refine ⟨resolution.includeDirs, fun _ => rfl, ?_, ?_, ?_⟩
  · exact pairwise_before_includeDirs
  · exact pairwise_before_includeDirs.imp Before.not_same
  · intro path
    exact exists_mem_includeDirs_iff

end Resolution

end HeaderSearch
