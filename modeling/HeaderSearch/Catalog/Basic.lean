/-
# Catalogs

A catalog is the list of the headers found below the include roots. A header is listed once, under
the spelling in which it was found first; other spellings of the same path are looked up as the
same header.
-/

import HeaderSearch.Disk.Basic

namespace HeaderSearch

/-- Something below the include roots that could not be indexed: a root that could not be walked, or
a directory below one that could not be listed. -/
inductive Skipped where
  | root (root : Path) (fault : Fault)
  | dir (path : Path) (fault : Fault)
  deriving DecidableEq, Repr

namespace Skipped

def path : Skipped → Path
  | .root p _ => p
  | .dir p _ => p

def message : Skipped → String
  | .root p fault => "include root " ++ p.display ++ " is unavailable: " ++ fault.message
  | .dir p fault =>
    "skipping unreadable entry " ++ p.display ++ " under include root: " ++ fault.message

end Skipped

/-- The headers found below a list of include roots, in the order in which they were found and none
of them in two spellings, and what could not be indexed, in the order in which it was met. -/
structure Catalog where
  roots : List Path
  entries : List Path
  skipped : List Skipped
  distinct : entries.Pairwise fun p q => ¬ p.Same q

namespace Catalog

def empty (roots : List Path) : Catalog := ⟨roots, [], [], .nil⟩

/-- A path is in the catalog if one of the entries is the same path. -/
instance : Membership Path Catalog := ⟨fun catalog p => ∃ e ∈ catalog.entries, e.Same p⟩

instance (p : Path) (catalog : Catalog) : Decidable (p ∈ catalog) :=
  inferInstanceAs (Decidable (∃ e ∈ catalog.entries, e.Same p))

/-- List a header, unless it is listed already. -/
def insert (catalog : Catalog) (p : Path) : Catalog :=
  if h : p ∈ catalog then catalog
  else { catalog with
    entries := catalog.entries ++ [p]
    distinct := List.pairwise_append.2 ⟨catalog.distinct, List.pairwise_singleton _ _,
      fun e he q hq => by
        obtain rfl := List.mem_singleton.1 hq
        exact fun same => h ⟨e, he, same⟩⟩ }

theorem mem_insert {catalog : Catalog} {p q : Path} :
    q ∈ catalog.insert p ↔ p.Same q ∨ q ∈ catalog := by
  unfold insert
  split
  · next h =>
    obtain ⟨e, he, same⟩ := h
    exact ⟨.inr, fun hq => hq.elim (fun hpq => ⟨e, he, same.trans hpq⟩) id⟩
  · constructor
    · rintro ⟨e, he, same⟩
      rcases List.mem_append.1 he with he | he
      · exact .inr ⟨e, he, same⟩
      · obtain rfl := List.mem_singleton.1 he
        exact .inl same
    · rintro (same | ⟨e, he, same⟩)
      · exact ⟨p, List.mem_append_right _ (List.mem_singleton_self p), same⟩
      · exact ⟨e, List.mem_append_left _ he, same⟩

def skip (catalog : Catalog) (skipped : Skipped) : Catalog :=
  { catalog with skipped := catalog.skipped ++ [skipped] }

/-- The catalog of the paths in a list. Nothing is looked up on disk. -/
def ofEntries (roots entries : List Path) : Catalog := entries.foldl insert (empty roots)

end Catalog

end HeaderSearch
