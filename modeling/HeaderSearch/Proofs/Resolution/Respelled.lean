/-
# Answers below roots under two spellings

The first two stages do not see how a root is spelled: the first builds cleaned paths and looks them
up as paths, the second does not ask the catalog. The last stage reads texts. A name that reaches
into the text of a root may be the end of a header under one spelling and not under another; a name
that does not is the end of the same headers under both. But which of them is the best is a matter
of length and of the alphabet, and there the texts of different roots compete. Only if those that
matter are listed for one root does its text stand in front of each, and cancel.
-/

import HeaderSearch.Proofs.Catalog.Respelled
import HeaderSearch.Proofs.Resolution.Ranking

namespace HeaderSearch

open HeaderSearch.Path

/-! ## Texts of candidates -/

namespace Candidate

variable {keyword : List Char} {c : Char}

theorem prefix_append_cons_iff (hc : c ∉ keyword) {front back : List Char} :
    keyword <+: front ++ c :: back ↔ keyword <+: front := by
  refine ⟨fun h => ?_, fun h => h.trans (List.prefix_append _ _)⟩
  rcases List.prefix_or_prefix_of_prefix h (List.prefix_append front _) with hin | ⟨tail, rfl⟩
  · exact hin
  · cases tail with
    | nil => simp
    | cons first rest =>
        obtain ⟨rfl, -⟩ := List.cons_prefix_cons.1 ((List.prefix_append_right_inj front).1 h)
        simp at hc

/-- What does not contain a character occurs in a text with this character only before it or behind
it. -/
theorem occursIn_append_cons (hc : c ∉ keyword) (front back : List Char) :
    occursIn keyword (front ++ c :: back) = (occursIn keyword front || occursIn keyword back) := by
  have hprefix (front : List Char) :
      keyword.isPrefixOf (front ++ c :: back) = keyword.isPrefixOf front := by
    rw [Bool.eq_iff_iff, List.isPrefixOf_iff_prefix, List.isPrefixOf_iff_prefix,
      prefix_append_cons_iff hc]
  induction front with
  | nil =>
      have hfirst : keyword.isPrefixOf (c :: back) = keyword.isPrefixOf [] := hprefix []
      change (keyword.isPrefixOf (c :: back) || occursIn keyword back) =
        (keyword.isEmpty || occursIn keyword back)
      rw [hfirst]
      cases keyword <;> rfl
  | cons first front ih =>
      rw [List.cons_append, occursIn, occursIn, ih, ← List.cons_append, hprefix, Bool.or_assoc]

/-- A keyword without a separator occurs in what is shown of a text if it occurs in what is shown of
a segment. -/
theorem occursIn_intercalate_iff (hslash : '/' ∉ keyword) (hne : keyword ≠ [])
    (segments : List Name) :
    occursIn keyword (Utf8.lossyChars ([slash].intercalate segments)) = true ↔
      ∃ segment ∈ segments, occursIn keyword (Utf8.lossyChars segment) = true := by
  induction segments with
  | nil =>
      cases keyword with
      | nil => exact absurd rfl hne
      | cons first rest => simp [Utf8.lossyChars, Utf8.pieces, Utf8.piecesFrom, occursIn]
  | cons first rest ih =>
      cases rest with
      | nil => simp
      | cons second rest =>
          have hcut : Utf8.lossyChars ([slash].intercalate (first :: second :: rest)) =
              Utf8.lossyChars first ++
                '/' :: Utf8.lossyChars ([slash].intercalate (second :: rest)) := by
            rw [List.intercalate_cons_cons, List.append_assoc, List.singleton_append,
              Utf8.lossyChars_append_ascii first (by decide)]
            rfl
          rw [hcut, occursIn_append_cons hslash, Bool.or_eq_true, ih]
          simp

/-- A path has the mark of a C++ header exactly if a name in it has. -/
theorem hasKeyword_display_iff {p : Path} : hasKeyword cxxKeyword p.display = true ↔
    ∃ name, .name name ∈ p.components ∧
      occursIn cxxKeyword.toList (Utf8.lossyChars name) = true := by
  have hjoined : [slash].intercalate p.segments = p.bytes := List.intercalate_splitOn slash
  rw [hasKeyword, display, Utf8.toList_lossy, ← hjoined,
    occursIn_intercalate_iff (by decide) (by decide)]
  exact exists_segment_iff_exists_name (by decide) (by decide) (by decide)

end Candidate

theorem Path.Same.hasKeyword_eq {p q : Path} (h : p.Same q) :
    Candidate.hasKeyword Candidate.cxxKeyword p.display =
      Candidate.hasKeyword Candidate.cxxKeyword q.display := by
  rw [Bool.eq_iff_iff, Candidate.hasKeyword_display_iff, Candidate.hasKeyword_display_iff,
    show p.components = q.components from h]

/-! ## Headers under two spellings -/

section

variable {disk : Disk} {listed : List String} {roots roots' : List Path} {name : String}
  {root root' e e' f f' : Path}

theorem Path.Parallel.endsWithName_eq (h : root.Parallel root' e e')
    (hname : ¬ root.Meets ('/' :: name.toList)) (hname' : ¬ root'.Meets ('/' :: name.toList)) :
    SearchSpace.endsWithName name e.display = SearchSpace.endsWithName name e'.display := by
  obtain ⟨hspell⟩ := h
  rw [Bool.eq_iff_iff, SearchSpace.endsWithName, SearchSpace.endsWithName,
    List.isSuffixOf_iff_suffix, List.isSuffixOf_iff_suffix, display, display, Utf8.toList_lossy,
    Utf8.toList_lossy, suffix_descend_iff hspell hname, suffix_descend_iff hspell hname']

/-- A name that meets no root is the end of a header under both spellings or under neither. -/
theorem Catalog.Paired.endsWithName_eq (h : Catalog.Paired disk listed roots roots' e e')
    (hname : ∀ root ∈ roots, ¬ root.Meets ('/' :: name.toList))
    (hname' : ∀ root ∈ roots', ¬ root.Meets ('/' :: name.toList)) :
    SearchSpace.endsWithName name e.display = SearchSpace.endsWithName name e'.display := by
  obtain ⟨⟨root, root'⟩, hpair, hparallel, -⟩ := h
  obtain ⟨hroot, hroot'⟩ := List.of_mem_zip hpair
  exact hparallel.endsWithName_eq (hname root hroot) (hname' root' hroot')

/-- Of two headers below a root the same is the better under both spellings of the root. -/
theorem Path.Parallel.rank_eq (he : root.Parallel root' e e')
    (hf : root.Parallel root' f f') (hsame : e.Same e') (hsame' : f.Same f') :
    Candidate.rank Candidate.cxxKeyword f.display e.display =
      Candidate.rank Candidate.cxxKeyword f'.display e'.display := by
  have hshown {name : Name} {names : List Name}
      (hnames : ∀ n ∈ name :: names, (Component.name n).Spellable) (p : Path) :
      (p.descend (name :: names)).display =
        String.ofList p.shownFront ++ String.ofList (shownBelow (name :: names)) := by
    rw [display, Utf8.lossy, lossyChars_descend hnames, String.ofList_append]
  have hmark := hsame.hasKeyword_eq
  have hmark' := hsame'.hasKeyword_eq
  obtain ⟨henames⟩ := he
  obtain ⟨hfnames⟩ := hf
  rw [hshown henames, hshown henames] at hmark ⊢
  rw [hshown hfnames, hshown hfnames] at hmark' ⊢
  exact Candidate.rank_append hmark' hmark

end

/-! ## The first two stages -/

theorem Path.Same.cleanJoin_eq {p q : Path} (h : p.Same q) (rest : Path) :
    p.cleanJoin rest = q.cleanJoin rest := by
  apply cleanJoin_eq_of_components_eq
  rw [cleanJoinComponents, cleanJoinComponents, show p.components = q.components from h]

theorem map_cleanJoin_eq_of_forall₂ {roots roots' : List Path} (h : List.Forall₂ Same roots roots')
    (rest : Path) : roots.map (·.cleanJoin rest) = roots'.map (·.cleanJoin rest) := by
  induction h with
  | nil => rfl
  | cons hsame _ ih => rw [List.map_cons, List.map_cons, ih, hsame.cleanJoin_eq]

namespace SearchSpace

variable {disk : Disk} {listed : List String} {roots roots' : List Path} {places : LocalDirs}
  {name : String} {root root' e e' : Path} {space : SearchSpace}

/-- The search below the roots of a list. -/
def ofRoots (disk : Disk) (listed : List String) (places : LocalDirs) (roots : List Path) :
    SearchSpace :=
  ⟨.build disk roots listed, places, disk⟩

/-- The system stage does not see how roots are spelled. -/
theorem systemPath?_eq_of_respelled (h : Catalog.Respelled disk listed roots roots')
    (hproper : disk.root.Proper) (places : LocalDirs) (name : String) :
    (ofRoots disk listed places roots).systemPath? name =
      (ofRoots disk listed places roots').systemPath? name := by
  have hmem (p : Path) : p ∈ Catalog.build disk roots listed ↔
      p ∈ Catalog.build disk roots' listed :=
    Catalog.mem_iff_of_forall₂ ((h.entries hproper).imp fun _ _ hpaired => hpaired.same h.respells)
      (.refl p)
  have hjoined := map_cleanJoin_eq_of_forall₂ (h.respells.imp fun _ _ hrespells => hrespells.same)
    (ofString name)
  rw [systemPath?, systemPath?, ofRoots, ofRoots, Catalog.roots_build, Catalog.roots_build, hjoined,
    ← List.head?_filter, ← List.head?_filter]
  congr 1
  exact List.filter_congr fun path _ => decide_eq_decide.2 (hmem path)

/-! ## The last stage -/

/-- The last stage answers with the best of the texts that end with the name. -/
theorem fuzzyPath?_eq_some_iff {path : Path} : space.fuzzyPath? name = some path ↔
    ∃ e ∈ space.catalog.entries, endsWithName name e.display = true ∧ ofString e.display = path ∧
      ∀ other ∈ space.catalog.entries, endsWithName name other.display = true →
        (Candidate.rank Candidate.cxxKeyword other.display e.display).isLE := by
  simp only [fuzzyPath?, Option.map_eq_some_iff, Candidate.best?_eq_some_iff,
    mem_fuzzyCandidates_iff]
  constructor
  · rintro ⟨_, ⟨⟨e, he, hends, rfl⟩, hbest⟩, rfl⟩
    exact ⟨e, he, hends, rfl, fun other hother hends => hbest _ ⟨other, hother, hends, rfl⟩⟩
  · rintro ⟨e, he, hends, rfl, hbest⟩
    refine ⟨_, ⟨⟨e, he, hends, rfl⟩, ?_⟩, rfl⟩
    rintro _ ⟨other, hother, hends, rfl⟩
    exact hbest other hother hends

/-- The root leads among the headers for a name: what ends with the name is listed for this root,
except for headers without the mark of a C++ header in case that there is one with it. -/
def Leads (disk : Disk) (listed : List String) (before : List Path) (root : Path)
    (headers : List Path) (name : String) : Prop :=
  ∀ e ∈ headers, endsWithName name e.display = true →
    e ∈ Catalog.listedFor disk listed before root ∨
      Candidate.hasKeyword Candidate.cxxKeyword e.display = false ∧
        ∃ marked ∈ headers, endsWithName name marked.display = true ∧
          Candidate.hasKeyword Candidate.cxxKeyword marked.display = true

instance (disk : Disk) (listed : List String) (before : List Path) (root : Path)
    (headers : List Path) (name : String) :
    Decidable (Leads disk listed before root headers name) :=
  List.decidableBAll _ _

/-- Among the headers of a catalog one root leads for the name. -/
def OneRootLeads (disk : Disk) (listed : List String) (roots : List Path) (name : String) : Prop :=
  ∃ before root after, roots = before ++ root :: after ∧
    Leads disk listed before root (Catalog.build disk roots listed).entries name

/-- The best header is listed for the root that leads, and so are all that have the mark or lack it
as the best one does. -/
theorem Leads.mem_listedFor {before headers : List Path} {f : Path}
    (h : Leads disk listed before root headers name)
    (hbest : ∀ other ∈ headers, endsWithName name other.display = true →
      (Candidate.rank Candidate.cxxKeyword other.display e.display).isLE)
    (hf : f ∈ headers) (hends : endsWithName name f.display = true)
    (hmark : Candidate.hasKeyword Candidate.cxxKeyword f.display =
      Candidate.hasKeyword Candidate.cxxKeyword e.display) :
    f ∈ Catalog.listedFor disk listed before root := by
  rcases h f hf hends with hin | ⟨hbare, marked, hmarked, hmends, hhas⟩
  · exact hin
  · have hebest := Candidate.hasKeyword_of_isLE (hbest marked hmarked hmends) hhas
    rw [hbare, hebest] at hmark
    cases hmark

/-- If one root leads, the last stage chooses the same header under both spellings. -/
theorem exists_same_of_oneRootLeads (h : Catalog.Respelled disk listed roots roots')
    (hproper : disk.root.Proper) (hname : ∀ root ∈ roots, ¬ root.Meets ('/' :: name.toList))
    (hname' : ∀ root ∈ roots', ¬ root.Meets ('/' :: name.toList))
    (hleads : OneRootLeads disk listed roots name) {path : Path}
    (hpath : (ofRoots disk listed places roots).fuzzyPath? name = some path) :
    ∃ path', (ofRoots disk listed places roots').fuzzyPath? name = some path' ∧
      path.Same path' := by
  obtain ⟨e, he, hends, rfl, hbest⟩ := fuzzyPath?_eq_some_iff.1 hpath
  have hentries := h.entries hproper
  have hrespells := h.respells
  obtain ⟨before, root, after, rfl, hleading⟩ := hleads
  obtain ⟨before', rest', rfl, hbefore, hrest⟩ := h.split
  obtain ⟨root', after', rfl, hroot⟩ := hrest.first
  have hother {f : Path} (hf : f ∈ Catalog.listedFor disk listed before root) :
      ∃ f' ∈ (Catalog.build disk (before' ++ root' :: after') listed).entries,
        root.Parallel root' f f' ∧ f.Same f' := by
    obtain ⟨f', hf', hboth⟩ := exists_mem_of_forall₂ (hbefore.listedFor hroot hproper).flip hf
    exact ⟨f', Catalog.listedFor_subset _ _ _ _ _ hf', hboth⟩
  obtain ⟨e', he', hparallel, hsame⟩ :=
    hother (hleading.mem_listedFor hbest he hends rfl)
  refine ⟨ofString e'.display, fuzzyPath?_eq_some_iff.2 ⟨e', he', ?_, rfl, ?_⟩,
    hsame.ofString_display⟩
  · rw [← hparallel.endsWithName_eq (hname root (by simp)) (hname' root' (by simp)), hends]
  · intro f' hf' hfends'
    obtain ⟨f, hf, hpaired⟩ := exists_mem_of_forall₂ hentries hf'
    have hsame' := hpaired.same hrespells
    have hfends : endsWithName name f.display = true := by
      rw [hpaired.endsWithName_eq hname hname', hfends']
    have hle := hbest f hf hfends
    by_cases hmark : Candidate.hasKeyword Candidate.cxxKeyword f.display =
        Candidate.hasKeyword Candidate.cxxKeyword e.display
    · -- Both are listed for the root that leads, whose text cancels.
      obtain ⟨g', hg', hparallel', hsameg⟩ :=
        hother (hleading.mem_listedFor hbest hf hfends hmark)
      obtain rfl := Catalog.eq_of_same_of_mem_entries hg' hf' (hsameg.symm.trans hsame')
      rwa [← hparallel.rank_eq hparallel' hsame hsame']
    · -- The mark decides, and that is no matter of spelling.
      exact Candidate.isLE_of_hasKeyword_ne hle hmark hsame'.hasKeyword_eq hsame.hasKeyword_eq

/-- The last stage answers under both spellings or under neither. -/
theorem rel_fuzzyPath?_of_respelled (h : Catalog.Respelled disk listed roots roots')
    (hproper : disk.root.Proper) (hname : ∀ root ∈ roots, ¬ root.Meets ('/' :: name.toList))
    (hname' : ∀ root ∈ roots', ¬ root.Meets ('/' :: name.toList)) :
    Option.Rel (fun path path' => OneRootLeads disk listed roots name → path.Same path')
      ((ofRoots disk listed places roots).fuzzyPath? name)
      ((ofRoots disk listed places roots').fuzzyPath? name) := by
  have hentries := h.entries hproper
  cases hleft : (ofRoots disk listed places roots).fuzzyPath? name with
  | none =>
      rw [fuzzyPath?_eq_none_iff] at hleft
      have hright : (ofRoots disk listed places roots').fuzzyPath? name = none := by
        refine fuzzyPath?_eq_none_iff.2 fun e' he' => ?_
        obtain ⟨e, he, hpaired⟩ := exists_mem_of_forall₂ hentries he'
        rw [← hpaired.endsWithName_eq hname hname', hleft e he]
      rw [hright]
      exact .none
  | some path =>
      cases hright : (ofRoots disk listed places roots').fuzzyPath? name with
      | some path' =>
          refine .some fun hleads => ?_
          obtain ⟨other, hother, hsame⟩ :=
            exists_same_of_oneRootLeads h hproper hname hname' hleads hleft
          obtain rfl := Option.some.inj (hright.symm.trans hother)
          exact hsame
      | none =>
          obtain ⟨e, he, hends, -, -⟩ := fuzzyPath?_eq_some_iff.1 hleft
          obtain ⟨e', he', hpaired⟩ := exists_mem_of_forall₂ hentries.flip he
          have hends' := fuzzyPath?_eq_none_iff.1 hright e' he'
          rw [← Catalog.Paired.endsWithName_eq hpaired hname hname', hends] at hends'
          cases hends'

/-! ## Answers -/

/-- Two answers from the same stage. The first two stages give the same path, in the same spelling.
The last one gives the same path if one root leads. -/
inductive AnswersAlike (leads : Prop) : Hit → Hit → Prop where
  | system (path : Path) : AnswersAlike leads ⟨path, .system⟩ ⟨path, .system⟩
  | localDir (path : Path) : AnswersAlike leads ⟨path, .localDir⟩ ⟨path, .localDir⟩
  | fuzzy {path path' : Path} (same : leads → path.Same path') :
      AnswersAlike leads ⟨path, .fuzzy⟩ ⟨path', .fuzzy⟩

theorem AnswersAlike.rel_map_fuzzy {leads : Prop} {path? path?' : Option Path}
    (h : Option.Rel (fun path path' => leads → path.Same path') path? path?') :
    Option.Rel (AnswersAlike leads) (path?.map (⟨·, .fuzzy⟩)) (path?'.map (⟨·, .fuzzy⟩)) := by
  cases h with
  | none => exact .none
  | some same => exact .some (.fuzzy same)

/-- A name is answered from the same stage under both spellings, or under neither. -/
theorem rel_locate?_of_respelled (h : Catalog.Respelled disk listed roots roots')
    (hproper : disk.root.Proper) (hname : ∀ root ∈ roots, ¬ root.Meets ('/' :: name.toList))
    (hname' : ∀ root ∈ roots', ¬ root.Meets ('/' :: name.toList)) :
    Option.Rel (AnswersAlike (OneRootLeads disk listed roots name))
      ((ofRoots disk listed places roots).locate? name)
      ((ofRoots disk listed places roots').locate? name) := by
  have hsystem := systemPath?_eq_of_respelled h hproper places name
  have hlocal : (ofRoots disk listed places roots).localPath? name =
      (ofRoots disk listed places roots').localPath? name := rfl
  rw [locate?, locate?, ← hsystem, ← hlocal]
  cases (ofRoots disk listed places roots).systemPath? name with
  | some path => exact .some (.system path)
  | none =>
      cases (ofRoots disk listed places roots).localPath? name with
      | some path => exact .some (.localDir path)
      | none =>
          exact AnswersAlike.rel_map_fuzzy (rel_fuzzyPath?_of_respelled h hproper hname hname')

theorem isNone_eq_of_rel {α β : Type} {R : α → β → Prop} {found : Option α} {found' : Option β}
    (h : Option.Rel R found found') : found.isNone = found'.isNone := by
  cases h <;> rfl

theorem rel_map_of_rel {α β : Type} (R : String → α → β → Prop) {found : Option α}
    {found' : Option β} (h : Option.Rel (R name) found found') :
    Option.Rel (fun answer answer' => answer.1 = answer'.1 ∧ R answer.1 answer.2 answer'.2)
      (found.map (name, ·)) (found'.map (name, ·)) := by
  cases h with
  | none => exact .none
  | some hR => exact .some ⟨rfl, hR⟩

/-- Below roots that are spelled differently the same headers are listed in the same order, the same
names are found, and each of them in the same stage. Where that is not the last one, the answers are
equal. The answers of the last stage are the same path if one root leads. -/
theorem resolve_of_respelled (hproper : disk.root.Proper)
    (h : Catalog.Respelled disk listed roots roots') (places : LocalDirs) (names : IncludeNames)
    (hnames : ∀ name ∈ names.toList, ∀ root ∈ roots ++ roots',
      ¬ root.Meets ('/' :: name.toList)) :
    List.Forall₂ Same (Catalog.build disk roots listed).entries
      (Catalog.build disk roots' listed).entries ∧
    ((ofRoots disk listed places roots).resolve names).notFound =
      ((ofRoots disk listed places roots').resolve names).notFound ∧
    List.Forall₂ (fun answer answer' => answer.1 = answer'.1 ∧
        AnswersAlike (OneRootLeads disk listed roots answer.1) answer.2 answer'.2)
      ((ofRoots disk listed places roots).resolve names).found
      ((ofRoots disk listed places roots').resolve names).found := by
  have hlocated : ∀ name ∈ names.toList,
      Option.Rel (AnswersAlike (OneRootLeads disk listed roots name))
        ((ofRoots disk listed places roots).locate? name)
        ((ofRoots disk listed places roots').locate? name) := by
    intro name hname
    obtain ⟨hroots, hroots'⟩ := List.forall_mem_append.1 (hnames name hname)
    exact rel_locate?_of_respelled h hproper hroots hroots'
  refine ⟨(h.entries hproper).imp fun e e' hpaired => hpaired.same h.respells, ?_, ?_⟩
  · exact List.filter_congr fun name hname => isNone_eq_of_rel (hlocated name hname)
  · exact forall₂_filterMap fun name hname =>
      rel_map_of_rel (fun name => AnswersAlike (OneRootLeads disk listed roots name))
        (hlocated name hname)

/-- A disk with headers of one name in two directories, and others in a third. -/
def spelledDisk : Disk :=
  ⟨.dir [
    (Utf8.encode "a++", .dir [(Utf8.encode "s", .dir [(Utf8.encode "x.h", .file [])])]),
    (Utf8.encode "bb++", .dir [(Utf8.encode "s", .dir [(Utf8.encode "x.h", .file [])])]),
    (Utf8.encode "inc", .dir [
      (Utf8.encode "sys", .dir [(Utf8.encode "y.h", .file [])]),
      (Utf8.encode "vector", .file [])])], []⟩

/-- A search on that disk in a project that has no headers of its own. -/
def searchSpelled (listed : List String) (roots : List Path) : SearchSpace :=
  ofRoots spelledDisk listed .conventional roots

/-- Two of the directories. -/
def plainRoots : List Path := [ofString "inc", ofString "bb++"]

/-- The same directories under other spellings. -/
def respelledRoots : List Path := [ofString "inc/.//", ofString "bb++/"]

/-- Names that all three stages are asked for. -/
def spelledNames : IncludeNames := .ofList ["vector", "x.h", "y.h", "z.h"]

/-- Names are answered alike under both spellings. A different root leads for `x.h` and `y.h`. -/
theorem searchSpelled_resolves_alike :
    (OneRootLeads spelledDisk ["vector"] plainRoots "x.h" ∧
      OneRootLeads spelledDisk ["vector"] plainRoots "y.h") ∧
    List.Forall₂ Same (searchSpelled ["vector"] plainRoots).catalog.entries
      (searchSpelled ["vector"] respelledRoots).catalog.entries ∧
    ((searchSpelled ["vector"] plainRoots).resolve spelledNames).notFound =
      ((searchSpelled ["vector"] respelledRoots).resolve spelledNames).notFound ∧
    List.Forall₂ (fun answer answer' => answer.1 = answer'.1 ∧
        AnswersAlike (OneRootLeads spelledDisk ["vector"] plainRoots answer.1) answer.2 answer'.2)
      ((searchSpelled ["vector"] plainRoots).resolve spelledNames).found
      ((searchSpelled ["vector"] respelledRoots).resolve spelledNames).found := by
  have hrespelled : Catalog.Respelled spelledDisk ["vector"] plainRoots respelledRoots := by
    refine ⟨.cons ?_ (.cons ?_ .nil), ?_, ?_⟩ <;> decide +kernel
  have hplain : ∀ name ∈ spelledNames.toList, '/' ∉ name.toList := by decide +kernel
  refine ⟨⟨⟨[ofString "inc"], ofString "bb++", [], rfl, ?_⟩,
    ⟨[], ofString "inc", [ofString "bb++"], rfl, ?_⟩⟩, ?_⟩
  · decide +kernel
  · decide +kernel
  · exact resolve_of_respelled (by decide +kernel) hrespelled .conventional spelledNames
      fun name hname root _ =>
        @not_meets_of_notMem_tail ('/' :: name.toList) (hplain name hname) root

/-- The spelling of a root decides between candidates below different roots. It decides whether a
name, or a listed name, that reaches into the text of the root is found at its end. And a root that
is a file, or that is spelled at too great a length, is not walked at all. -/
theorem searchSpelled_depends_on_spelling :
    ((ofString "a++").Same (ofString "a++//") ∧
      (searchSpelled [] [ofString "a++", ofString "bb++"]).locate? "x.h" =
        some ⟨ofString "a++/s/x.h", .fuzzy⟩ ∧
      (searchSpelled [] [ofString "a++//", ofString "bb++"]).locate? "x.h" =
        some ⟨ofString "bb++/s/x.h", .fuzzy⟩) ∧
    ((ofString "inc/sys").Same (ofString "inc/sys//") ∧
      (searchSpelled [] [ofString "inc/sys"]).locate? "sys/y.h" =
        some ⟨ofString "inc/sys/y.h", .fuzzy⟩ ∧
      (searchSpelled [] [ofString "inc/sys//"]).locate? "sys/y.h" = none) ∧
    ((ofString "inc").Same (ofString "inc//") ∧
      (searchSpelled ["inc/vector"] [ofString "inc"]).locate? "vector" =
        some ⟨ofString "inc/vector", .system⟩ ∧
      (searchSpelled ["inc/vector"] [ofString "inc//"]).locate? "vector" = none) ∧
    ((ofString "inc/sys/y.h").Same (ofString "inc/sys/y.h/") ∧
      (searchSpelled [] [ofString "inc/sys/y.h"]).locate? "y.h" =
        some ⟨ofString "inc/sys/y.h", .fuzzy⟩ ∧
      (searchSpelled [] [ofString "inc/sys/y.h/"]).locate? "y.h" = none) ∧
    ((ofString "inc").Same ⟨Utf8.encode "inc" ++ List.replicate pathLimit slash⟩ ∧
      (searchSpelled [] [ofString "inc"]).locate? "y.h" =
        some ⟨ofString "inc/sys/y.h", .fuzzy⟩ ∧
      (searchSpelled [] [⟨Utf8.encode "inc" ++ List.replicate pathLimit slash⟩]).locate? "y.h" =
        none) := by
  have hspelled : (searchSpelled [] [ofString "a++", ofString "bb++"]).fuzzyCandidates "x.h" =
      ["a++/s/x.h", "bb++/s/x.h"] := by
    rw [fuzzyCandidates, List.mergeSort_of_pairwise] <;> decide +kernel
  have hrespelled : (searchSpelled [] [ofString "a++//", ofString "bb++"]).fuzzyCandidates "x.h" =
      ["a++//s/x.h", "bb++/s/x.h"] := by
    rw [fuzzyCandidates, List.mergeSort_of_pairwise] <;> decide +kernel
  refine ⟨⟨by decide, ?_, ?_⟩, ?_, ?_, ?_, ?_⟩
  · rw [locate?, fuzzyPath?, hspelled]
    decide +kernel
  · rw [locate?, fuzzyPath?, hrespelled]
    decide +kernel
  all_goals decide +kernel

end SearchSpace

end HeaderSearch
