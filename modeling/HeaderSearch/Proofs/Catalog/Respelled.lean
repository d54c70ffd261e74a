/-
# Catalogs of roots under two spellings

The path of a header is written as the text of the root and then the names that lead to it. So two
catalogs whose roots are spelled differently list the same headers in the same order, each with its
own beginning.

What counts as a header is told by the text of the path, and a listed name is compared with the end
of that text. It could be so long as to reach into the text of the root, where the spelling shows.
Only then can the two catalogs differ.
-/

import HeaderSearch.Proofs.Catalog.Roots
import HeaderSearch.Proofs.Disk.Respelled
import HeaderSearch.Proofs.Path.Displayed
import Mathlib.Data.List.Forall2
import Mathlib.Data.List.Infix
import Mathlib.Data.List.Pairwise

namespace HeaderSearch

open HeaderSearch.Path

/-! ## The text of a path below a root -/

namespace Path

variable {root : Path} {name : Name} {names : List Name} {text : List Char}

/-- The text of a directory before the name of an entry, with a separator at its end. -/
def front (p : Path) : List UInt8 :=
  if p.bytes.getLast? = some slash then p.bytes else p.bytes ++ [slash]

theorem exists_front_eq (p : Path) : ∃ start, p.front = start ++ [slash] := by
  unfold front
  split
  · next hlast => exact List.getLast?_eq_some_iff.1 hlast
  · exact ⟨p.bytes, rfl⟩

theorem bytes_child (p : Path) (name : Name) : (p.child name).bytes = p.front ++ name := by
  unfold child front
  split
  · rfl
  · rw [List.append_assoc]
    rfl

theorem front_child (hname : (Component.name name).Spellable) (p : Path) :
    (p.child name).front = p.front ++ name ++ [slash] := by
  have hlast : (p.child name).bytes.getLast? ≠ some slash := by
    rw [bytes_child]
    rcases List.eq_nil_or_concat' name with rfl | ⟨start, last, rfl⟩
    · cases hname.1
    · rw [← List.append_assoc, List.getLast?_concat]
      intro hslash
      exact hname.2 (by simp [Option.some.inj hslash])
  rw [front, if_neg hlast, bytes_child]

/-- Below a directory stands its own text and then the names with separators between them. -/
theorem bytes_descend (hnames : ∀ n ∈ name :: names, (Component.name n).Spellable) (p : Path) :
    (p.descend (name :: names)).bytes = p.front ++ [slash].intercalate (name :: names) := by
  induction names generalizing p name with
  | nil => rw [List.intercalate_singleton, descend, List.foldl_cons, List.foldl_nil, bytes_child]
  | cons next rest ih =>
      obtain ⟨hname, hrest⟩ := List.forall_mem_cons.1 hnames
      have hstep : p.descend (name :: next :: rest) = (p.child name).descend (next :: rest) := rfl
      rw [hstep, ih hrest, front_child hname, List.intercalate_cons_cons]
      simp

/-- What is shown of names with separators between them. -/
def shownBelow (names : List Name) : List Char := Utf8.lossyChars ([slash].intercalate names)

/-- What is shown of a directory's text before the name of an entry. -/
def shownFront (p : Path) : List Char := Utf8.lossyChars p.front

theorem exists_shownFront_eq (p : Path) : ∃ start, p.shownFront = start ++ ['/'] := by
  obtain ⟨start, hstart⟩ := p.exists_front_eq
  refine ⟨Utf8.lossyChars start, ?_⟩
  rw [shownFront, hstart, Utf8.lossyChars_append_ascii start (by decide)]
  rfl

theorem lossyChars_descend (hnames : ∀ n ∈ name :: names, (Component.name n).Spellable)
    (p : Path) : Utf8.lossyChars (p.descend (name :: names)).bytes =
      p.shownFront ++ shownBelow (name :: names) := by
  obtain ⟨start, hstart⟩ := p.exists_front_eq
  rw [bytes_descend hnames, shownFront, shownBelow, hstart, List.append_assoc,
    List.singleton_append, Utf8.lossyChars_append_ascii start (by decide),
    Utf8.lossyChars_append_ascii start (by decide), List.append_assoc]
  rfl

/-- The text begins as the root ends, with more than the separator at the root's end. -/
def Meets (root : Path) (text : List Char) : Prop :=
  ∃ tail, 2 ≤ tail.length ∧ tail <:+ root.shownFront ∧ tail <+: text

instance (root : Path) (text : List Char) : Decidable (root.Meets text) :=
  decidable_of_iff (∃ tail ∈ text.inits, 2 ≤ tail.length ∧ tail <:+ root.shownFront) <| by
    constructor
    · rintro ⟨tail, hbegin, hlength, hend⟩
      exact ⟨tail, hlength, hend, (List.mem_inits tail text).1 hbegin⟩
    · rintro ⟨tail, hlength, hend, hbegin⟩
      exact ⟨tail, (List.mem_inits tail text).2 hbegin, hlength, hend⟩

/-- A text without a separator, other than at its beginning, meets no root. -/
theorem not_meets_of_notMem_tail (h : '/' ∉ text.tail) (root : Path) : ¬ root.Meets text := by
  rintro ⟨tail, hlength, hend, hbegin⟩
  obtain ⟨start, hstart⟩ := root.exists_shownFront_eq
  rw [hstart] at hend
  rcases List.suffix_concat_iff.1 hend with rfl | ⟨front, rfl, -⟩
  · simp at hlength
  · obtain ⟨rest, rfl⟩ := hbegin
    cases front with
    | nil => simp at hlength
    | cons first front => exact h (by simp)

/-- Whether a text is the end of a path below a root can be told without the root's text, unless the
text meets the root. -/
theorem suffix_descend_iff (hnames : ∀ n ∈ name :: names, (Component.name n).Spellable)
    (h : ¬ root.Meets text) :
    text <:+ Utf8.lossyChars (root.descend (name :: names)).bytes ↔
      text <:+ '/' :: shownBelow (name :: names) := by
  obtain ⟨start, hstart⟩ := root.exists_shownFront_eq
  have hwhole : Utf8.lossyChars (root.descend (name :: names)).bytes =
      start ++ '/' :: shownBelow (name :: names) := by
    rw [lossyChars_descend hnames, hstart, List.append_assoc]
    rfl
  rw [hwhole]
  constructor
  · intro hsuffix
    rcases List.suffix_or_suffix_of_suffix hsuffix (List.suffix_append start _) with
      hinside | ⟨tail, rfl⟩
    · exact hinside
    · -- The text is longer than what stands below the root, so its beginning is the root's end.
      obtain ⟨before, hbefore⟩ := hsuffix
      rw [← List.append_assoc] at hbefore
      obtain rfl := List.append_cancel_right hbefore
      cases tail with
      | nil => exact List.suffix_rfl
      | cons first rest =>
          refine absurd ⟨first :: rest ++ ['/'], by simp, ?_, ?_⟩ h
          · rw [hstart, List.append_assoc]
            exact List.suffix_append before _
          · exact ⟨shownBelow (name :: names), by simp⟩
  · intro hsuffix
    exact hsuffix.trans (List.suffix_append start _)

end Path

/-! ## Headers -/

/-- Two paths that the same names lead to, from a root and from its other spelling. -/
inductive Path.Parallel (root root' : Path) : Path → Path → Prop where
  | descend {name : Name} {names : List Name}
      (spellable : ∀ n ∈ name :: names, (Component.name n).Spellable) :
      Parallel root root' (root.descend (name :: names)) (root'.descend (name :: names))

theorem Path.Same.hasHeaderExtension_eq {p q : Path} (h : p.Same q) :
    p.hasHeaderExtension = q.hasHeaderExtension := by
  simp only [hasHeaderExtension, extension?, fileName?, show p.components = q.components from h]

theorem exists_mem_of_forall₂ {α β : Type} {R : α → β → Prop} {xs : List α} {ys : List β}
    (h : List.Forall₂ R xs ys) {y : β} (hy : y ∈ ys) : ∃ x ∈ xs, R x y := by
  induction h with
  | nil => cases hy
  | cons hR _ ih =>
      rcases List.mem_cons.1 hy with rfl | hy
      · exact ⟨_, List.mem_cons_self, hR⟩
      · obtain ⟨x, hx, hxy⟩ := ih hy
        exact ⟨x, List.mem_cons_of_mem _ hx, hxy⟩

theorem forall₂_filterMap {α β γ : Type} {R : β → γ → Prop} {l : List α} {f : α → Option β}
    {g : α → Option γ} (h : ∀ a ∈ l, Option.Rel R (f a) (g a)) :
    List.Forall₂ R (l.filterMap f) (l.filterMap g) := by
  induction l with
  | nil => exact .nil
  | cons a rest ih =>
      obtain ⟨ha, hrest⟩ := List.forall_mem_cons.1 h
      cases hf : f a <;> cases hg : g a <;> rw [hf, hg] at ha <;> cases ha
      · rw [List.filterMap_cons_none hf, List.filterMap_cons_none hg]
        exact ih hrest
      · next hR =>
        rw [List.filterMap_cons_some hf, List.filterMap_cons_some hg]
        exact .cons hR (ih hrest)

namespace Catalog

variable {disk : Disk} {root root' : Path} {listed : List String} {name : Name} {names : List Name}

theorem isHeader_descend_eq (hsame : root.Same root') (hroot : root.bytes ≠ [])
    (hlisted : ∀ name ∈ listed, ¬ root.Meets name.toList)
    (hlisted' : ∀ name ∈ listed, ¬ root'.Meets name.toList)
    (hnames : ∀ n ∈ name :: names, (Component.name n).Spellable) :
    (root.descend (name :: names)).isHeader listed =
      (root'.descend (name :: names)).isHeader listed := by
  rw [Path.isHeader, Path.isHeader, (hsame.descend hroot hnames).hasHeaderExtension_eq]
  congr 1
  dsimp only
  rw [Bool.eq_iff_iff, List.any_eq_true, List.any_eq_true]
  simp only [List.isPrefixOf_iff_prefix, List.reverse_prefix]
  apply exists_congr
  intro listedName
  apply and_congr_right
  intro hmem
  rw [suffix_descend_iff hnames (hlisted listedName hmem),
    suffix_descend_iff hnames (hlisted' listedName hmem)]

theorem isFile_descend_eq (hsame : root.Same root') (hroot : root.bytes ≠ [])
    (hnames : ∀ n ∈ name :: names, (Component.name n).Spellable)
    (hshort : (root.descend (name :: names)).isTooLong = false)
    (hshort' : (root'.descend (name :: names)).isTooLong = false) :
    disk.isFile (root.descend (name :: names)) = disk.isFile (root'.descend (name :: names)) := by
  have hdescend := hsame.descend hroot hnames
  rcases List.eq_nil_or_concat' (name :: names) with hnil | ⟨front, last, hconcat⟩
  · cases hnil
  · have hlast : (Component.name last).Spellable := hnames last (by simp [hconcat])
    rw [hconcat, descend_concat] at hshort hdescend
    rw [hconcat, descend_concat] at hshort'
    rw [descend_concat] at hdescend
    rw [hconcat, descend_concat, descend_concat, Disk.isFile, Disk.isFile,
      Disk.find_child_eq_of_same hlast hdescend hshort hshort']

/-- A step down the same way finds a header under both spellings of the root or under neither. -/
theorem rel_header?_visitOf (hsame : root.Same root') (hroot : root.bytes ≠ [])
    (hlisted : ∀ name ∈ listed, ¬ root.Meets name.toList)
    (hlisted' : ∀ name ∈ listed, ¬ root'.Meets name.toList)
    (hnames : ∀ n ∈ name :: names, (Component.name n).Spellable) {type : EntryType}
    (hfile : type = .link → disk.isFile (root.descend (name :: names)) =
      disk.isFile (root'.descend (name :: names))) :
    Option.Rel (root.Parallel root')
      ((Node.visitOf root (name :: names, type)).header? disk listed)
      ((Node.visitOf root' (name :: names, type)).header? disk listed) := by
  have hleads : type = .link ∧ disk.isFile (root.descend (name :: names)) = true ↔
      type = .link ∧ disk.isFile (root'.descend (name :: names)) = true :=
    and_congr_right fun htype => by rw [hfile htype]
  simp only [Node.visitOf, Visit.header?, hleads,
    isHeader_descend_eq hsame hroot hlisted hlisted' hnames]
  split
  · exact .some (.descend hnames)
  · exact .none

/-- The headers below a root are found on the ways from the directory that it leads to. -/
theorem headersBelow_eq_filterMap_ways (h : disk.TakesRoot root) {place : Place}
    (hfind : disk.find true root = .ok place) {entries : List (Name × Node)}
    (hdir : place.node = .dir entries) :
    headersBelow disk listed root = (Node.waysAll entries).filterMap fun way =>
      (Node.visitOf root way).header? disk listed := by
  obtain ⟨type, htype, hwalk⟩ := h.walk_eq hfind hdir
  have hroot : (Visit.entry root type).header? disk listed = none := by
    rw [Visit.header?, if_neg]
    rintro ⟨hfile | ⟨-, hfile⟩, -⟩
    · exact htype hfile
    · rw [h.notFile] at hfile
      cases hfile
  rw [headersBelow, hwalk, List.filterMap_cons_none hroot, List.filterMap_map]
  rfl

theorem headersBelow_of_error (h : ∀ place, disk.find true root ≠ .ok place) :
    headersBelow disk listed root = [] := by
  rcases disk.walk_cases root with ⟨-, fault, hwalk⟩ | ⟨-, place, -, hplace, -⟩
  · exact headersBelow_of_rootFailure (by rw [hwalk]; exact List.mem_singleton_self _)
  · exact absurd hplace (h place)

/-- Below two spellings of a root the same headers are found, in the same order. -/
theorem forall₂_headersBelow (hproper : disk.root.Proper) (h : disk.Respells root root')
    (hlisted : ∀ name ∈ listed, ¬ root.Meets name.toList)
    (hlisted' : ∀ name ∈ listed, ¬ root'.Meets name.toList) :
    List.Forall₂ (root.Parallel root') (headersBelow disk listed root)
      (headersBelow disk listed root') := by
  cases hfind : disk.find true root with
  | error fault =>
      have hnone : ∀ place, disk.find true root ≠ .ok place := by simp [hfind]
      have hnone' : ∀ place, disk.find true root' ≠ .ok place := fun place hplace =>
        hnone place (h.symm.find_true hplace)
      rw [headersBelow_of_error hnone, headersBelow_of_error hnone']
      exact .nil
  | ok place =>
      have hfind' := h.find_true hfind
      have hroot := (Disk.exists_start_of_find hfind).1
      obtain ⟨entries, hdir⟩ := h.left.isDir hfind
      have hentries := Disk.proper_of_find hproper hfind
      rw [hdir] at hentries
      rw [headersBelow_eq_filterMap_ways h.left hfind hdir,
        headersBelow_eq_filterMap_ways h.right hfind' hdir]
      obtain ⟨_, -, hwalk⟩ := h.left.walk_eq hfind hdir
      obtain ⟨_, -, hwalk'⟩ := h.right.walk_eq hfind' hdir
      apply forall₂_filterMap
      rintro ⟨_, type⟩ hway
      obtain ⟨name, names, rfl, hnames⟩ := Node.spellable_of_mem_waysAll hentries hway
      have hvisit : Node.visitOf root (name :: names, type) ∈ disk.walk root := by
        rw [hwalk]
        exact List.mem_cons_of_mem _ (List.mem_map_of_mem hway)
      have hvisit' : Node.visitOf root' (name :: names, type) ∈ disk.walk root' := by
        rw [hwalk']
        exact List.mem_cons_of_mem _ (List.mem_map_of_mem hway)
      apply rel_header?_visitOf h.same hroot hlisted hlisted' hnames
      rintro rfl
      exact isFile_descend_eq h.same hroot hnames (h.left.shortBelow _ hvisit nofun)
        (h.right.shortBelow _ hvisit' nofun)

/-! ## Catalogs -/

theorem exists_same_iff_of_forall₂ {paths paths' : List Path} {p q : Path}
    (h : List.Forall₂ Path.Same paths paths') (hpq : p.Same q) :
    (∃ e ∈ paths, e.Same p) ↔ ∃ e ∈ paths', e.Same q := by
  induction h with
  | nil => simp
  | @cons e e' _ _ hsame _ ih =>
      have hhead : e.Same p ↔ e'.Same q :=
        ⟨fun hep => hsame.symm.trans (hep.trans hpq),
          fun heq => hsame.trans (heq.trans hpq.symm)⟩
      simp only [List.mem_cons, exists_eq_or_imp, ih, hhead]

/-- No two entries of a catalog are the same path. -/
theorem eq_of_same_of_mem_entries {catalog : Catalog} {p q : Path} (hp : p ∈ catalog.entries)
    (hq : q ∈ catalog.entries) (h : p.Same q) : p = q := by
  by_contra hne
  have hsymm : Std.Symm fun p q : Path => ¬ p.Same q := ⟨fun _ _ hpq hqp => hpq hqp.symm⟩
  exact catalog.distinct.forall hp hq hne h

/-- Catalogs that list the same paths, one by one, contain the same paths. -/
theorem mem_iff_of_forall₂ {catalog catalog' : Catalog} {p q : Path}
    (h : List.Forall₂ Path.Same catalog.entries catalog'.entries) (hpq : p.Same q) :
    p ∈ catalog ↔ q ∈ catalog' := exists_same_iff_of_forall₂ h hpq

/-- If paths that are the same are inserted one by one, the same of them are new. -/
theorem forall₂_entries_foldl_insert {R : Path → Path → Prop} (hR : ∀ p q, R p q → p.Same q)
    {paths paths' : List Path} (h : List.Forall₂ R paths paths') {catalog catalog' : Catalog}
    (hentries : List.Forall₂ R catalog.entries catalog'.entries) :
    List.Forall₂ R (paths.foldl insert catalog).entries (paths'.foldl insert catalog').entries := by
  induction h generalizing catalog catalog' with
  | nil => exact hentries
  | @cons p q _ _ hpq _ ih =>
      rw [List.foldl_cons, List.foldl_cons]
      apply ih
      have hmem : p ∈ catalog ↔ q ∈ catalog' := mem_iff_of_forall₂ (hentries.imp hR) (hR p q hpq)
      rw [entries_insert, entries_insert]
      by_cases hold : p ∈ catalog
      · rw [if_pos hold, if_pos (hmem.1 hold)]
        exact hentries
      · rw [if_neg hold, if_neg fun hold' => hold (hmem.2 hold')]
        exact List.rel_append hentries (.cons hpq .nil)

/-- Two headers that the same names lead to from roots at the same place of two lists, the first of
them found in the walk of its root. -/
def Paired (disk : Disk) (listed : List String) (roots roots' : List Path) (e e' : Path) : Prop :=
  ∃ pair ∈ roots.zip roots', pair.1.Parallel pair.2 e e' ∧ e ∈ headersBelow disk listed pair.1

variable {roots roots' : List Path} {e e' : Path}

theorem Paired.same (h : Paired disk listed roots roots' e e')
    (hroots : List.Forall₂ disk.Respells roots roots') : e.Same e' := by
  obtain ⟨⟨root, root'⟩, hpair, ⟨hnames⟩, hmem⟩ := h
  have hrespells := (List.forall₂_iff_zip.1 hroots).2 hpair
  exact hrespells.same.descend (bytes_ne_nil_of_mem_headersBelow hmem) hnames

/-- Two lists spell the same roots, the disk takes each root under both spellings, and no listed
name reaches into the text of a root. -/
structure Respelled (disk : Disk) (listed : List String) (roots roots' : List Path) : Prop where
  respells : List.Forall₂ disk.Respells roots roots'
  left : ∀ root ∈ roots, ∀ name ∈ listed, ¬ root.Meets name.toList
  right : ∀ root ∈ roots', ∀ name ∈ listed, ¬ root.Meets name.toList

theorem Respelled.headers (h : Respelled disk listed roots roots') (hproper : disk.root.Proper) :
    List.Forall₂ (Paired disk listed roots roots') (roots.flatMap (headersBelow disk listed))
      (roots'.flatMap (headersBelow disk listed)) := by
  obtain ⟨hroots, hleft, hright⟩ := h
  induction hroots with
  | nil => exact .nil
  | @cons root root' rest rest' hrespells _ ih =>
      obtain ⟨hroot, hrest⟩ := List.forall_mem_cons.1 hleft
      obtain ⟨hroot', hrest'⟩ := List.forall_mem_cons.1 hright
      have hfirst := forall₂_headersBelow hproper hrespells hroot hroot'
      rw [List.flatMap_cons, List.flatMap_cons]
      apply List.rel_append
      · apply ((List.forall₂_and_left _ _).2 ⟨fun e he => he, hfirst⟩).imp
        rintro e e' ⟨hmem, hparallel⟩
        exact ⟨(root, root'), List.mem_cons_self, hparallel, hmem⟩
      · apply (ih hrest hrest').imp
        rintro e e' ⟨pair, hpair, hpaired⟩
        exact ⟨pair, List.mem_cons_of_mem _ hpair, hpaired⟩

/-- Catalogs of roots that are spelled differently list the same headers, one by one. -/
theorem Respelled.entries (h : Respelled disk listed roots roots') (hproper : disk.root.Proper) :
    List.Forall₂ (Paired disk listed roots roots') (build disk roots listed).entries
      (build disk roots' listed).entries := by
  rw [entries_build, entries_build]
  exact forall₂_entries_foldl_insert (fun e e' hpaired => hpaired.same h.respells)
    (h.headers hproper) .nil

/-! ## What is listed for a root -/

/-- What a catalog lists for a root: the headers below it that are not listed for the roots before
it. -/
def listedFor (disk : Disk) (listed : List String) (before : List Path) (root : Path) : List Path :=
  (build disk [root] listed).entries.filter (· ∉ build disk before listed)

theorem listedFor_subset (disk : Disk) (listed : List String) (before after : List Path)
    (root : Path) :
    listedFor disk listed before root ⊆ (build disk (before ++ root :: after) listed).entries := by
  intro e he
  obtain ⟨hown, hnew⟩ := List.mem_filter.1 he
  have hlater : e ∈ (build disk (root :: after) listed).entries := by
    rw [← List.singleton_append, entries_build_append]
    exact List.mem_append_left _ hown
  rw [entries_build_append]
  exact List.mem_append_right _ (List.mem_filter.2 ⟨hlater, hnew⟩)

theorem Respelled.split {front back : List Path}
    (h : Respelled disk listed (front ++ back) roots') :
    ∃ front' back', roots' = front' ++ back' ∧ Respelled disk listed front front' ∧
      Respelled disk listed back back' := by
  obtain ⟨hroots, hleft, hright⟩ := h
  obtain ⟨hfront, hback⟩ := List.forall_mem_append.1 hleft
  have htaken := (List.forall₂_take_append _ _ _ hroots.flip).flip
  have hdropped := (List.forall₂_drop_append _ _ _ hroots.flip).flip
  refine ⟨roots'.take front.length, roots'.drop front.length,
    (List.take_append_drop _ _).symm, ⟨htaken, hfront, ?_⟩, ⟨hdropped, hback, ?_⟩⟩
  · exact fun root hroot => hright root (List.mem_of_mem_take hroot)
  · exact fun root hroot => hright root (List.mem_of_mem_drop hroot)

theorem Respelled.first {after : List Path} (h : Respelled disk listed (root :: after) roots') :
    ∃ root' after', roots' = root' :: after' ∧ Respelled disk listed [root] [root'] := by
  obtain ⟨hroots, hleft, hright⟩ := h
  cases hroots with
  | @cons _ root' _ after' hrespells _ =>
      refine ⟨root', after', rfl, .cons hrespells .nil, ?_, ?_⟩
      · exact List.forall_mem_singleton.2 (List.forall_mem_cons.1 hleft).1
      · exact List.forall_mem_singleton.2 (List.forall_mem_cons.1 hright).1

/-- For a root the same is listed under both spellings. -/
theorem Respelled.listedFor {before before' : List Path}
    (hbefore : Respelled disk listed before before') (hroot : Respelled disk listed [root] [root'])
    (hproper : disk.root.Proper) :
    List.Forall₂ (fun e e' => root.Parallel root' e e' ∧ e.Same e')
      (listedFor disk listed before root) (listedFor disk listed before' root') := by
  have hmem {p q : Path} (hpq : p.Same q) :
      p ∈ build disk before listed ↔ q ∈ build disk before' listed :=
    mem_iff_of_forall₂ ((hbefore.entries hproper).imp fun _ _ h => h.same hbefore.respells) hpq
  have hfiltered : List.Forall₂ (Paired disk listed [root] [root'])
      (Catalog.listedFor disk listed before root)
      (Catalog.listedFor disk listed before' root') := by
    apply List.rel_filter _ (hroot.entries hproper)
    intro e e' h
    simp [hmem (h.same hroot.respells)]
  apply hfiltered.imp
  intro e e' h
  have hsame := h.same hroot.respells
  obtain ⟨pair, hpair, hparallel, -⟩ := h
  obtain rfl := List.mem_singleton.1 hpair
  exact ⟨hparallel, hsame⟩

end Catalog

end HeaderSearch
