/-
# Effective roots

The include roots of a run come from three places: the platform, the list in the environment, and
the arguments. They are searched in this order, and a root that comes again, in whatever spelling,
stays where and how it came first. So the roots of a run are the new spellings among all that were
given, and a root that is not new might as well not have been given.
-/

import HeaderSearch.CommandLine.Run
import HeaderSearch.Proofs.CommandLine.Grammar
import HeaderSearch.Proofs.Path.NewSpellings
import HeaderSearch.Proofs.Text.Splitting

namespace HeaderSearch

/-! ## Adding roots -/

namespace Settings

variable {settings : Settings} {known : List Path} {list? rest? : Option (List UInt8)}
  {segments : List (List UInt8)}

/-- The same settings with other roots. -/
def withRoots (settings : Settings) (systemRoots : List Path) : Settings :=
  { settings with systemRoots }

theorem addRoot_withRoots (settings : Settings) (known : List Path) (root : Path) :
    (settings.withRoots (newSpellings [] known)).addRoot root =
      settings.withRoots (newSpellings [] (known ++ [root])) := by
  have hknown : (∃ e ∈ (settings.withRoots (newSpellings [] known)).systemRoots, e.Same root) ↔
      ∃ e ∈ known, e.Same root := exists_same_mem_newSpellings_iff
  rw [addRoot, newSpellings_concat, List.nil_append]
  split
  · next hold => rw [if_pos (hknown.1 hold), List.append_nil]
  · next hnew => rw [if_neg (mt hknown.2 hnew)]; rfl

/-- Whatever roots are added, the new spellings are searched, in order. -/
theorem addRoots_withRoots (settings : Settings) (known roots : List Path) :
    (settings.withRoots (newSpellings [] known)).addRoots roots =
      settings.withRoots (newSpellings [] (known ++ roots)) := by
  induction roots generalizing known with
  | nil => rw [List.append_nil]; rfl
  | cons root rest ih =>
      rw [addRoots, List.foldl_cons, addRoot_withRoots, List.append_cons known root rest]
      exact ih (known ++ [root])

/-! ## Listed roots -/

/-- The segments into which colons cut the list of roots, if there is one. -/
def CutsInto (list? : Option (List UInt8)) (segments : List (List UInt8)) : Prop :=
  match list? with
  | none => segments = []
  | some list => segments ≠ [] ∧ (∀ segment ∈ segments, colon ∉ segment) ∧
      list = [colon].intercalate segments

/-- The roots that are given to a run, in the order in which they are searched: those of the
platform, the segments that are not empty, and those in the arguments. -/
def givenRoots (segments : List (List UInt8)) (dirs : List String) : List Path :=
  Platform.host.systemRoots ++ (segments.filter (· ≠ [])).map Path.mk ++ dirs.map Path.ofString

theorem exists_cutsInto (list? : Option (List UInt8)) : ∃ segments, CutsInto list? segments := by
  cases list? with
  | none => exact ⟨[], rfl⟩
  | some list =>
      exact ⟨list.splitOn colon, List.splitOn_ne_nil _ _, fun _ => notMem_of_mem_splitOn,
        (List.intercalate_splitOn _).symm⟩

theorem CutsInto.listedRoots_eq (h : CutsInto list? segments) :
    (list?.map listedRoots).getD [] = (segments.filter (· ≠ [])).map Path.mk := by
  cases list? with
  | none =>
      obtain rfl := h
      rfl
  | some list =>
      obtain ⟨hne, hcolon, rfl⟩ := h
      rw [Option.map_some, Option.getD_some, listedRoots, List.splitOn_intercalate _ hcolon hne]

theorem CutsInto.ofListed_eq (h : CutsInto list? segments) :
    ofListed list? = (ofPlatform .host).withRoots (newSpellings [] (givenRoots segments [])) := by
  have hhost : ofPlatform .host =
      (ofPlatform .host).withRoots (newSpellings [] Platform.host.systemRoots) := rfl
  rw [ofListed, h.listedRoots_eq, hhost, addRoots_withRoots, givenRoots, List.map_nil,
    List.append_nil]
  rfl

/-- A segment that is the same root as one given before it can be left out. -/
theorem newSpellings_givenRoots_segment {before : List (List UInt8)} {segment : List UInt8}
    (h : ∃ root ∈ givenRoots before [], root.Same ⟨segment⟩) (after : List (List UInt8))
    (dirs : List String) :
    newSpellings [] (givenRoots (before ++ segment :: after) dirs) =
      newSpellings [] (givenRoots (before ++ after) dirs) := by
  have hsplit (between : List (List UInt8)) :
      givenRoots (before ++ between) dirs =
        givenRoots before [] ++
          ((between.filter (· ≠ [])).map Path.mk ++ dirs.map Path.ofString) := by
    simp only [givenRoots, List.filter_append, List.map_append, List.map_nil, List.append_nil,
      List.append_assoc]
  rw [hsplit, hsplit]
  by_cases hempty : segment = []
  · rw [List.filter_cons_of_neg (by simp [hempty])]
  · rw [List.filter_cons_of_pos (by simp [hempty]), List.map_cons, List.cons_append]
    exact newSpellings_leaveOut h _

/-- A root in the arguments that is the same as one given before it can be left out. -/
theorem newSpellings_givenRoots_dir {before : List String} {dir : String}
    (h : ∃ root ∈ givenRoots segments before, root.Same (Path.ofString dir))
    (after : List String) :
    newSpellings [] (givenRoots segments (before ++ dir :: after)) =
      newSpellings [] (givenRoots segments (before ++ after)) := by
  have hsplit (behind : List String) :
      givenRoots segments (before ++ behind) =
        givenRoots segments before ++ behind.map Path.ofString := by
    simp only [givenRoots, List.map_append, List.append_assoc]
  rw [hsplit, hsplit, List.map_cons]
  exact newSpellings_leaveOut h _

end Settings

/-! ## Runs -/

namespace CommandLine.Invocation

open Settings

variable {inv : Invocation} {arguments : List String} {list? rest? : Option (List UInt8)}
  {segments before after : List (List UInt8)}

/-- The settings of a run are those of the platform, but for the roots and for whether the run is
verbose. -/
theorem settingsFor_eq (inv : Invocation) (h : CutsInto list? segments) :
    inv.settingsFor list? =
      { (ofPlatform .host).withRoots (newSpellings [] (givenRoots segments inv.roots)) with
        verbose := inv.verbose } := by
  have hroots := addRoots_withRoots
    { (ofPlatform .host) with verbose := inv.verbose } (givenRoots segments [])
    (inv.roots.map Path.ofString)
  rw [settingsFor, h.ofListed_eq]
  have happend : givenRoots segments [] ++ inv.roots.map Path.ofString =
      givenRoots segments inv.roots := by
    rw [givenRoots, List.map_nil, List.append_nil, givenRoots]
  rw [happend] at hroots
  exact hroots

/-- An item that gives a root is no word, and no flag that is set. -/
theorem word?_of_root? {item : Item} {dir : String} (h : item.root? = some dir) :
    item.word? = none ∧ item.isVerbose = false ∧ item.isJson = false := by
  cases item with
  | root | joinedRoot => exact ⟨rfl, rfl, rfl⟩
  | verbose | json | word => cases h

/-- Items ask for the same without an item that gives a root, but for this root. -/
theorem ofItems_leaveOut (before after : List Item) {item : Item} {dir : String}
    (h : item.root? = some dir) :
    ofItems (before ++ item :: after) =
      { ofItems (before ++ after) with
        roots := Item.roots before ++ dir :: Item.roots after } := by
  obtain ⟨hword, hverbose, hjson⟩ := word?_of_root? h
  simp only [ofItems, Item.operands, Item.words, Item.roots, List.filterMap_append,
    List.filterMap_cons_none hword, List.filterMap_cons_some h, List.any_append, List.any_cons,
    hverbose, hjson, Bool.false_or]

/-- Arguments are accepted as well without an item that gives a root. -/
theorem parse_written_leaveOut {before after : List Item} {item : Item} {dir : String}
    (hroot : item.root? = some dir)
    (h : parse (Item.written (before ++ item :: after)) = .ok inv) :
    parse (Item.written (before ++ after)) = .ok (ofItems (before ++ after)) := by
  rw [parse_written_eq_ok_iff] at h ⊢
  have hwords : Item.words (before ++ item :: after) = Item.words (before ++ after) := by
    simp only [Item.words, List.filterMap_append, List.filterMap_cons_none (word?_of_root? hroot).1]
  rw [Item.operands, hwords] at h
  exact ⟨h.1, rfl⟩

/-- The roots of a run are the new spellings among those of the platform, the segments of the list
in the environment and the directories in the arguments, in this order. So they are pairwise
different, and a directory or a segment that is the same root as one before it can be left out of
the arguments or the list without a change. -/
theorem systemRoots_of_parse (h : parse arguments = .ok inv) (list? : Option (List UInt8)) :
    ∃ items segments, arguments = Item.written items ∧ CutsInto list? segments ∧
      (inv.settingsFor list?).systemRoots =
        newSpellings [] (givenRoots segments (Item.roots items)) ∧
      (inv.settingsFor list?).systemRoots.Pairwise (fun p q => ¬ p.Same q) ∧
      (∀ before item after dir, items = before ++ item :: after → item.root? = some dir →
        (∃ root ∈ givenRoots segments (Item.roots before), root.Same (Path.ofString dir)) →
        ∃ other, parse (Item.written (before ++ after)) = .ok other ∧
          other.settingsFor list? = inv.settingsFor list?) ∧
      (∀ before segment after rest?, segments = before ++ segment :: after →
        (∃ root ∈ givenRoots before [], root.Same ⟨segment⟩) → CutsInto rest? (before ++ after) →
        inv.settingsFor rest? = inv.settingsFor list?) ∧
      ∀ env : Environment, env.roots?.map Utf8.encode = list? →
        inv.settings env = inv.settingsFor list? := by
  obtain ⟨items, rfl⟩ := exists_written_of_parseFrom h
  obtain ⟨segments, hsegments⟩ := exists_cutsInto list?
  have hitems := ((parse_written_eq_ok_iff items inv).1 h).2
  have hroots : inv.roots = Item.roots items := by rw [hitems]; rfl
  refine ⟨items, segments, rfl, hsegments, ?_, ?_, ?_, ?_, ?_⟩
  · rw [settingsFor_eq inv hsegments, hroots]
    rfl
  · rw [settingsFor_eq inv hsegments]
    exact pairwise_newSpellings _ _
  · intro before item after dir hsplit hroot hold
    rw [hsplit] at h hitems
    refine ⟨_, parse_written_leaveOut hroot h, ?_⟩
    have hdirs : (ofItems (before ++ after)).roots = Item.roots before ++ Item.roots after :=
      List.filterMap_append
    rw [settingsFor_eq _ hsegments, settingsFor_eq _ hsegments, hdirs, hitems,
      ofItems_leaveOut before after hroot, newSpellings_givenRoots_dir hold]
  · intro before segment after rest? hsplit hold hrest
    rw [settingsFor_eq inv hrest, settingsFor_eq inv hsegments, hsplit,
      newSpellings_givenRoots_segment hold]
  · intro env henv
    rw [settings, henv]

/-- Arguments that repeat a root of the platform, and one that is in the list below. -/
def repeatingArguments : List String :=
  ["config", "--root", "/usr//include/", "--root=./x", "--root", "x/"]

/-- What they ask for. -/
def repeatingInvocation : Invocation :=
  ⟨some "config", none, ["/usr//include/", "./x", "x/"], false, false⟩

/-- A list of roots with an empty segment, and with one that is not text. -/
def brokenList : List UInt8 := [0x78, 0x3A, 0x3A, 0xFF, 0x3A, 0x78, 0x2F, 0x2E]

/-- Of the seven roots that are given four are searched, each in its first spelling. -/
theorem systemRoots_of_repeatingArguments :
    parse repeatingArguments = .ok repeatingInvocation ∧
    (∃ items segments, repeatingArguments = Item.written items ∧
      CutsInto (some brokenList) segments ∧
      (repeatingInvocation.settingsFor (some brokenList)).systemRoots =
        newSpellings [] (givenRoots segments (Item.roots items))) ∧
    (repeatingInvocation.settingsFor (some brokenList)).systemRoots =
      [Path.ofString "/usr/include", Path.ofString "x", ⟨[0xFF]⟩, Path.ofString "./x"] ∧
    (repeatingInvocation.settingsFor (some brokenList)).systemRoots.Pairwise
      fun p q => ¬ p.Same q := by
  have hparse : parse repeatingArguments = .ok repeatingInvocation := by decide +kernel
  obtain ⟨items, segments, hitems, hsegments, hroots, hdistinct, -⟩ :=
    systemRoots_of_parse hparse (some brokenList)
  exact ⟨hparse, ⟨items, segments, hitems, hsegments, hroots⟩, by decide +kernel, hdistinct⟩

end CommandLine.Invocation

end HeaderSearch
