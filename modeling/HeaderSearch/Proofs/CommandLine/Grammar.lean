/-
# The grammar of arguments

Arguments are accepted exactly if they are written items behind one another, and if of the words
among them at most two are left once the empty ones in front are passed over. What such arguments
ask for is read off the items: the words tell the command and the directory, the roots stand in the
order in which they were given, and a flag is set if it is there.

So flags, roots and words do not interfere with each other. Items may be interleaved in any way that
keeps the words in order and the roots in order.
-/

import HeaderSearch.Proofs.CommandLine.Reading
import Mathlib.Data.List.Induction

namespace HeaderSearch.CommandLine

/-! ## Items -/

/-- A piece of the command line that is read as a whole. -/
inductive Item where
  /-- The flag that makes a run verbose, in its short or its long spelling. -/
  | verbose (long : Bool)
  /-- The flag that asks for a report. -/
  | json
  /-- A root in an argument of its own, which may look like anything. -/
  | root (dir : String)
  /-- A root in the same argument. -/
  | joinedRoot (dir : String)
  /-- An argument that does not begin with a dash. -/
  | word (text : String) (undashed : text.toList.head? ≠ some '-')
  deriving DecidableEq

namespace Item

/-- The arguments in which an item is written. -/
def arguments : Item → List String
  | verbose false => ["-v"]
  | verbose true => ["--verbose"]
  | json => ["--json"]
  | root dir => ["--root", dir]
  | joinedRoot dir => ["--root=" ++ dir]
  | word text _ => [text]

/-- Does the item make the run verbose? -/
def isVerbose : Item → Bool
  | verbose _ => true
  | _ => false

/-- Does the item ask for a report? -/
def isJson : Item → Bool
  | json => true
  | _ => false

/-- The root that an item gives. -/
def root? : Item → Option String
  | root dir | joinedRoot dir => some dir
  | _ => none

/-- The word that an item is. -/
def word? : Item → Option String
  | word text _ => some text
  | _ => none

/-- The arguments in which items are written one behind the other. -/
def written (items : List Item) : List String := items.flatMap arguments

/-- The roots among the items, in order. -/
def roots (items : List Item) : List String := items.filterMap root?

/-- The words among the items, in order. -/
def words (items : List Item) : List String := items.filterMap word?

/-- The words among the items, from the first that is not empty on. -/
def operands (items : List Item) : List String := (words items).dropWhile (· = "")

end Item

/-- What items ask for. -/
def Invocation.ofItems (items : List Item) : Invocation where
  command? := (Item.operands items)[0]?
  dir? := (Item.operands items)[1]?
  roots := Item.roots items
  verbose := items.any Item.isVerbose
  json := items.any Item.isJson

/-! ## Reading one item -/

theorem behind?_eq_some_iff {start text rest : String} :
    behind? start text = some rest ↔ text = start ++ rest := by
  rw [← String.toList_inj, String.toList_append, behind?]
  constructor
  · intro h
    split at h
    · next hprefix =>
      obtain ⟨tail, htail⟩ := List.isPrefixOf_iff_prefix.1 hprefix
      rw [← htail, List.drop_left] at h
      rw [← htail, ← Option.some.inj h, String.toList_ofList]
    · cases h
  · intro h
    rw [h, if_pos (List.isPrefixOf_iff_prefix.2 (List.prefix_append _ _)), List.drop_left,
      String.ofList_toList]

/-- What does not begin with a dash begins with nothing that does. -/
theorem behind?_eq_none_of_undashed {start text : String} (hstart : start.toList.head? = some '-')
    (h : text.toList.head? ≠ some '-') : behind? start text = none := by
  rw [Option.eq_none_iff_forall_ne_some]
  intro rest hrest
  rw [behind?_eq_some_iff] at hrest
  apply h
  rw [hrest, String.toList_append, List.head?_append, hstart]
  rfl

theorem undashed_of_behind? {text : String} (h : ¬ (behind? "-" text).isSome) :
    text.toList.head? ≠ some '-' := by
  intro hdash
  obtain ⟨rest, hchars⟩ := List.head?_eq_some_iff.1 hdash
  apply h
  rw [behind?, hchars]
  rfl

namespace Invocation

variable {inv taken : Invocation} {items others : List Item} {item : Item} {argument : String}

/-- Take in an item. Only a word can be refused. -/
def takeItem (inv : Invocation) : Item → Except ArgumentError Invocation
  | .verbose _ => .ok { inv with verbose := true }
  | .json => .ok { inv with json := true }
  | .root dir | .joinedRoot dir => .ok { inv with roots := inv.roots ++ [dir] }
  | .word text _ => inv.addWord text

theorem takeIn_joinedRoot (inv : Invocation) (dir : String) :
    inv.takeIn ("--root=" ++ dir) = .ok { inv with roots := inv.roots ++ [dir] } := by
  have hne (other : String) (hother : behind? "--root=" other = none) :
      "--root=" ++ dir ≠ other := by
    intro heq
    rw [behind?_eq_some_iff.2 heq.symm] at hother
    cases hother
  have hverbose : ¬ ("--root=" ++ dir = "-v" ∨ "--root=" ++ dir = "--verbose") := by
    rw [not_or]
    exact ⟨hne _ (by decide +kernel), hne _ (by decide +kernel)⟩
  rw [takeIn, if_neg hverbose, if_neg (hne _ (by decide +kernel)), behind?_eq_some_iff.2 rfl]

theorem takeIn_of_undashed (h : argument.toList.head? ≠ some '-') (inv : Invocation) :
    inv.takeIn argument = inv.addWord argument := by
  have hne (flag : String) (hflag : flag.toList.head? = some '-') : argument ≠ flag := by
    intro heq
    rw [heq] at h
    exact h hflag
  have hverbose : ¬ (argument = "-v" ∨ argument = "--verbose") := by
    rw [not_or]
    exact ⟨hne _ rfl, hne _ rfl⟩
  rw [takeIn, if_neg hverbose, if_neg (hne _ rfl), behind?_eq_none_of_undashed rfl h]
  dsimp only
  rw [behind?_eq_none_of_undashed rfl h]
  rfl

/-- What is written of an item is read as this item, whatever stands behind it. -/
theorem parseFrom_arguments_append (inv : Invocation) (item : Item) (rest : List String) :
    inv.parseFrom (item.arguments ++ rest) = (inv.takeItem item).bind (·.parseFrom rest) := by
  have hsingle (argument : String) (hne : argument ≠ "--root")
      (htake : inv.takeIn argument = inv.takeItem item) :
      inv.parseFrom ([argument] ++ rest) = (inv.takeItem item).bind (·.parseFrom rest) := by
    rw [← htake]
    exact parseFrom_cons hne inv rest
  cases item with
  | verbose long => cases long <;> exact hsingle _ (by decide) rfl
  | json => exact hsingle _ (by decide) rfl
  | root dir => rfl
  | joinedRoot dir =>
      apply hsingle _ _ (takeIn_joinedRoot inv dir)
      intro heq
      have hnone : behind? "--root=" "--root" = none := by decide +kernel
      rw [behind?_eq_some_iff.2 heq.symm] at hnone
      cases hnone
  | word text undashed =>
      apply hsingle _ _ (takeIn_of_undashed undashed inv)
      intro heq
      rw [heq] at undashed
      exact undashed rfl

/-- An argument that is not refused is an item by itself. -/
theorem exists_item_of_takeIn (h : inv.takeIn argument = .ok taken) :
    ∃ item : Item, item.arguments = [argument] := by
  unfold takeIn at h
  split at h
  · next hflag =>
    cases hflag with
    | inl hshort => exact ⟨.verbose false, by rw [hshort]; rfl⟩
    | inr hlong => exact ⟨.verbose true, by rw [hlong]; rfl⟩
  · split at h
    · next hflag => exact ⟨.json, by rw [hflag]; rfl⟩
    · split at h
      · next dir hdir => exact ⟨.joinedRoot dir, by rw [behind?_eq_some_iff.1 hdir]; rfl⟩
      · split at h
        · cases h
        · next hdash => exact ⟨.word argument (undashed_of_behind? hdash), rfl⟩

/-! ## Reading all items -/

theorem parseFrom_written (inv : Invocation) (items : List Item) :
    inv.parseFrom (Item.written items) = items.foldlM takeItem inv := by
  induction items generalizing inv with
  | nil => rfl
  | cons item rest ih =>
      rw [Item.written, List.flatMap_cons, parseFrom_arguments_append, List.foldlM_cons]
      cases inv.takeItem item with
      | error error => rfl
      | ok taken => exact ih taken

/-- Arguments that are not refused are written items. -/
theorem exists_written_of_parseFrom {arguments : List String}
    (h : inv.parseFrom arguments = .ok taken) : ∃ items, arguments = Item.written items := by
  induction arguments using unit_induction generalizing inv with
  | nil => exact ⟨[], rfl⟩
  | bareRoot => cases h
  | root dir rest ih =>
      obtain ⟨items, rfl⟩ := ih h
      exact ⟨.root dir :: items, rfl⟩
  | single argument rest hargument ih =>
      rw [parseFrom_cons hargument] at h
      cases htaken : inv.takeIn argument with
      | error error =>
          rw [htaken] at h
          cases h
      | ok read =>
          rw [htaken] at h
          obtain ⟨items, rfl⟩ := ih h
          obtain ⟨item, hitem⟩ := exists_item_of_takeIn htaken
          refine ⟨item :: items, ?_⟩
          rw [Item.written, Item.written, List.flatMap_cons, hitem, List.singleton_append]

/-! ## What items ask for -/

theorem operands_concat (items : List Item) (item : Item) :
    Item.operands (items ++ [item]) =
      if Item.operands items = [] then item.word?.toList.dropWhile (· = "")
      else Item.operands items ++ item.word?.toList := by
  have hwords : Item.words (items ++ [item]) = Item.words items ++ item.word?.toList := by
    rw [Item.words, List.filterMap_append]
    cases hword : item.word? with
    | none => rw [List.filterMap_cons_none hword]; rfl
    | some text => rw [List.filterMap_cons_some hword]; rfl
  rw [Item.operands, hwords, List.dropWhile_append, ← Item.operands]
  by_cases hnone : Item.operands items = []
  · rw [if_pos hnone, if_pos (List.isEmpty_iff.2 hnone)]
  · rw [if_neg hnone, if_neg (mt List.isEmpty_iff.1 hnone)]

theorem ofItems_concat (items : List Item) (item : Item) :
    ofItems (items ++ [item]) =
      { command? := (Item.operands (items ++ [item]))[0]?
        dir? := (Item.operands (items ++ [item]))[1]?
        roots := Item.roots items ++ item.root?.toList
        verbose := items.any Item.isVerbose || item.isVerbose
        json := items.any Item.isJson || item.isJson } := by
  have hroots : Item.roots (items ++ [item]) = Item.roots items ++ item.root?.toList := by
    rw [Item.roots, List.filterMap_append]
    cases hroot : item.root? with
    | none => rw [List.filterMap_cons_none hroot]; rfl
    | some dir => rw [List.filterMap_cons_some hroot]; rfl
  rw [ofItems, hroots, List.any_append, List.any_append, List.any_cons, List.any_cons, List.any_nil,
    List.any_nil, Bool.or_false, Bool.or_false]

/-- A word is the command, or the directory if there is a command, or one too many if there is a
directory too. An empty word is no command. -/
theorem addWord_ofItems (h : (Item.operands items).length ≤ 2) (item : Item) {text : String}
    (hword : item.word? = some text) :
    (ofItems items).addWord text =
      if (Item.operands (items ++ [item])).length ≤ 2 then
        .ok { ofItems items with
          command? := (Item.operands (items ++ [item]))[0]?
          dir? := (Item.operands (items ++ [item]))[1]? }
      else .error (.unexpected text) := by
  rw [operands_concat, hword]
  match hoperands : Item.operands items with
  | [] =>
      by_cases hempty : text = ""
      · simp [addWord, ofItems, hoperands, hempty]
      · simp [addWord, ofItems, hoperands, hempty]
  | [command] => simp [addWord, ofItems, hoperands]
  | [command, dir] => simp [addWord, ofItems, hoperands]
  | _ :: _ :: _ :: _ =>
      rw [hoperands] at h
      simp at h

/-- One more item is taken in unless it is a word too many, and leads to what all items together
ask for. -/
theorem takeItem_ofItems (h : (Item.operands items).length ≤ 2) (item : Item) :
    (ofItems items).takeItem item = .ok inv ↔
      (Item.operands (items ++ [item])).length ≤ 2 ∧ inv = ofItems (items ++ [item]) := by
  rw [ofItems_concat]
  have hother (hword : item.word? = none) :
      Item.operands (items ++ [item]) = Item.operands items := by
    rw [operands_concat, hword]
    split
    · next hnone => rw [hnone]; rfl
    · exact List.append_nil _
  cases item with
  | verbose long | json | root dir | joinedRoot dir =>
      rw [hother rfl]
      simp [takeItem, ofItems, h, Item.root?, Item.isVerbose, Item.isJson, eq_comm]
  | word text undashed =>
      rw [takeItem, addWord_ofItems h (.word text undashed) rfl]
      split
      · next hlength => simp [hlength, ofItems, Item.root?, Item.isVerbose, Item.isJson, eq_comm]
      · next hlength => simp [hlength]

/-- The words that count only become more. -/
theorem length_operands_le_concat (items : List Item) (item : Item) :
    (Item.operands items).length ≤ (Item.operands (items ++ [item])).length := by
  rw [operands_concat]
  split
  · next hnone => simp [hnone]
  · simp

/-- Items are taken in exactly if there are not too many words among them, and what they ask for is
read off them. -/
theorem foldlM_takeItem_eq_ok_iff (items : List Item) (inv : Invocation) :
    items.foldlM takeItem empty = .ok inv ↔
      (Item.operands items).length ≤ 2 ∧ inv = ofItems items := by
  induction items using List.reverseRecOn generalizing inv with
  | nil => simp [Item.operands, Item.words, ofItems, empty, Item.roots, pure, Except.pure, eq_comm]
  | append_singleton items item ih =>
      rw [List.foldlM_append]
      by_cases hlength : (Item.operands items).length ≤ 2
      · rw [(ih (ofItems items)).2 ⟨hlength, rfl⟩, ← takeItem_ofItems hlength item]
        change ((ofItems items).takeItem item >>= pure) = .ok inv ↔ _
        rw [bind_pure]
      · cases hread : items.foldlM takeItem empty with
        | ok read => exact absurd ((ih read).1 hread).1 hlength
        | error error =>
            have hgrown := length_operands_le_concat items item
            constructor
            · intro hok
              cases hok
            · intro hok
              omega

theorem parse_written_eq_ok_iff (items : List Item) (inv : Invocation) :
    parse (Item.written items) = .ok inv ↔
      (Item.operands items).length ≤ 2 ∧ inv = ofItems items := by
  rw [parse, parseFrom_written, foldlM_takeItem_eq_ok_iff]

theorem ofItems_eq_of_perm (h : items.Perm others) (hwords : Item.words items = Item.words others)
    (hroots : Item.roots items = Item.roots others) : ofItems items = ofItems others := by
  rw [ofItems, ofItems, Item.operands, Item.operands, hwords, hroots, h.any_eq, h.any_eq]

/-- Arguments are accepted exactly if they are written items with at most two words among them, not
counting the empty ones in front. They ask for what the items ask for, and the first word that
counts is the command, without which the run explains the program. Items that are interleaved in
another way, with the words in the same order and the roots in the same order, are refused as well
or ask for the same. -/
theorem parse_accepts_written_items :
    (∀ arguments, (∃ inv, parse arguments = .ok inv) ↔
      ∃ items, arguments = Item.written items ∧ (Item.operands items).length ≤ 2) ∧
    (∀ items inv, parse (Item.written items) = .ok inv →
      inv = ofItems items ∧ inv.word = (Item.operands items).head?.getD "help") ∧
    ∀ items others : List Item, items.Perm others → Item.words items = Item.words others →
      Item.roots items = Item.roots others →
      (∃ error error', parse (Item.written items) = .error error ∧
        parse (Item.written others) = .error error') ∨
      ∃ inv, parse (Item.written items) = .ok inv ∧ parse (Item.written others) = .ok inv := by
  refine ⟨?_, ?_, ?_⟩
  · intro arguments
    constructor
    · intro haccepted
      obtain ⟨inv, hparse⟩ := haccepted
      obtain ⟨items, rfl⟩ := exists_written_of_parseFrom hparse
      exact ⟨items, rfl, ((parse_written_eq_ok_iff items inv).1 hparse).1⟩
    · intro hwritten
      obtain ⟨items, rfl, hlength⟩ := hwritten
      exact ⟨ofItems items, (parse_written_eq_ok_iff items _).2 ⟨hlength, rfl⟩⟩
  · intro items inv hparse
    have hitems := ((parse_written_eq_ok_iff items inv).1 hparse).2
    refine ⟨hitems, ?_⟩
    rw [hitems, List.head?_eq_getElem?]
    rfl
  · intro items others hperm hwords hroots
    have hsame (inv : Invocation) :
        parse (Item.written items) = .ok inv ↔ parse (Item.written others) = .ok inv := by
      rw [parse_written_eq_ok_iff, parse_written_eq_ok_iff,
        ofItems_eq_of_perm hperm hwords hroots, Item.operands, hwords, ← Item.operands]
    cases hread : parse (Item.written items) with
    | ok inv => exact .inr ⟨inv, rfl, (hsame inv).1 hread⟩
    | error error =>
        cases hother : parse (Item.written others) with
        | ok inv =>
            rw [(hsame inv).2 hother] at hread
            cases hread
        | error error' => exact .inl ⟨error, error', rfl, rfl⟩

/-- Items with a root that looks like a flag, with both spellings of a root, and with empty words
in front and behind. -/
def mixedItems : List Item :=
  [.word "" (by decide), .root "-v", .verbose true, .word "resolve" (by decide), .json,
    .joinedRoot "", .word "" (by decide), .verbose false]

/-- The same items in another order. -/
def remixedItems : List Item :=
  [.verbose false, .root "-v", .joinedRoot "", .word "" (by decide), .word "resolve" (by decide),
    .verbose true, .word "" (by decide), .json]

/-- The mixed items are accepted in both orders, and ask for the same. -/
theorem parse_remixedItems :
    mixedItems.Perm remixedItems ∧ Item.words mixedItems = Item.words remixedItems ∧
    Item.roots mixedItems = Item.roots remixedItems ∧
    (∃ items, ["", "--root", "-v", "--verbose", "resolve", "--json", "--root=", "", "-v"] =
      Item.written items ∧ (Item.operands items).length ≤ 2) ∧
    ∃ inv, parse (Item.written mixedItems) = .ok inv ∧
      parse (Item.written remixedItems) = .ok inv ∧
      inv = ⟨some "resolve", some "", ["-v", ""], true, true⟩ ∧ inv.word = "resolve" := by
  have hperm : mixedItems.Perm remixedItems := by decide
  have hwords : Item.words mixedItems = Item.words remixedItems := by decide
  have hroots : Item.roots mixedItems = Item.roots remixedItems := by decide
  have hread : parse (Item.written mixedItems) =
      .ok ⟨some "resolve", some "", ["-v", ""], true, true⟩ := by decide +kernel
  obtain ⟨haccepts, hasks, hmixed⟩ := parse_accepts_written_items
  refine ⟨hperm, hwords, hroots, (haccepts _).1 ⟨_, hread⟩, ?_⟩
  cases hmixed mixedItems remixedItems hperm hwords hroots with
  | inl hrefused =>
      obtain ⟨error, _, herror, _⟩ := hrefused
      rw [hread] at herror
      cases herror
  | inr haccepted =>
      obtain ⟨inv, hinv, hother⟩ := haccepted
      obtain rfl := Except.ok.inj (hinv.symm.trans hread)
      exact ⟨_, hinv, hother, rfl, (hasks mixedItems _ hinv).2⟩

end Invocation

end HeaderSearch.CommandLine
