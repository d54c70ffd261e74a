/-
# Cleaning in several steps

A cleaned path is a text again, and more can be joined below it. What is found there is what would
have been found by joining everything at once: the text of the intermediate path is read as the
components that cleaning had arrived at, and cleaning goes on from there. The text `.`, which is
written where nothing is left, is read as a component of its own, but as one that cleaning drops.

So include paths act on directories, a separator between two of them composes them, and it does not
matter in how many steps the path of a candidate is put together.
-/

import HeaderSearch.Proofs.Path.Cleaning
import HeaderSearch.Proofs.Text.Encoding
import HeaderSearch.Settings

namespace HeaderSearch

namespace Path

theorem ofString_append_slash (front back : String) :
    ofString (front ++ "/" ++ back) =
      ⟨(ofString front).bytes ++ slash :: (ofString back).bytes⟩ := by
  have hslash : Utf8.encodeChars "/".toList = [slash] := by decide
  rw [ofString, Utf8.encode, String.toList_append, String.toList_append, Utf8.encodeChars_append,
    Utf8.encodeChars_append, hslash, List.append_assoc]
  rfl

/-- Below a cleaned path, cleaning goes on as if it had not stopped there. -/
theorem cleanJoinComponents_cleanJoin (dir front back : Path) :
    cleanJoinComponents (dir.cleanJoin front) back =
      clean (dir.components ++ (innerComponents front.bytes ++ innerComponents back.bytes)) := by
  calc
    cleanJoinComponents (dir.cleanJoin front) back =
        clean ((dir.cleanJoin front).components ++ innerComponents back.bytes) :=
      cleanJoinComponents_eq _ back
    _ = ((innerComponents back.bytes).foldl cleanPush
          (cleanJoinComponents dir front).reverse).reverse := by
      rw [clean_append, clean_components_cleanJoin]
    _ = clean (dir.components ++ (innerComponents front.bytes ++ innerComponents back.bytes)) := by
      rw [cleanJoinComponents_eq, ← clean_append, List.append_assoc]

/-- Joining in two steps is joining once, with a separator between the two parts. -/
theorem cleanJoin_cleanJoin (dir front back : Path) :
    (dir.cleanJoin front).cleanJoin back =
      dir.cleanJoin ⟨front.bytes ++ slash :: back.bytes⟩ := by
  apply cleanJoin_eq_of_components_eq
  rw [cleanJoinComponents_cleanJoin, cleanJoinComponents_eq, innerComponents_append_slash]

/-- A separator in front of what is joined makes no difference. -/
theorem cleanJoin_slash_cons (dir : Path) (bytes : List UInt8) :
    dir.cleanJoin ⟨slash :: bytes⟩ = dir.cleanJoin ⟨bytes⟩ := by
  apply cleanJoin_eq_of_components_eq
  rw [cleanJoinComponents_eq, cleanJoinComponents_eq, ← List.nil_append (slash :: bytes),
    innerComponents_append_slash]
  rfl

/-- A relative directory may be cleaned below its base before anything is joined below it. -/
theorem cleanJoin_join (base sub rest : Path) :
    (base.join sub).cleanJoin rest =
      (if sub.isAbsolute then sub else base.cleanJoin sub).cleanJoin rest := by
  split
  · next habs => rw [join, habs, Bool.true_or, if_pos rfl]
  · next habs =>
    apply cleanJoin_eq_of_components_eq
    rw [cleanJoinComponents_cleanJoin, cleanJoinComponents_eq]
    by_cases hbase : base.bytes = []
    · have hjoin : base.join sub = sub := by rw [join, if_pos (by simp [hbase])]
      have hempty : base.components = [] := bytes_eq_nil_iff.1 hbase
      rw [hjoin, hempty, components_eq_lead_append, lead, if_neg habs, List.append_assoc]
      -- A `.` at the front of the directory counts only if there is no base.
      split
      · exact clean_append_here [] _
      · rfl
    · rw [join, if_neg (by simp [habs, hbase]), components_child hbase, List.append_assoc]

end Path

open HeaderSearch.Path

/-- Includes act on directories. Joining one and then another is joining both at once, with a
separator between them; so cleaning once more changes nothing, a separator in front makes no
difference, and the path of a local candidate may be put together in one step or in several. The
paths are the same as texts. -/
theorem Path.cleanJoin_in_steps (dir : Path) (front back : String) :
    (dir.cleanJoin (ofString front)).cleanJoin (ofString back) =
        dir.cleanJoin (ofString (front ++ "/" ++ back)) ∧
      (dir.cleanJoin (ofString "")).cleanJoin (ofString "") = dir.cleanJoin (ofString "") ∧
      dir.cleanJoin (ofString ("/" ++ front)) = dir.cleanJoin (ofString front) ∧
      ∀ places : LocalDirs, places.candidates (front ++ "/" ++ back) =
        places.dirs.map fun sub =>
          ((if sub.isAbsolute then sub else places.base.cleanJoin sub).cleanJoin
            (ofString front)).cleanJoin (ofString back) := by
  have hslash (dir : Path) (name : String) :
      dir.cleanJoin (ofString ("/" ++ name)) = dir.cleanJoin (ofString name) := by
    have hfront := ofString_append_slash "" name
    rw [String.empty_append] at hfront
    rw [hfront]
    exact cleanJoin_slash_cons dir (ofString name).bytes
  have htwice (dir : Path) (front back : String) :
      (dir.cleanJoin (ofString front)).cleanJoin (ofString back) =
        dir.cleanJoin (ofString (front ++ "/" ++ back)) := by
    rw [cleanJoin_cleanJoin, ofString_append_slash]
  refine ⟨htwice dir front back, ?_, hslash dir front, fun places => ?_⟩
  · rw [htwice]
    exact hslash dir ""
  · rw [LocalDirs.candidates]
    apply List.map_congr_left
    intro sub _
    rw [htwice, cleanJoin_join]

end HeaderSearch
