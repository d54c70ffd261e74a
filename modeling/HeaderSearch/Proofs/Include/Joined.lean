/-
# Directives of joined texts

Texts are cut into lines before anything in them is read, and each line is read on its own. So a
line feed between two texts keeps them apart, whatever bytes stand before and behind it: a character
that is cut off at the end of the one is not completed by the other, and a directive that begins in
the one does not go on in the other. The directives of texts with a line feed in front of each are
therefore those of the first text, then those of the second, and so on.
-/

import HeaderSearch.Proofs.Include.Lines

namespace HeaderSearch.Include

theorem trimmedLines_append_lineFeed (front back : List UInt8) :
    trimmedLines (front ++ lineFeed :: back) = trimmedLines front ++ trimmedLines back := by
  simp only [trimmedLines, lines_eq_splitOn, List.splitOn_append_cons_self, List.map_append]

/-- A line feed between two texts keeps their directives apart. -/
theorem directives_append_lineFeed (front back : List UInt8) :
    directives (front ++ lineFeed :: back) = directives front ++ directives back := by
  rw [directives, trimmedLines_append_lineFeed, List.filter_append, List.map_append]
  rfl

/-- The directives of texts with a line feed between any two are those of the single texts. -/
theorem directives_intercalate (texts : List (List UInt8)) :
    directives ([lineFeed].intercalate texts) = texts.flatMap directives := by
  induction texts with
  | nil => rfl
  | cons text rest ih =>
      cases rest with
      | nil => simp
      | cons second rest =>
          rw [List.intercalate_cons_cons, List.append_assoc, List.singleton_append,
            directives_append_lineFeed, ih]
          exact List.flatMap_cons.symm

/-- The texts behind one another, each with a line feed in front. -/
def joined (texts : List (List UInt8)) : List UInt8 := texts.flatMap (lineFeed :: ·)

theorem directives_append_joined (front : List UInt8) (texts : List (List UInt8)) :
    directives (front ++ joined texts) = directives front ++ texts.flatMap directives := by
  induction texts generalizing front with
  | nil => simp [joined]
  | cons text rest ih =>
      calc
        directives (front ++ joined (text :: rest)) =
            directives (front ++ lineFeed :: (text ++ joined rest)) := rfl
        _ = directives front ++ (directives text ++ rest.flatMap directives) := by
          rw [directives_append_lineFeed, ih]

/-- Joining creates no directive, loses none and alters none. -/
theorem directives_joined (texts : List (List UInt8)) :
    directives (joined texts) = texts.flatMap directives :=
  directives_append_joined [] texts

/-- The short names in a text are those of its directives. -/
theorem mem_shortNames {bytes : List UInt8} {name : String} :
    name ∈ shortNames bytes ↔ ∃ line ∈ directives bytes, shortName line = name := by
  rw [shortNames, IncludeNames.mem_ofList, List.mem_map]

/-- The short names in joined texts are those of the single texts. -/
theorem mem_shortNames_joined {texts : List (List UInt8)} {name : String} :
    name ∈ shortNames (joined texts) ↔ ∃ text ∈ texts, name ∈ shortNames text := by
  simp only [mem_shortNames, directives_joined, List.mem_flatMap]
  constructor
  · rintro ⟨line, ⟨text, htext, hline⟩, hname⟩
    exact ⟨text, htext, line, hline, hname⟩
  · rintro ⟨text, htext, line, hline, hname⟩
    exact ⟨line, ⟨text, htext, hline⟩, hname⟩

theorem needsThreads_iff {names : IncludeNames} :
    needsThreads names = true ↔ ∃ header ∈ threadHeaders, header ∈ names := by
  simp [needsThreads]

/-- Joined texts need the thread libraries exactly if one of them does. -/
theorem needsThreads_joined_iff {texts : List (List UInt8)} :
    needsThreads (shortNames (joined texts)) = true ↔
      ∃ text ∈ texts, needsThreads (shortNames text) = true := by
  simp only [needsThreads_iff, mem_shortNames_joined]
  constructor
  · rintro ⟨header, hheader, text, htext, hmem⟩
    exact ⟨text, htext, header, hheader, hmem⟩
  · rintro ⟨text, htext, header, hheader, hmem⟩
    exact ⟨header, hheader, text, htext, hmem⟩

end HeaderSearch.Include
