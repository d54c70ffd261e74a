/-
# Lines as slices

A text is cut into lines by positions: each line feed ends a line, the next line starts behind it,
and the end of the text ends the last one. The ends ascend and none lies behind the end of the text,
so all slices lie within the text, and together they are the text cut at its line feeds. A text that
ends in a line feed has an empty line behind it, and the empty text is one empty line.

The lines are bytes, and each is read as text on its own. That comes to the same as reading the
whole text and cutting it into lines then: a line feed is a character wherever it stands, also
behind a character that was cut off, and nothing else is read as one.
-/

import HeaderSearch.Include.Directive
import HeaderSearch.Proofs.Text.Replaced

namespace HeaderSearch.Include

variable {bytes : List UInt8} {size start : Nat} {stops : List Nat}

/-! ## Where lines end -/

theorem lineFeeds_eq_idxsOf (position : Nat) (bytes : List UInt8) :
    lineFeeds position bytes = bytes.idxsOf lineFeed position := by
  induction bytes generalizing position with
  | nil => rfl
  | cons byte rest ih => simp [lineFeeds, List.idxsOf_cons, ih]

theorem lineFeeds_append (position : Nat) (front back : List UInt8) :
    lineFeeds position (front ++ back) =
      lineFeeds position front ++ lineFeeds (position + front.length) back := by
  simp only [lineFeeds_eq_idxsOf, List.idxsOf_append]

theorem lineFeeds_of_notMem {line : List UInt8} (h : lineFeed ∉ line) (position : Nat) :
    lineFeeds position line = [] := by
  rw [lineFeeds_eq_idxsOf, List.idxsOf_eq_nil_iff]
  intro byte hbyte
  rw [beq_eq_false_iff_ne]
  rintro rfl
  exact h hbyte

theorem lt_of_mem_lineFeeds {stop : Nat} (h : stop ∈ lineFeeds 0 bytes) : stop < bytes.length := by
  rw [lineFeeds_eq_idxsOf] at h
  exact List.lt_add_of_mem_idxsOf stop h

/-- No line ends behind the end of the text. -/
theorem le_of_mem_lineEnds {stop : Nat} (h : stop ∈ lineEnds bytes) : stop ≤ bytes.length := by
  rcases List.mem_append.1 h with h | h
  · exact Nat.le_of_lt (lt_of_mem_lineFeeds h)
  · exact Nat.le_of_eq (List.mem_singleton.1 h)

/-- The ends of lines ascend. -/
theorem pairwise_lineEnds (bytes : List UInt8) : (lineEnds bytes).Pairwise (· < ·) := by
  rw [lineEnds, List.pairwise_append]
  refine ⟨?_, List.pairwise_singleton _ _, ?_⟩
  · rw [lineFeeds_eq_idxsOf]
    exact List.pairwise_idxsOf
  · intro stop hstop last hlast
    rw [List.mem_singleton.1 hlast]
    exact lt_of_mem_lineFeeds hstop

/-! ## Within the text -/

/-- If the ends ascend from the start on and stay within the text, no line starts behind its end,
and none ends behind the end of the text. -/
theorem mem_boundsFrom (hascend : stops.Pairwise (· < ·)) (hstart : ∀ stop ∈ stops, start ≤ stop)
    (hsize : ∀ stop ∈ stops, stop ≤ size) :
    ∀ bound ∈ boundsFrom size start stops, bound.1 ≤ bound.2 ∧ bound.2 ≤ size := by
  induction stops generalizing start with
  | nil => nofun
  | cons stop stops ih =>
      obtain ⟨hlater, hascend⟩ := List.pairwise_cons.1 hascend
      obtain ⟨hfirst, -⟩ := List.forall_mem_cons.1 hstart
      obtain ⟨hwithin, hsize⟩ := List.forall_mem_cons.1 hsize
      refine List.forall_mem_cons.2 ⟨⟨hfirst, hwithin⟩, ih hascend (fun later hmem => ?_) hsize⟩
      exact Nat.le_trans (Nat.min_le_left _ _) (hlater later hmem)

theorem mem_lineBounds : ∀ bound ∈ lineBounds bytes, bound.1 ≤ bound.2 ∧ bound.2 ≤ bytes.length :=
  mem_boundsFrom (pairwise_lineEnds bytes) (fun _ _ => Nat.zero_le _) fun _ => le_of_mem_lineEnds

/-! ## The lines themselves -/

theorem extract_append_append (front line back : List UInt8) :
    (front ++ (line ++ back)).extract front.length (front.length + line.length) = line := by
  simp

/-- Behind any front, the slices are the lines that are joined there by line feeds. -/
theorem map_boundsFrom_intercalate (front : List UInt8) {lines : List (List UInt8)}
    (hne : lines ≠ []) (hplain : ∀ line ∈ lines, lineFeed ∉ line)
    (h : bytes = front ++ [lineFeed].intercalate lines) :
    ((boundsFrom bytes.length front.length
      (lineFeeds front.length ([lineFeed].intercalate lines) ++ [bytes.length])).map
        fun (start, stop) => bytes.extract start stop) = lines := by
  induction lines generalizing front with
  | nil => exact absurd rfl hne
  | cons line rest ih =>
      obtain ⟨hline, hrest⟩ := List.forall_mem_cons.1 hplain
      cases rest with
      | nil =>
          rw [List.intercalate_singleton] at h ⊢
          rw [lineFeeds_of_notMem hline, h]
          simp [boundsFrom]
      | cons second rest =>
          have hsplit : [lineFeed].intercalate (line :: second :: rest) =
              line ++ lineFeed :: [lineFeed].intercalate (second :: rest) := by
            simp [List.intercalate_cons_cons]
          rw [hsplit] at h ⊢
          have hfront : bytes = (front ++ line ++ [lineFeed]) ++
              [lineFeed].intercalate (second :: rest) := by simp [h]
          have hnext : min (front.length + line.length + 1) bytes.length =
              (front ++ line ++ [lineFeed]).length := by
            rw [hfront, List.length_append, List.length_append, List.length_append]
            exact Nat.min_eq_left (Nat.le_add_right _ _)
          have hfeeds : lineFeeds front.length
              (line ++ lineFeed :: [lineFeed].intercalate (second :: rest)) =
                (front.length + line.length) :: lineFeeds (front ++ line ++ [lineFeed]).length
                  ([lineFeed].intercalate (second :: rest)) := by
            rw [lineFeeds_append, lineFeeds_of_notMem hline]
            simp [lineFeeds, Nat.add_assoc]
          rw [hfeeds, List.cons_append, boundsFrom, hnext, List.map_cons,
            ih (front ++ line ++ [lineFeed]) (by simp) hrest hfront, h]
          congr 1
          exact extract_append_append front line _

/-- The slices are the text cut at its line feeds. -/
theorem lines_eq_splitOn (bytes : List UInt8) : lines bytes = bytes.splitOn lineFeed := by
  have hjoined : [lineFeed].intercalate (bytes.splitOn lineFeed) = bytes :=
    List.intercalate_splitOn lineFeed
  have hlines := map_boundsFrom_intercalate [] (List.splitOn_ne_nil lineFeed bytes)
    (fun _ hline => notMem_of_mem_splitOn hline) hjoined.symm
  rwa [hjoined] at hlines

theorem trimmedLines_of_line {line : List UInt8} (h : lineFeed ∉ line) :
    trimmedLines line = [Text.trim (Utf8.lossyChars line)] := by
  have hsplit : ([lineFeed].intercalate [line]).splitOn lineFeed = [line] :=
    List.splitOn_intercalate lineFeed (by simpa using h) (by simp)
  rw [List.intercalate_singleton] at hsplit
  rw [trimmedLines, lines_eq_splitOn, hsplit]
  rfl

/-- The lines read as text are the lines of the text that is read. -/
theorem map_lossyChars_lines (bytes : List UInt8) :
    (lines bytes).map Utf8.lossyChars = (Utf8.lossy bytes).toList.splitOn '\n' := by
  rw [lines_eq_splitOn, Utf8.toList_lossy]
  exact (Utf8.splitOn_lossyChars (by decide) bytes).symm

/-- Of a byte text there is one reading in which everything that is not text is replaced. The
directives of the bytes are those of that reading, cut into lines and trimmed, and no slice on the
way to them leaves the bytes. -/
theorem directives_eq_of_lossy (bytes : List UInt8) :
    (∀ text, Utf8.Replaces bytes text ↔ text = (Utf8.lossy bytes).toList) ∧
      directives bytes = ((((Utf8.lossy bytes).toList.splitOn '\n').map Text.trim).filter
        directive.isPrefixOf).map String.ofList ∧
      ∀ bound ∈ lineBounds bytes, bound.1 ≤ bound.2 ∧ bound.2 ≤ bytes.length := by
  refine ⟨fun text => ?_, ?_, mem_lineBounds⟩
  · rw [Utf8.toList_lossy]
    exact Utf8.replaces_iff
  · rw [directives, trimmedLines, ← map_lossyChars_lines, List.map_map]
    rfl

/-- The last byte of the first line begins a character, and the line feed does not go on with it. -/
example : directives ([0x23, 0x69, 0x6E, 0x63, 0x6C, 0x75, 0x64, 0x65, 0xE2] ++ [lineFeed]) =
    ["#include\uFFFD"] := by decide +kernel

end HeaderSearch.Include
