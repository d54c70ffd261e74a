/-
# Layout

How the lines of a source are indented, and what blanks stand behind them, does not count: every
line is trimmed before anything in it is looked at. Blanks are characters and lines are bytes, which
need not be text, and a line may even stop in the middle of a character. No blank goes on with such
a character, since none begins with a byte that could, and behind a blank reading begins anew. So
the blanks around a line are read as blanks, whatever bytes the line begins and ends with, and are
trimmed off with its own. Turning line feeds into pairs of carriage return and line feed is one such
change.
-/

import HeaderSearch.Proofs.Include.Joined
import HeaderSearch.Proofs.Text.Trimmed
import Mathlib.Data.List.Forall2

namespace HeaderSearch.Include

variable {line spaced : List UInt8} {text : List Char}

/-! ## Spacing within a line -/

/-- Blanks that do not end the line. -/
def IsSpacing (text : List Char) : Prop := ∀ c ∈ text, Text.isBlank c = true ∧ c ≠ '\n'

instance (text : List Char) : Decidable (IsSpacing text) :=
  List.decidableBAll (fun c => Text.isBlank c = true ∧ c ≠ '\n') text

theorem IsSpacing.blanks (h : IsSpacing text) : ∀ c ∈ text, Text.isBlank c = true :=
  fun c hc => (h c hc).1

theorem IsSpacing.oneLine (h : IsSpacing text) : '\n' ∉ text := fun hmem => (h _ hmem).2 rfl

/-- A text has a line feed exactly if its bytes do. -/
theorem lineFeed_mem_encodeChars_iff : lineFeed ∈ Utf8.encodeChars text ↔ '\n' ∈ text := by
  have h : '\n' ∈ Utf8.lossyChars (Utf8.encodeChars text) ↔ lineFeed ∈ Utf8.encodeChars text :=
    @Utf8.char_mem_lossyChars_iff (Utf8.encodeChars text) lineFeed (by decide)
  rw [Utf8.lossyChars_encodeChars] at h
  exact h.symm

/-- The second line is the first one with spacing put before and behind it. -/
def Spaced (line spaced : List UInt8) : Prop :=
  lineFeed ∉ line ∧ ∃ before after, IsSpacing before ∧ IsSpacing after ∧
    spaced = Utf8.encodeChars before ++ line ++ Utf8.encodeChars after

/-! ## Lines and texts with spacing -/

/-- Spacing is trimmed off with the blanks of the line itself, even if the line is not text. -/
theorem trim_lossyChars_of_spaced (h : Spaced line spaced) :
    Text.trim (Utf8.lossyChars spaced) = Text.trim (Utf8.lossyChars line) := by
  obtain ⟨-, before, after, hbefore, hafter, rfl⟩ := h
  rw [Utf8.lossyChars_encodeChars_around, Text.trim_append_blanks hafter.blanks,
    Text.trim_blanks_append hbefore.blanks]

theorem lineFeed_notMem_of_spaced (h : Spaced line spaced) : lineFeed ∉ spaced := by
  obtain ⟨hline, before, after, hbefore, hafter, rfl⟩ := h
  simp only [List.mem_append, lineFeed_mem_encodeChars_iff, not_or]
  exact ⟨⟨hbefore.oneLine, hline⟩, hafter.oneLine⟩

/-- A line has the same directive, or none, with spacing around it. -/
theorem directives_of_spaced (h : Spaced line spaced) : directives spaced = directives line := by
  rw [directives, trimmedLines_of_line (lineFeed_notMem_of_spaced h), trim_lossyChars_of_spaced h,
    directives, trimmedLines_of_line h.1]

/-- Spacing around the lines of a text changes nothing that is read from it: neither its directives
and their order, nor the short names, nor whether it needs the thread libraries. -/
theorem directives_eq_of_spaced {lines spacedLines : List (List UInt8)}
    (h : List.Forall₂ Spaced lines spacedLines) :
    directives ([lineFeed].intercalate spacedLines) = directives ([lineFeed].intercalate lines) ∧
      shortNames ([lineFeed].intercalate spacedLines) =
        shortNames ([lineFeed].intercalate lines) ∧
      needsThreads (shortNames ([lineFeed].intercalate spacedLines)) =
        needsThreads (shortNames ([lineFeed].intercalate lines)) := by
  have hdirectives : directives ([lineFeed].intercalate spacedLines) =
      directives ([lineFeed].intercalate lines) := by
    rw [directives_intercalate, directives_intercalate]
    induction h with
    | nil => rfl
    | cons hline _ ih => rw [List.flatMap_cons, List.flatMap_cons, directives_of_spaced hline, ih]
  have hnames : shortNames ([lineFeed].intercalate spacedLines) =
      shortNames ([lineFeed].intercalate lines) := by
    rw [shortNames, hdirectives, shortNames]
  exact ⟨hdirectives, hnames, by rw [hnames]⟩

/-- Two lines, the first of which stops in the middle of a character. -/
def cutLines : List (List UInt8) :=
  [Utf8.encode "#include <a.h>" ++ [0xE2, 0x80], Utf8.encode "#include <mutex>"]

/-- The same lines, indented and with blanks behind them. The first byte of the em space behind the
first line is the byte with which the unfinished character there began. -/
def spacedCutLines : List (List UInt8) :=
  [Utf8.encode "\t" ++ (Utf8.encode "#include <a.h>" ++ [0xE2, 0x80]) ++ Utf8.encode "\u2003",
    Utf8.encode "" ++ Utf8.encode "#include <mutex>" ++ Utf8.encode "\r"]

/-- The unfinished character stays unfinished, and all else is trimmed. -/
theorem spacedCutLines_read_alike :
    List.Forall₂ Spaced cutLines spacedCutLines ∧
      directives ([lineFeed].intercalate cutLines) =
        ["#include <a.h>\uFFFD", "#include <mutex>"] ∧
      directives ([lineFeed].intercalate spacedCutLines) =
        directives ([lineFeed].intercalate cutLines) ∧
      shortNames ([lineFeed].intercalate spacedCutLines) =
        shortNames ([lineFeed].intercalate cutLines) ∧
      needsThreads (shortNames ([lineFeed].intercalate spacedCutLines)) =
        needsThreads (shortNames ([lineFeed].intercalate cutLines)) := by
  have hspaced : List.Forall₂ Spaced cutLines spacedCutLines :=
    .cons ⟨by decide, "\t".toList, "\u2003".toList, by decide, by decide, rfl⟩
      (.cons ⟨by decide, "".toList, "\r".toList, by decide, by decide, rfl⟩ .nil)
  exact ⟨hspaced, by decide +kernel, directives_eq_of_spaced hspaced⟩

end HeaderSearch.Include
