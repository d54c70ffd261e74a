/-
# Where an extension starts, and what it says

A name has an extension exactly if it can be cut at a `.` with something in front of it and no other
`.` behind it; a hidden file whose only `.` comes first has none, and neither has `..`. What stands
behind the `.` are bytes. To be recognised they have to say a word, and they do only if they are
text and the text is the word with some of its letters in upper case.
-/

import HeaderSearch.Proofs.Text.Lowered
import Mathlib.Data.List.TakeWhile

namespace HeaderSearch

theorem Name.extension?_eq_some_iff {name : Name} {ext : List UInt8} :
    name.extension? = some ext ↔
      ∃ stem, stem ≠ [] ∧ name = stem ++ dot :: ext ∧ dot ∉ ext := by
  unfold Name.extension?
  dsimp only
  constructor
  · intro h
    have hsplit := List.takeWhile_append_dropWhile (p := (· ≠ dot)) (l := name.reverse)
    split at h
    · next d x more hdrop =>
      cases h
      have hdot : d = dot := by
        have hhead := List.head?_dropWhile_not (· ≠ dot) name.reverse
        rw [hdrop] at hhead
        simpa using hhead
      rw [hdrop, hdot] at hsplit
      refine ⟨(x :: more).reverse, by simp, ?_, ?_⟩
      · calc
          name = (name.reverse.takeWhile (· ≠ dot) ++ dot :: x :: more).reverse := by
            rw [hsplit, List.reverse_reverse]
          _ = (x :: more).reverse ++ dot :: (name.reverse.takeWhile (· ≠ dot)).reverse := by
            simp
      · intro hmem
        rw [List.mem_reverse] at hmem
        simpa using List.mem_takeWhile_imp hmem
    · cases h
  · rintro ⟨stem, hstem, rfl, hext⟩
    have hplain : ∀ b ∈ ext.reverse, decide (b ≠ dot) = true := by
      intro b hb
      rw [decide_eq_true_eq]
      rintro rfl
      exact hext (List.mem_reverse.1 hb)
    obtain ⟨x, more, hmore⟩ := List.exists_cons_of_ne_nil (List.reverse_ne_nil_iff.2 hstem)
    rw [List.reverse_append, List.reverse_cons, List.append_assoc, List.singleton_append, hmore,
      List.dropWhile_append_of_pos hplain, List.takeWhile_append_of_pos hplain]
    simp

namespace Path

theorem extension?_eq_some_iff {p : Path} {ext : List UInt8} :
    p.extension? = some ext ↔
      ∃ stem, stem ≠ [] ∧ p.fileName? = some (stem ++ dot :: ext) ∧ dot ∉ ext := by
  simp only [extension?, Option.bind_eq_some_iff, Name.extension?_eq_some_iff]
  constructor
  · rintro ⟨name, hname, stem, hstem, rfl, hext⟩
    exact ⟨stem, hstem, hname, hext⟩
  · rintro ⟨stem, hstem, hname, hext⟩
    exact ⟨_, hname, stem, hstem, rfl, hext⟩

/-- The path ends in the name of a file, something stands in front of the last `.` of that name, and
what stands behind it can be read as text and is one of the words, up to the case of letters. -/
def EndsInWord (p : Path) (words : List String) : Prop :=
  ∃ stem ext text, stem ≠ [] ∧ p.fileName? = some (stem ++ dot :: ext) ∧ dot ∉ ext ∧
    Utf8.text? ext = some text ∧ text.toLower ∈ words

/-- Words in ASCII may be looked for among the bytes of the extension. -/
theorem endsInWord_iff {p : Path} {words : List String}
    (hwords : ∀ word ∈ words, ∀ b ∈ Utf8.encode word, b < 0x80) :
    p.EndsInWord words ↔
      ∃ ext, p.extension? = some ext ∧ ext.map lowerByte ∈ words.map Utf8.encode := by
  simp only [extension?_eq_some_iff, List.mem_map]
  constructor
  · rintro ⟨stem, ext, text, hstem, hname, hext, htext, hword⟩
    refine ⟨ext, ⟨stem, hstem, hname, hext⟩, text.toLower, hword, ?_⟩
    exact ((Utf8.map_lowerByte_eq_encode_iff (hwords _ hword)).2 ⟨text, htext, rfl⟩).symm
  · rintro ⟨ext, ⟨stem, hstem, hname, hext⟩, word, hword, hbytes⟩
    obtain ⟨text, htext, rfl⟩ :=
      (Utf8.map_lowerByte_eq_encode_iff (hwords word hword)).1 hbytes.symm
    exact ⟨stem, ext, text, hstem, hname, hext, htext, hword⟩

end Path

end HeaderSearch
