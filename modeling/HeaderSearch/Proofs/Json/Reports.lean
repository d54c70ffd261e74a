/-
# Reports lose nothing

The value of a report holds all that the report is made of: a path that is text can be read off this
text, a strategy off its word, and every member has its place. Since a value can be told from its
written form, so can a report, and two reports that differ anywhere are written differently.
Quotes, backslashes, control characters and letters beyond ASCII in names and paths change nothing
of this.
-/

import HeaderSearch.Proofs.Json.Delimited
import HeaderSearch.Proofs.Resolution.Readable

namespace HeaderSearch

open HeaderSearch.Json (Value)
open HeaderSearch.Path

/-! ## Values of paths, texts and strategies -/

theorem Json.ofPath_eq_str {p : Path} (h : p.text?.isSome) : ofPath p = .str p.display := by
  have htext : p.text? = some p.display := by
    rw [← ofString_display h, text?_ofString, ofString_display h]
  rw [ofPath, htext]

theorem Json.ofPath_inj {p q : Path} (hp : p.text?.isSome) (hq : q.text?.isSome)
    (h : ofPath p = ofPath q) : p = q := by
  rw [ofPath_eq_str hp, ofPath_eq_str hq] at h
  rw [← ofString_display hp, ← ofString_display hq, Value.str.inj h]

theorem Json.ofStrings_inj {texts others : List String} (h : ofStrings texts = ofStrings others) :
    texts = others :=
  List.map_injective_iff.2 (fun _ _ => Value.str.inj) (Value.arr.inj h)

theorem Strategy.word_inj {strategy other : Strategy} (h : strategy.word = other.word) :
    strategy = other := by
  cases strategy <;> cases other <;> first | rfl | exact absurd h (by decide)

theorem IncludeNames.toList_inj {names others : IncludeNames} (h : names.toList = others.toList) :
    names = others := by
  cases names
  cases others
  cases h
  rfl

/-! ## Values of resolutions -/

theorem Hit.toJson_inj {hit other : Hit} (h : hit.path.text?.isSome)
    (h' : other.path.text?.isSome) (heq : hit.toJson = other.toJson) : hit = other := by
  obtain ⟨path, strategy⟩ := hit
  obtain ⟨path', strategy'⟩ := other
  simp only [toJson, Value.obj.injEq, List.cons.injEq, Prod.mk.injEq, Value.str.injEq, true_and,
    and_true] at heq
  obtain rfl : path = path' := Json.ofPath_inj h h' heq.1
  obtain rfl : strategy = strategy' := Strategy.word_inj heq.2
  rfl

/-- The headers found are told from their members, name by name. -/
theorem Resolution.found_inj {found others : List (String × Hit)}
    (h : ∀ entry ∈ found, entry.2.path.text?.isSome)
    (h' : ∀ entry ∈ others, entry.2.path.text?.isSome)
    (heq : found.map (fun (name, hit) => (name, hit.toJson)) =
      others.map fun (name, hit) => (name, hit.toJson)) : found = others := by
  induction found generalizing others with
  | nil => exact (List.map_eq_nil_iff.1 heq.symm).symm
  | cons entry found ih =>
      cases others with
      | nil => cases heq
      | cons other others =>
          rw [List.forall_mem_cons] at h h'
          obtain ⟨hfirst, hrest⟩ := List.cons.inj heq
          obtain ⟨hname, hvalue⟩ := Prod.mk.inj hfirst
          rw [Prod.ext hname (Hit.toJson_inj h.1 h'.1 hvalue), ih h.2 h'.2 hrest]

theorem Resolution.toJson_inj {resolution other : Resolution}
    (h : ∀ entry ∈ resolution.found, entry.2.path.text?.isSome)
    (h' : ∀ entry ∈ other.found, entry.2.path.text?.isSome)
    (heq : resolution.toJson = other.toJson) : resolution = other := by
  obtain ⟨found, notFound⟩ := resolution
  obtain ⟨found', notFound'⟩ := other
  simp only [toJson, Value.obj.injEq, List.cons.injEq, Prod.mk.injEq, true_and, and_true] at heq
  obtain rfl : found = found' := found_inj h h' heq.1
  obtain rfl : notFound = notFound' := Json.ofStrings_inj heq.2
  rfl

namespace Report

variable {report other : Report} {version version' : Nat} {threads threads' : Bool}

/-- The project and every header found are at paths that are text. -/
structure IsText (report : Report) : Prop where
  project : report.project.text?.isSome
  found : ∀ entry ∈ report.resolution.found, entry.2.path.text?.isSome

theorem IsText.writable_form (h : report.IsText) : (report.form version threads).Writable :=
  Report.writable_form h.project h.found version threads

theorem form_inj (h : report.IsText) (h' : other.IsText)
    (heq : report.form version threads = other.form version' threads') :
    version = version' ∧ threads = threads' ∧ report = other := by
  obtain ⟨generatedAt, project, catalogSize, includes, resolution⟩ := report
  obtain ⟨generatedAt', project', catalogSize', includes', resolution'⟩ := other
  simp only [form, Value.obj.injEq, List.cons.injEq, Prod.mk.injEq, Value.num.injEq,
    Value.str.injEq, Value.bool.injEq, true_and, and_true] at heq
  obtain ⟨hversion, htime, hproject, hsize, hincludes, hresolution, hthreads⟩ := heq
  obtain rfl := Json.ofPath_inj h.project h'.project hproject
  obtain rfl := IncludeNames.toList_inj (Json.ofStrings_inj hincludes)
  obtain rfl := Resolution.toJson_inj h.found h'.found hresolution
  rw [htime, hsize]
  exact ⟨hversion, hthreads, rfl⟩

theorem form_text_eq_iff (h : report.IsText) (h' : other.IsText) (layout : Json.Layout) :
    ((report.form version threads).write layout).text =
        ((other.form version' threads').write layout).text ↔
      version = version' ∧ threads = threads' ∧ report = other := by
  constructor
  · intro htext
    exact form_inj h h' (h.writable_form.eq_of_text_write_eq h'.writable_form htext)
  · rintro ⟨rfl, rfl, rfl⟩
    rfl

/-- A report whose paths are text is written to its end, in one line and laid out over several
lines, and it can be told from either text: where two reports have the same text, they are of one
version, agree about threads, and have the same time, project, catalog size, names and resolution,
whatever characters are in the names and paths. -/
theorem form_loses_nothing (report other : Report) (version version' : Nat)
    (threads threads' : Bool) (h : report.IsText) (h' : other.IsText) :
    ∃ line line' page page' : String,
      (report.form version threads).compact = .ok line ∧
      (other.form version' threads').compact = .ok line' ∧
      (report.form version threads).pretty = .ok page ∧
      (other.form version' threads').pretty = .ok page' ∧
      (line = line' ∨ page = page' ↔ version = version' ∧ threads = threads' ∧ report = other) := by
  refine ⟨_, _, _, _, h.writable_form.complete_write .compact,
    h'.writable_form.complete_write .compact, h.writable_form.complete_write (.lines 0),
    h'.writable_form.complete_write (.lines 0), ?_⟩
  rw [form_text_eq_iff h h', form_text_eq_iff h h', or_self]

/-- A report on a project with one name that was not found, which holds what stands between two
texts in a list. The path of the header that was found has a quote, a backslash and a control
character. -/
def oneName : Report :=
  ⟨"now", ofString "p\u00E9", 2, .ofList ["a\", \"b", "x.h"],
    ⟨[("x.h", ⟨ofString "/\"\\\x01/x.h", .fuzzy⟩)], ["a\", \"b"]⟩⟩

/-- The same report with two names that were not found. -/
def twoNames : Report :=
  ⟨"now", ofString "p\u00E9", 2, .ofList ["a", "b", "x.h"],
    ⟨[("x.h", ⟨ofString "/\"\\\x01/x.h", .fuzzy⟩)], ["a", "b"]⟩⟩

/-- The quotes of the name are escaped, so the two reports are told apart. -/
theorem form_oneName_ne_form_twoNames :
    oneName.IsText ∧ twoNames.IsText ∧ oneName ≠ twoNames ∧
    ∃ line line' page page' : String,
      (oneName.form 1 false).compact = .ok line ∧ (twoNames.form 1 false).compact = .ok line' ∧
      (oneName.form 1 false).pretty = .ok page ∧ (twoNames.form 1 false).pretty = .ok page' ∧
      line ≠ line' ∧ page ≠ page' := by
  have hone : oneName.IsText := ⟨by decide +kernel, by decide +kernel⟩
  have htwo : twoNames.IsText := ⟨by decide +kernel, by decide +kernel⟩
  have hne : oneName ≠ twoNames := by
    intro h
    have hnames : ["a\", \"b"] = ["a", "b"] := congrArg (fun report => report.resolution.notFound) h
    exact absurd hnames (by decide)
  obtain ⟨line, line', page, page', hline, hline', hpage, hpage', heq⟩ :=
    form_loses_nothing oneName twoNames 1 1 false false hone htwo
  have hdiffer : ¬ (line = line' ∨ page = page') := fun h => hne (heq.1 h).2.2
  rw [not_or] at hdiffer
  exact ⟨hone, htwo, hne, line, line', page, page', hline, hline', hpage, hpage', hdiffer⟩

end Report

end HeaderSearch
