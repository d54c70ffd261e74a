/-
# Reading arguments piece by piece

Arguments are read from left to right in units: a `--root` with the argument behind it, or any other
argument alone. What was read before a unit only matters through the invocation that it has led to.
So a list of arguments can be read in two parts, wherever it is parted, as long as this is not
between a `--root` and its directory.

The flags that make a run verbose are units that can be read earlier or later: all else is read in
the same way, and refused for the same reason.
-/

import HeaderSearch.CommandLine.Arguments

namespace HeaderSearch.CommandLine.Invocation

variable {inv : Invocation} {arguments before after rest : List String} {argument flag : String}

/-! ## Units -/

/-- Take in an argument that does not need another one behind it. -/
def takeIn (inv : Invocation) (argument : String) : Except ArgumentError Invocation :=
  if argument = "-v" ∨ argument = "--verbose" then .ok { inv with verbose := true }
  else if argument = "--json" then .ok { inv with json := true }
  else match behind? "--root=" argument with
    | some dir => .ok { inv with roots := inv.roots ++ [dir] }
    | none =>
      if (behind? "-" argument).isSome then .error (.unknownFlag argument)
      else inv.addWord argument

theorem parseFrom_cons (h : argument ≠ "--root") (inv : Invocation) (rest : List String) :
    inv.parseFrom (argument :: rest) = (inv.takeIn argument).bind (·.parseFrom rest) := by
  rw [parseFrom.eq_def, takeIn]
  dsimp only
  rw [if_neg h]
  split
  · rfl
  · split
    · rfl
    · cases behind? "--root=" argument with
      | some dir => rfl
      | none =>
          dsimp only
          split
          · rfl
          · cases inv.addWord argument <;> rfl

/-- An argument that is refused on its own is named in the error. -/
theorem error_of_takeIn {error : ArgumentError} (h : inv.takeIn argument = .error error) :
    error = .unknownFlag argument ∨ error = .unexpected argument := by
  have hword (h : inv.addWord argument = .error error) : error = .unexpected argument := by
    unfold addWord at h
    split at h <;> cases h
    rfl
  unfold takeIn at h
  split at h
  · cases h
  · split at h
    · cases h
    · split at h
      · cases h
      · split at h
        · exact .inl (Except.error.inj h).symm
        · exact .inr (hword h)

/-- Arguments are units behind one another, except that a `--root` may be left at the end. -/
theorem unit_induction {motive : List String → Prop} (nil : motive [])
    (bareRoot : motive ["--root"])
    (root : ∀ dir rest, motive rest → motive ("--root" :: dir :: rest))
    (single : ∀ argument rest, argument ≠ "--root" → motive rest → motive (argument :: rest)) :
    ∀ arguments, motive arguments
  | [] => nil
  | [argument] =>
    if h : argument = "--root" then h ▸ bareRoot else single argument [] h nil
  | argument :: dir :: rest =>
    if h : argument = "--root" then
      h ▸ root dir rest (unit_induction nil bareRoot root single rest)
    else single argument (dir :: rest) h (unit_induction nil bareRoot root single (dir :: rest))

/-! ## Two parts -/

/-- Arguments are read in two parts, unless the first ends before the directory of a `--root`. -/
theorem parseFrom_append (inv : Invocation) (before after : List String)
    (h : inv.parseFrom before ≠ .error .rootWithoutDirectory) :
    inv.parseFrom (before ++ after) = (inv.parseFrom before).bind (·.parseFrom after) := by
  -- Over units and not over single arguments: what stands behind a `--root` is not read by itself.
  induction before using unit_induction generalizing inv with
  | nil => rfl
  | bareRoot => exact absurd rfl h
  | root dir rest ih => exact ih _ h
  | single argument rest hargument ih =>
      rw [parseFrom_cons hargument] at h
      rw [List.cons_append, parseFrom_cons hargument, parseFrom_cons hargument]
      cases htaken : inv.takeIn argument with
      | error error => rfl
      | ok taken =>
          rw [htaken] at h
          exact ih taken h

/-- The arguments end in a `--root` that is read as the flag, so that whatever stands behind them is
taken for its directory. -/
def EndsInBareRoot (arguments : List String) : Prop :=
  ∃ front inv, arguments = front ++ ["--root"] ∧ parse front = .ok inv

theorem exists_front_of_parseFrom (h : inv.parseFrom arguments = .error .rootWithoutDirectory) :
    ∃ front read, arguments = front ++ ["--root"] ∧ inv.parseFrom front = .ok read := by
  induction arguments using unit_induction generalizing inv with
  | nil => cases h
  | bareRoot => exact ⟨[], inv, rfl, rfl⟩
  | root dir rest ih =>
      obtain ⟨front, read, rfl, hread⟩ := ih h
      exact ⟨"--root" :: dir :: front, read, rfl, hread⟩
  | single argument rest hargument ih =>
      rw [parseFrom_cons hargument] at h
      cases htaken : inv.takeIn argument with
      | error error =>
          rw [htaken] at h
          rcases error_of_takeIn htaken with rfl | rfl <;> cases h
      | ok taken =>
          rw [htaken] at h
          obtain ⟨front, read, rfl, hread⟩ := ih h
          refine ⟨argument :: front, read, rfl, ?_⟩
          rw [parseFrom_cons hargument, htaken]
          exact hread

/-- Exactly for want of the directory such arguments are refused. -/
theorem endsInBareRoot_iff :
    EndsInBareRoot arguments ↔ parse arguments = .error .rootWithoutDirectory := by
  constructor
  · rintro ⟨front, inv, rfl, hread⟩
    rw [parse] at hread ⊢
    rw [parseFrom_append _ _ _ (by rw [hread]; exact nofun), hread]
    rfl
  · exact exists_front_of_parseFrom

/-! ## Verbose runs -/

/-- The same invocation for a run that says what it does. -/
def madeVerbose (inv : Invocation) : Invocation := { inv with verbose := true }

/-- The two spellings of the flag. -/
def verboseFlags : List String := ["-v", "--verbose"]

theorem parseFrom_verboseFlag (h : flag ∈ verboseFlags) (inv : Invocation) (rest : List String) :
    inv.parseFrom (flag :: rest) = inv.madeVerbose.parseFrom rest := by
  have hflag : flag = "-v" ∨ flag = "--verbose" := by simpa [verboseFlags] using h
  rw [parseFrom.eq_def]
  exact if_pos hflag

theorem addWord_madeVerbose (inv : Invocation) (word : String) :
    inv.madeVerbose.addWord word = (inv.addWord word).map madeVerbose := by
  obtain ⟨command?, dir?, roots, verbose, json⟩ := inv
  cases command? with
  | none =>
      dsimp only [addWord, madeVerbose, Except.map]
      split <;> rfl
  | some command => cases dir? <;> rfl

theorem takeIn_madeVerbose (inv : Invocation) (argument : String) :
    inv.madeVerbose.takeIn argument = (inv.takeIn argument).map madeVerbose := by
  unfold takeIn
  rw [addWord_madeVerbose]
  split
  · rfl
  · split
    · rfl
    · split
      · rfl
      · split <;> rfl

theorem parseFrom_madeVerbose (inv : Invocation) (arguments : List String) :
    inv.madeVerbose.parseFrom arguments = (inv.parseFrom arguments).map madeVerbose := by
  induction arguments using unit_induction generalizing inv with
  | nil => rfl
  | bareRoot => rfl
  | root dir rest ih => exact ih { inv with roots := inv.roots ++ [dir] }
  | single argument rest hargument ih =>
      rw [parseFrom_cons hargument, parseFrom_cons hargument, takeIn_madeVerbose]
      cases inv.takeIn argument with
      | error error => rfl
      | ok taken => exact ih taken

/-- A flag that makes the run verbose may stand wherever it is read as a flag: the arguments are
read as without it, or refused for the same reason. -/
theorem parse_insert_verboseFlag (hflag : flag ∈ verboseFlags) (h : ¬ EndsInBareRoot before)
    (after : List String) :
    parse (before ++ flag :: after) = (parse (before ++ after)).map madeVerbose := by
  have hne : empty.parseFrom before ≠ .error .rootWithoutDirectory := mt endsInBareRoot_iff.2 h
  rw [parse, parse, parseFrom_append _ _ _ hne, parseFrom_append _ _ _ hne]
  cases empty.parseFrom before with
  | error error => rfl
  | ok inv =>
      change inv.parseFrom (flag :: after) = (inv.parseFrom after).map madeVerbose
      rw [parseFrom_verboseFlag hflag, parseFrom_madeVerbose]

end HeaderSearch.CommandLine.Invocation
