/-
# Saying more

A run that is asked to say what it does says more on standard error and does nothing else. The flag
is read by itself, the settings keep it apart from everything that a search depends on, and commands
do the same work with it. Only the command that shows the settings shows the flag with them, as the
value of one member.
-/

import HeaderSearch.Proofs.CommandLine.Output
import HeaderSearch.Proofs.CommandLine.Reading
import HeaderSearch.Proofs.Json.Members

namespace HeaderSearch

/-! ## Settings -/

namespace Settings

variable {settings : Settings}

/-- The same settings for a run that says what it does, or for one that does not. -/
def withVerbose (settings : Settings) (verbose : Bool) : Settings := { settings with verbose }

theorem addRoot_withVerbose (settings : Settings) (verbose : Bool) (root : Path) :
    (settings.withVerbose verbose).addRoot root = (settings.addRoot root).withVerbose verbose := by
  unfold addRoot withVerbose
  dsimp only
  split <;> rfl

theorem addRoots_withVerbose (settings : Settings) (verbose : Bool) (roots : List Path) :
    (settings.withVerbose verbose).addRoots roots =
      (settings.addRoots roots).withVerbose verbose := by
  unfold addRoots
  induction roots generalizing settings with
  | nil => rfl
  | cons root rest ih => rw [List.foldl_cons, List.foldl_cons, addRoot_withVerbose, ih]

theorem IsText.withVerbose (h : settings.IsText) (verbose : Bool) :
    (settings.withVerbose verbose).IsText :=
  ⟨h.systemRoots, h.localDirs⟩

/-- The members of the settings' document in front of the last one. -/
def searchMembers (settings : Settings) : List (String × Json.Value) :=
  [("platform", .str settings.platform.word),
    ("system_roots", .arr (settings.systemRoots.map Json.ofPath)),
    ("common_includes", Json.ofStrings settings.listedHeaders),
    ("local_dirs", settings.localDirs.toJson)]

theorem toJson_withVerbose (settings : Settings) (verbose : Bool) :
    (settings.withVerbose verbose).toJson =
      .obj (settings.searchMembers ++ [("verbose", .bool verbose)]) :=
  rfl

/-- A text, the member that tells whether the run is verbose, and a text. -/
def documentText (front back : String) (verbose : Bool) : String :=
  front ++ "\"verbose\": " ++ (if verbose then "true" else "false") ++ back

/-- The document of settings depends on whether the run is verbose in one word only. -/
theorem IsText.exists_documentText (h : settings.IsText) :
    ∃ front back, ∀ verbose,
      (settings.withVerbose verbose).toJson.pretty = .ok (documentText front back verbose) := by
  have hmembers : ∀ member ∈ settings.searchMembers, member.2.Writable := by
    cases h.writable_toJson with
    | obj hall => exact fun member hmem => hall member (List.mem_append_left _ hmem)
  obtain ⟨front, back, haround⟩ :=
    Json.Value.exists_texts_around (.lines 0) hmembers (List.forall_mem_nil _)
  refine ⟨front, back, fun verbose => ?_⟩
  have hname : Json.quote "verbose" ++ (Json.Layout.lines 0).inner.colon = "\"verbose\": " := rfl
  have hword : ((.bool verbose : Json.Value).write (Json.Layout.lines 0).inner).text =
      if verbose then "true" else "false" := by
    cases verbose <;> rfl
  rw [Json.Value.pretty, (h.withVerbose verbose).writable_toJson.complete_write,
    toJson_withVerbose, haround "verbose" (.bool verbose) (.bool verbose), hname, hword,
    documentText]

end Settings

namespace CommandLine

variable {inv : Invocation} {env : Environment} {disk : Disk}

namespace Invocation

theorem settings_eq_withVerbose (inv : Invocation) (env : Environment) :
    inv.settings env =
      ((Settings.ofEnvironment env.roots?).addRoots (inv.roots.map Path.ofString)).withVerbose
        inv.verbose :=
  Settings.addRoots_withVerbose _ _ _

theorem withVerbose_settings (inv : Invocation) (env : Environment) :
    (inv.settings env).withVerbose inv.verbose = inv.settings env := by
  rw [settings_eq_withVerbose]
  rfl

theorem settings_madeVerbose (inv : Invocation) (env : Environment) :
    inv.madeVerbose.settings env = (inv.settings env).withVerbose true := by
  rw [settings_eq_withVerbose, settings_eq_withVerbose]
  rfl

/-- A command that does not show the settings does the same work. -/
theorem work_madeVerbose (h : inv.command ≠ .config) (env : Environment) (disk : Disk) :
    inv.madeVerbose.work env disk = inv.work env disk := by
  have hcommand : inv.madeVerbose.command = inv.command := rfl
  rw [work, work, hcommand, settings_madeVerbose]
  cases hc : inv.command with
  | config => exact absurd hc h
  | scan | catalog | resolve | threads | help => rfl

theorem work_of_config (h : inv.command = .config) (env : Environment) (disk : Disk) :
    inv.work env disk = printJson (inv.settings env).toJson "writing config json" [] := by
  rw [work, h]

/-- The command that shows the settings prints their document. Whether the run is verbose changes
one word of it. -/
theorem exists_documentText_of_config (h : inv.command = .config) (env : Environment)
    (disk : Disk) :
    ∃ front back,
      (∀ verbose, ((inv.settings env).withVerbose verbose).toJson.pretty =
        .ok (Settings.documentText front back verbose)) ∧
      inv.work env disk = ⟨Settings.documentText front back inv.verbose ++ "\n", [], none⟩ ∧
      inv.madeVerbose.work env disk =
        ⟨Settings.documentText front back true ++ "\n", [], none⟩ := by
  obtain ⟨front, back, hpretty⟩ := (inv.isText_settings env).exists_documentText
  have hprint (verbose : Bool) :
      printJson ((inv.settings env).withVerbose verbose).toJson "writing config json" [] =
        ⟨Settings.documentText front back verbose ++ "\n", [], none⟩ := by
    have hwritable := ((inv.isText_settings env).withVerbose verbose).writable_toJson
    obtain ⟨text, htext, hprinted⟩ := printJson_of_writable hwritable
    rw [hpretty] at htext
    cases htext
    exact hprinted _ _
  have hverbose : inv.madeVerbose.command = .config := h
  refine ⟨front, back, hpretty, ?_, ?_⟩
  · rw [work_of_config h, ← withVerbose_settings, hprint]
  · rw [work_of_config hverbose, settings_madeVerbose, hprint]

theorem failure?_madeVerbose (inv : Invocation) (env : Environment) (disk : Disk) :
    (inv.madeVerbose.work env disk).failure? = (inv.work env disk).failure? := by
  by_cases h : inv.command = .config
  · obtain ⟨front, back, -, hplain, hverbose⟩ := exists_documentText_of_config h env disk
    rw [hplain, hverbose]
  · rw [work_madeVerbose h]

end Invocation

/-! ## Runs -/

/-- A flag that makes a run verbose may be put anywhere among the arguments, except where it would
be taken for the directory of a `--root`. It changes neither the exit code nor what is printed, if
the arguments are refused as well as if they are not, but for one thing: in the document of the
settings it changes the word for whether the run is verbose, and nothing else. -/
theorem run_insert_verboseFlag {before : List String} {flag : String}
    (hflag : flag ∈ Invocation.verboseFlags) (h : ¬ Invocation.EndsInBareRoot before)
    (after : List String) (env : Environment) (disk : Disk) :
    (run (before ++ flag :: after) env disk).exitCode =
      (run (before ++ after) env disk).exitCode ∧
    ((∀ inv, Invocation.parse (before ++ after) = .ok inv → inv.command ≠ .config) →
      (run (before ++ flag :: after) env disk).stdout =
        (run (before ++ after) env disk).stdout) ∧
    ∀ inv, Invocation.parse (before ++ after) = .ok inv → inv.command = .config →
      ∃ front back,
        (∀ verbose, ((inv.settings env).withVerbose verbose).toJson.pretty =
          .ok (Settings.documentText front back verbose)) ∧
        (run (before ++ after) env disk).stdout =
          Settings.documentText front back inv.verbose ++ "\n" ∧
        (run (before ++ flag :: after) env disk).stdout =
          Settings.documentText front back true ++ "\n" := by
  have hread := Invocation.parse_insert_verboseFlag hflag h after
  unfold run
  cases hparse : Invocation.parse (before ++ after) with
  | error error =>
      rw [hparse] at hread
      rw [runWith, runWith, hread, hparse]
      refine ⟨rfl, fun _ => rfl, ?_⟩
      intro inv hinv
      cases hinv
  | ok inv =>
      rw [hparse] at hread
      obtain ⟨hprinted, hexit⟩ := runWith_of_parse Pattern.read env disk hparse
      obtain ⟨hprinted', hexit'⟩ := runWith_of_parse Pattern.read env disk hread
      rw [hprinted, hprinted', hexit, hexit']
      refine ⟨?_, ?_, ?_⟩
      · rw [Invocation.failure?_madeVerbose]
      · intro hother
        rw [Invocation.work_madeVerbose (hother inv rfl)]
      · intro inv' hinv' hconfig
        obtain rfl := Except.ok.inj hinv'
        obtain ⟨front, back, hpretty, hplain, hverbose⟩ :=
          Invocation.exists_documentText_of_config hconfig env disk
        rw [hplain, hverbose]
        exact ⟨front, back, hpretty, rfl, rfl⟩

/-- Arguments of which the last is the directory of a root, although it is spelled like a flag. -/
def rootNamedLikeFlag : List String := ["config", "--root", "-v"]

/-- What they ask for, with another root behind them. -/
def twoRootsInvocation : Invocation := ⟨some "config", none, ["-v", "/x"], false, false⟩

/-- The flag between the two roots changes the document of the settings in the word for it. The
same flag behind the arguments of a scan changes nothing that is printed. -/
theorem run_config_between_roots :
    "--verbose" ∈ Invocation.verboseFlags ∧ ¬ Invocation.EndsInBareRoot rootNamedLikeFlag ∧
    Invocation.parse (rootNamedLikeFlag ++ ["--root=/x"]) = .ok twoRootsInvocation ∧
    twoRootsInvocation.command = .config ∧
    (∃ front back,
      (∀ verbose, ((twoRootsInvocation.settings listedRootEnvironment).withVerbose
        verbose).toJson.pretty = .ok (Settings.documentText front back verbose)) ∧
      (run (rootNamedLikeFlag ++ ["--root=/x"]) listedRootEnvironment brokenNameDisk).stdout =
        Settings.documentText front back false ++ "\n" ∧
      (run (rootNamedLikeFlag ++ "--verbose" :: ["--root=/x"]) listedRootEnvironment
        brokenNameDisk).stdout = Settings.documentText front back true ++ "\n") ∧
    ¬ Invocation.EndsInBareRoot ["scan", "p"] ∧
    (∀ inv, Invocation.parse ["scan", "p"] = .ok inv → inv.command ≠ .config) ∧
    (run ["scan", "p", "--verbose"] listedRootEnvironment brokenNameDisk).stdout =
      (run ["scan", "p"] listedRootEnvironment brokenNameDisk).stdout := by
  have hflag : "--verbose" ∈ Invocation.verboseFlags := by decide
  have hroots : ¬ Invocation.EndsInBareRoot rootNamedLikeFlag := by
    rw [Invocation.endsInBareRoot_iff]
    decide +kernel
  have hparse : Invocation.parse (rootNamedLikeFlag ++ ["--root=/x"]) = .ok twoRootsInvocation := by
    decide +kernel
  have hcommand : twoRootsInvocation.command = .config := by decide +kernel
  have hscan : ¬ Invocation.EndsInBareRoot ["scan", "p"] := by
    rw [Invocation.endsInBareRoot_iff]
    decide +kernel
  have hother : ∀ inv, Invocation.parse ["scan", "p"] = .ok inv → inv.command ≠ .config := by
    intro inv hinv
    have hread : Invocation.parse ["scan", "p"] =
        .ok ⟨some "scan", some "p", [], false, false⟩ := by
      decide +kernel
    rw [hread] at hinv
    cases hinv
    decide +kernel
  exact ⟨hflag, hroots, hparse, hcommand,
    (run_insert_verboseFlag hflag hroots ["--root=/x"] listedRootEnvironment brokenNameDisk).2.2
      twoRootsInvocation hparse hcommand,
    hscan, hother,
    (run_insert_verboseFlag hflag hscan [] listedRootEnvironment brokenNameDisk).2.1 hother⟩

/-- Behind a `--root` at the end the flag would be its directory, and the arguments would no longer
be refused. -/
example : Invocation.EndsInBareRoot ["help", "--root"] ∧
    (run ["help", "--root"] listedRootEnvironment brokenNameDisk).exitCode = 1 ∧
    (run ["help", "--root", "-v"] listedRootEnvironment brokenNameDisk).exitCode = 0 := by
  rw [Invocation.endsInBareRoot_iff]
  decide +kernel

end CommandLine

end HeaderSearch
