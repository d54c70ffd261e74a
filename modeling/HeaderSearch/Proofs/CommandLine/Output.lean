/-
# What a run prints

A run that fails prints nothing. Most commands print only when all that can fail is behind them.
The two that print JSON write it piece by piece, and writing would stop in the middle at a path that
is not text. No such path gets there: every path in the settings comes from an argument, from the
environment or from the platform, which are all text, and every answer is text whatever the
catalogued files are called.
-/

import HeaderSearch.CommandLine.Run
import HeaderSearch.Proofs.Catalog.Contents
import HeaderSearch.Proofs.Resolution.Readable
import Mathlib

namespace HeaderSearch

open HeaderSearch.Path

/-! ## Settings -/

/-- Every path in the settings is text. -/
structure Settings.IsText (settings : Settings) : Prop where
  systemRoots : ∀ root ∈ settings.systemRoots, root.text?.isSome
  localDirs : settings.localDirs.IsText

namespace Settings

variable {settings : Settings}

theorem isText_ofPlatform (platform : Platform) : (ofPlatform platform).IsText := by
  refine ⟨?_, isSome_text?_ofString _, ?_⟩
  · intro root hroot
    cases platform with
    | windows => cases hroot
    | linux | other =>
        obtain rfl := List.mem_singleton.1 hroot
        exact isSome_text?_ofString _
  · intro dir hdir
    obtain ⟨s, -, rfl⟩ := List.mem_map.1 hdir
    exact isSome_text?_ofString s

theorem IsText.addRoot (h : settings.IsText) {root : Path} (hroot : root.text?.isSome) :
    (settings.addRoot root).IsText := by
  unfold Settings.addRoot
  split
  · exact h
  · refine ⟨?_, h.localDirs⟩
    rw [List.forall_mem_append, List.forall_mem_singleton]
    exact ⟨h.systemRoots, hroot⟩

theorem IsText.addRoots (h : settings.IsText) {roots : List Path}
    (hroots : ∀ root ∈ roots, root.text?.isSome) : (settings.addRoots roots).IsText := by
  unfold Settings.addRoots
  induction roots generalizing settings with
  | nil => exact h
  | cons root rest ih =>
      rw [List.forall_mem_cons] at hroots
      exact ih (h.addRoot hroots.1) hroots.2

theorem IsText.withBase (h : settings.IsText) {base : Path} (hbase : base.text?.isSome) :
    (settings.withBase base).IsText :=
  ⟨h.systemRoots, hbase, h.localDirs.dirs⟩

/-- A text that is cut at colons falls into texts. -/
theorem isSome_text?_of_mem_listedRoots {text : String} {root : Path}
    (h : root ∈ listedRoots (Utf8.encode text)) : root.text?.isSome := by
  obtain ⟨segment, hsegment, rfl⟩ := List.mem_map.1 h
  have htext : (Utf8.text? ([colon].intercalate ((Utf8.encode text).splitOn colon))).isSome := by
    rw [List.intercalate_splitOn, Utf8.text?_encode]
    rfl
  exact (isSome_text?_intercalate (by decide) _).1 htext segment (List.mem_of_mem_filter hsegment)

theorem isText_ofEnvironment (roots? : Option String) : (ofEnvironment roots?).IsText := by
  unfold ofEnvironment ofListed
  apply (isText_ofPlatform .host).addRoots
  cases roots? with
  | none => exact nofun
  | some text => exact fun root => isSome_text?_of_mem_listedRoots

theorem IsText.writable_toJson (h : settings.IsText) : settings.toJson.Writable := by
  have hplaces : settings.localDirs.toJson.Writable := by
    refine .obj ?_
    simp only [List.forall_mem_cons]
    exact ⟨Json.writable_ofPath h.localDirs.base, Json.writable_ofPaths h.localDirs.dirs, nofun⟩
  refine .obj ?_
  simp only [List.forall_mem_cons]
  exact ⟨.str _, Json.writable_ofPaths h.systemRoots, Json.writable_ofStrings _, hplaces, .bool _,
    nofun⟩

end Settings

namespace CommandLine

variable {inv : Invocation} {env : Environment} {disk : Disk}

theorem Invocation.isText_settings (inv : Invocation) (env : Environment) :
    (inv.settings env).IsText := by
  have henv := Settings.isText_ofEnvironment env.roots?
  have hverbose : { Settings.ofEnvironment env.roots? with verbose := inv.verbose }.IsText :=
    ⟨henv.systemRoots, henv.localDirs⟩
  apply hverbose.addRoots
  intro root hroot
  obtain ⟨s, -, rfl⟩ := List.mem_map.1 hroot
  exact isSome_text?_ofString s

theorem Invocation.isSome_text?_projectDir (inv : Invocation) : inv.projectDir.text?.isSome :=
  isSome_text?_ofString _

/-! ## Documents -/

/-- The report on a project that an invocation asks for. -/
def Invocation.report (inv : Invocation) (env : Environment) (disk : Disk) (project : Project) :
    Report :=
  let settings := (inv.settings env).withBase inv.projectDir
  let catalog := Catalog.build disk settings.systemRoots settings.listedHeaders
  let space : SearchSpace := ⟨catalog, settings.localDirs, disk⟩
  ⟨env.now, inv.projectDir, catalog.entries.length, project.includes,
    space.resolve project.includes⟩

/-- The JSON document that an invocation asks for and that there is: the settings, or the report on
a project that can be scanned. -/
def Invocation.document? (inv : Invocation) (env : Environment) (disk : Disk) :
    Option Json.Value :=
  match inv.command, inv.json with
  | .config, _ => some (inv.settings env).toJson
  | .resolve, true =>
    (Project.scan disk inv.projectDir).toOption.map fun project =>
      (inv.report env disk project).toJson
  | _, _ => none

theorem Invocation.writable_report (inv : Invocation) (env : Environment) (disk : Disk)
    (project : Project) : (inv.report env disk project).toJson.Writable := by
  have hproject : (inv.report env disk project).project.text?.isSome :=
    inv.isSome_text?_projectDir
  have hsettings := (inv.isText_settings env).withBase inv.isSome_text?_projectDir
  apply Report.writable_toJson hproject
  apply SearchSpace.isSome_text?_of_mem_found _ hsettings.localDirs
  rw [Catalog.roots_build]
  exact hsettings.systemRoots

theorem Invocation.writable_of_document? {value : Json.Value}
    (h : inv.document? env disk = some value) : value.Writable := by
  unfold document? at h
  split at h
  · obtain rfl := Option.some.inj h
    exact (inv.isText_settings env).writable_toJson
  · obtain ⟨project, -, rfl⟩ := Option.map_eq_some_iff.1 h
    exact inv.writable_report env disk project
  · cases h

/-! ## Runs -/

/-- Of a value that has a written form all is printed. -/
theorem printJson_of_writable {value : Json.Value} (h : value.Writable) :
    ∃ text, value.pretty = .ok text ∧
      ∀ what log, printJson value what log = ⟨text ++ "\n", log, none⟩ := by
  refine ⟨(value.write (.lines 0)).text, h.complete_write (.lines 0), fun what log => ?_⟩
  rw [printJson]
  simp only [h.error?_write]

/-- If nothing but the scan of the project can fail, a failure comes before anything is printed. -/
theorem printed_withProject {dir : Path} {print : Project → Work}
    (h : ∀ project, (print project).failure? = none)
    (hfailed : (withProject disk dir print).failure? ≠ none) :
    (withProject disk dir print).printed = "" := by
  unfold withProject at hfailed ⊢
  dsimp only at hfailed ⊢
  split
  · rfl
  · next project hscan =>
    rw [hscan] at hfailed
    exact absurd (h project) hfailed

theorem Invocation.work_of_report (env : Environment) (disk : Disk)
    (hcommand : inv.command = .resolve) (hjson : inv.json = true) :
    ∃ log : Project → List Log.Entry,
      inv.work env disk = withProject disk inv.projectDir fun project =>
        printJson (inv.report env disk project).toJson "writing report json" (log project) := by
  rw [work, hcommand]
  simp only [hjson, resolve, if_true]
  exact ⟨_, rfl⟩

/-- A command prints all of the document that it is asked for. -/
theorem Invocation.work_of_document? {value : Json.Value}
    (h : inv.document? env disk = some value) :
    ∃ text, value.pretty = .ok text ∧ (inv.work env disk).printed = text ++ "\n" ∧
      (inv.work env disk).failure? = none := by
  obtain ⟨text, hpretty, hprint⟩ := printJson_of_writable (writable_of_document? h)
  refine ⟨text, hpretty, ?_⟩
  unfold document? at h
  split at h
  · next hcommand =>
    obtain rfl := Option.some.inj h
    rw [work, hcommand]
    dsimp only
    rw [hprint]
    exact ⟨rfl, rfl⟩
  · next hcommand hjson =>
    obtain ⟨log, hwork⟩ := work_of_report env disk hcommand hjson
    obtain ⟨project, hscan, rfl⟩ := Option.map_eq_some_iff.1 h
    rw [hwork, withProject]
    cases hresult : Project.scan disk inv.projectDir with
    | error error =>
        rw [hresult] at hscan
        cases hscan
    | ok found =>
        rw [hresult] at hscan
        obtain rfl := Option.some.inj hscan
        dsimp only
        rw [hprint]
        exact ⟨rfl, rfl⟩
  · cases h

/-- A command that fails has printed nothing. -/
theorem Invocation.printed_of_failure (h : (inv.work env disk).failure? ≠ none) :
    (inv.work env disk).printed = "" := by
  by_cases hreport : inv.command = .resolve ∧ inv.json = true
  · obtain ⟨log, hwork⟩ := work_of_report env disk hreport.1 hreport.2
    rw [hwork] at h ⊢
    apply printed_withProject _ h
    intro project
    obtain ⟨text, -, hprint⟩ := printJson_of_writable (inv.writable_report env disk project)
    rw [hprint]
  · unfold work at h ⊢
    dsimp only at h ⊢
    cases hcommand : inv.command with
    | scan =>
        rw [hcommand] at h
        exact printed_withProject (fun _ => rfl) h
    | catalog =>
        rw [hcommand] at h
        exact absurd rfl h
    | resolve =>
        have hjson : inv.json = false := by simpa [hcommand] using hreport
        rw [hcommand, hjson] at h
        rw [hjson]
        exact printed_withProject (fun _ => rfl) h
    | threads =>
        rw [hcommand] at h
        exact printed_withProject (fun _ => rfl) h
    | config =>
        obtain ⟨text, -, hprint⟩ :=
          printJson_of_writable (inv.isText_settings env).writable_toJson
        rw [hcommand] at h
        dsimp only at h
        rw [hprint] at h
        exact absurd rfl h
    | help =>
        rw [hcommand] at h
        exact absurd rfl h

/-- A run leaves what its command has printed, and its exit code tells whether the command failed,
and not why. How patterns are read makes no difference to either. -/
theorem runWith_of_parse (read : Log.PatternReader) (env : Environment) (disk : Disk)
    {arguments : List String} (h : Invocation.parse arguments = .ok inv) :
    (runWith read arguments env disk).stdout = (inv.work env disk).printed ∧
      (runWith read arguments env disk).exitCode =
        if (inv.work env disk).failure?.isNone then 0 else 1 := by
  rw [runWith, h]
  dsimp only
  split
  · next hfailure => exact ⟨rfl, by rw [hfailure]; rfl⟩
  · next hfailure => exact ⟨rfl, by rw [hfailure]; rfl⟩

/-- A run that fails prints nothing. A run that is asked for a JSON document, and comes to the
point of writing it, succeeds, and prints all of it with a line feed behind it. -/
theorem run_prints_all_or_nothing (arguments : List String) (env : Environment) (disk : Disk) :
    ((run arguments env disk).exitCode ≠ 0 → (run arguments env disk).stdout = "") ∧
    ∀ inv value, Invocation.parse arguments = .ok inv → inv.document? env disk = some value →
      ∃ text, value.pretty = .ok text ∧ (run arguments env disk).exitCode = 0 ∧
        (run arguments env disk).stdout = text ++ "\n" := by
  unfold run
  constructor
  · intro hfailed
    cases hparse : Invocation.parse arguments with
    | error error => rw [runWith, hparse]
    | ok inv =>
        obtain ⟨hstdout, hexit⟩ := runWith_of_parse Pattern.read env disk hparse
        rw [hstdout]
        apply Invocation.printed_of_failure
        intro hnone
        rw [hexit, hnone] at hfailed
        exact hfailed rfl
  · intro inv value hparse hdocument
    obtain ⟨hstdout, hexit⟩ := runWith_of_parse Pattern.read env disk hparse
    obtain ⟨text, hpretty, hprinted, hfailure⟩ := Invocation.work_of_document? hdocument
    rw [hfailure] at hexit
    exact ⟨text, hpretty, hexit, hstdout.trans hprinted⟩

/-- A disk with a project, and with a header in a directory whose name is not text. -/
def brokenNameDisk : Disk :=
  ⟨.dir [
    (Utf8.encode "p", .dir [(Utf8.encode "a.c", .file (Utf8.encode "#include <x.h>"))]),
    (Utf8.encode "i", .dir [([0xFF], .dir [(Utf8.encode "x.h", .file [])])])], []⟩

/-- An environment that lists the root of that header. -/
def listedRootEnvironment : Environment := ⟨some "i", none, "now"⟩

/-- What asks for the report on that project. -/
def reportInvocation : Invocation := ⟨some "resolve", some "p", [], false, true⟩

/-- The report on a project that is not there fails, and nothing is printed. The report on the
project is printed to its end, although the catalogued header has no text. -/
theorem run_resolve_brokenNameDisk :
    ((run ["resolve", "z", "--json"] listedRootEnvironment brokenNameDisk).exitCode ≠ 0 ∧
      (run ["resolve", "z", "--json"] listedRootEnvironment brokenNameDisk).stdout = "") ∧
    ∃ inv value text, Invocation.parse ["resolve", "p", "--json"] = .ok inv ∧
      (∃ e ∈ (Catalog.build brokenNameDisk (inv.settings listedRootEnvironment).systemRoots
        []).entries, e.text? = none) ∧
      inv.document? listedRootEnvironment brokenNameDisk = some value ∧
      value.pretty = .ok text ∧
      (run ["resolve", "p", "--json"] listedRootEnvironment brokenNameDisk).exitCode = 0 ∧
      (run ["resolve", "p", "--json"] listedRootEnvironment brokenNameDisk).stdout =
        text ++ "\n" := by
  constructor
  · have hfailed :
        (run ["resolve", "z", "--json"] listedRootEnvironment brokenNameDisk).exitCode ≠ 0 := by
      decide +kernel
    exact ⟨hfailed, (run_prints_all_or_nothing _ _ _).1 hfailed⟩
  · have hparse : Invocation.parse ["resolve", "p", "--json"] = .ok reportInvocation := by
      decide +kernel
    have hcommand : reportInvocation.command = .resolve := by decide +kernel
    have hscanned : (Project.scan brokenNameDisk (ofString "p")).toOption.isSome := by
      cbv
    obtain ⟨project, hscan⟩ := Option.isSome_iff_exists.1 hscanned
    have hdocument : reportInvocation.document? listedRootEnvironment brokenNameDisk =
        some (reportInvocation.report listedRootEnvironment brokenNameDisk project).toJson := by
      rw [Invocation.document?, hcommand]
      exact congrArg (Option.map _) hscan
    obtain ⟨text, hprinted⟩ := (run_prints_all_or_nothing _ _ _).2 _ _ hparse hdocument
    exact ⟨_, _, text, hparse, by decide +kernel, hdocument, hprinted⟩

end CommandLine

end HeaderSearch
