/-
# Looking cleaned paths up

Cleaning does not look at the disk, and in general a cleaned path leads somewhere else: a `..` takes
back the name before it, while a look-up goes to the parent of what that name leads to, and the two
are different places if it is a link. Where no link is met they are the same place. Taking one
component after another, a look-up then stands where it would stand after the components that
cleaning has kept so far, whether the next one goes down, goes up over a name, or goes up where
there is nothing to take back. So what the components lead to is what the cleaned path leads to.
-/

import HeaderSearch.Proofs.Disk.Unlinked
import HeaderSearch.Proofs.Resolution.Stages

namespace HeaderSearch

open HeaderSearch.Path

namespace Disk

variable {disk : Disk} {here place middle reached : Place}

/-! ## Taking cleaned components -/

/-- One more component leads to the same place behind components that are cleaned, whether it is
taken or pushed on them. -/
theorem travel_cleanPush {components : List Component} (hcleaned : IsCleaned components)
    (hspell : ∀ component ∈ components, component.Spellable)
    (hstart : .root ∈ components → place.parent = place) {next : Component} (hnext : next ≠ .root)
    (h : disk.travel true 0 place (components.map segmentOf) = .ok middle)
    (hstep : disk.travel true 0 middle [segmentOf next] = .ok reached) :
    disk.travel true 0 place ((cleanPush components.reverse next).reverse.map segmentOf) =
      .ok reached := by
  have htaken : disk.travel true 0 place ((components ++ [next]).map segmentOf) = .ok reached := by
    rw [List.map_append, travel_append_unlinked_iff]
    exact ⟨middle, h, hstep⟩
  cases next with
  | root => exact absurd rfl hnext
  | here =>
      obtain ⟨-, rfl⟩ := travel_void (by decide) hstep
      simpa [cleanPush] using h
  | name bytes => simpa [cleanPush] using htaken
  | up =>
      obtain ⟨start, names, rfl, hshape⟩ := hcleaned
      rcases List.eq_nil_or_concat names with rfl | ⟨names, name, rfl⟩
      · -- There is nothing to take back: the root is its own parent, and another `..` is kept.
        rw [List.map_nil, List.append_nil] at *
        rcases hshape with rfl | ⟨n, rfl⟩
        · obtain ⟨-, rfl⟩ := travel_void (by decide) h
          rw [travel_up hstep, hstart (List.mem_singleton_self _)]
          exact h
        · rw [List.reverse_replicate, cleanPush_replicate_up, List.reverse_replicate,
            List.replicate_succ']
          exact htaken
      · -- The name that is taken back was entered last, so its parent is where it was entered.
        have hsplit : start ++ (names.concat name).map .name =
            (start ++ names.map .name) ++ [.name name] := by simp
        rw [hsplit] at h hspell ⊢
        rw [List.map_append, travel_append_unlinked_iff] at h
        obtain ⟨before, hbefore, hname⟩ := h
        have hback : reached = before := by
          rw [travel_up hstep]
          exact parent_of_travel_name (hspell (.name name) (by simp)) hname
        rw [hback, List.reverse_append]
        simpa [cleanPush] using hbefore

/-- Cleaned components lead where the components lead. -/
theorem travel_clean {components : List Component}
    (hspell : ∀ component ∈ components, component.Spellable)
    (hroot : .root ∉ components.tail) (hstart : .root ∈ components → place.parent = place)
    (h : disk.travel true 0 place (components.map segmentOf) = .ok reached) :
    disk.travel true 0 place ((clean components).map segmentOf) = .ok reached := by
  induction components using List.reverseRecOn generalizing reached with
  | nil => exact h
  | append_singleton components last ih =>
      rw [List.map_append, travel_append_unlinked_iff] at h
      obtain ⟨middle, hmiddle, hlast⟩ := h
      cases components with
      | nil =>
          cases hmiddle
          cases last with
          | here =>
              obtain ⟨-, rfl⟩ := travel_void (by decide) hlast
              rfl
          | root => exact hlast
          | up => exact hlast
          | name bytes => exact hlast
      | cons first rest =>
          rw [List.cons_append, List.tail_cons, List.mem_append, not_or, List.mem_singleton]
            at hroot
          have hfront : ∀ c ∈ first :: rest, c ∈ first :: rest ++ [last] :=
            fun c hc => List.mem_append_left _ hc
          rw [clean_concat]
          refine travel_cleanPush (@isCleaned_clean (first :: rest) hroot.1) ?_ ?_
            (Ne.symm hroot.2) ?_ hlast
          · exact fun c hc => hspell c (hfront c (mem_of_mem_clean hc))
          · exact fun hmem => hstart (hfront _ (mem_of_mem_clean hmem))
          · exact ih (fun c hc => hspell c (hfront c hc)) hroot.1
              (fun hmem => hstart (hfront _ hmem)) hmiddle

/-- What the components of a directory and those of an include lead to one by one, without meeting a
link, is what the components of the cleaned path lead to. -/
theorem stepwise_cleanJoinComponents {dir rest : Path}
    (h : disk.stepwise here (dir.components ++ rest.relativeComponents) = .ok reached) :
    disk.stepwise here (cleanJoinComponents dir rest) = .ok reached := by
  rw [stepwise, cleanJoinComponents, if_congr root_mem_clean_iff rfl rfl]
  apply travel_clean (fun _ => spellable_of_mem_joined)
    (root_notMem_tail_append dir (root_notMem_relativeComponents rest)) ?_ h
  intro hroot
  rw [if_pos hroot]
  rfl

/-! ## Looking the cleaned text up -/

theorem startOf_cleanJoin (disk : Disk) (here : Place) (dir rest : Path) :
    disk.startOf here (dir.cleanJoin rest) =
      if .root ∈ cleanJoinComponents dir rest then disk.rootPlace else here := by
  refine if_congr ?_ rfl rfl
  rw [isAbsolute_iff_root_mem, components_cleanJoin]
  split
  · next hnil => simp [hnil]
  · rfl

/-- The segments of the cleaned text lead where its components lead. There are more segments than
components if nothing is left, or the root alone, and then the text asks for a directory. -/
theorem travel_segments_cleanJoin {dir rest : Path} (hdir : here.node.IsDir)
    (h : disk.stepwise here (cleanJoinComponents dir rest) = .ok reached) :
    disk.travel true 0 (disk.startOf here (dir.cleanJoin rest)) (dir.cleanJoin rest).segments =
      .ok reached := by
  rw [startOf_cleanJoin]
  rw [stepwise] at h
  by_cases hnil : cleanJoinComponents dir rest = []
  · rw [hnil] at h ⊢
    cases h
    have htext : (dir.cleanJoin rest).segments = [[dot]] := by
      rw [cleanJoin, hnil]
      rfl
    obtain ⟨entries, hentries⟩ := hdir
    rw [htext]
    exact Place.travel_cons_of_void hentries (by decide)
  · by_cases hroot : cleanJoinComponents dir rest = [.root]
    · rw [hroot] at h ⊢
      obtain ⟨⟨entries, hentries⟩, rfl⟩ := travel_void (by decide) h
      have htext : (dir.cleanJoin rest).segments = [[]] ++ [[]] := by
        rw [cleanJoin, hroot]
        rfl
      rw [htext, travel_append_unlinked_iff]
      exact ⟨_, h, h⟩
    · rw [cleanJoin, if_neg hnil,
        segments_ofComponents (fun _ => spellable_of_mem_cleanJoinComponents) hnil hroot]
      exact h

/-- The cleaned path is read as its components were, or as a `.` if there are none. -/
theorem stepwise_components_cleanJoin {dir rest : Path} (hdir : here.node.IsDir)
    (h : disk.stepwise here (cleanJoinComponents dir rest) = .ok reached) :
    disk.stepwise here (dir.cleanJoin rest).components = .ok reached := by
  rw [components_cleanJoin]
  split
  · next hnil =>
    rw [hnil] at h
    cases h
    obtain ⟨entries, hentries⟩ := hdir
    exact Place.travel_cons_of_void hentries (show isVoid [dot] = true by decide)
  · exact h

/-- If the disk takes the cleaned text, it finds under it what the components lead to. -/
theorem find_cleanJoin_of_stepwise {dir rest : Path}
    (hhere : disk.placeAt? disk.workingDir = some here) (hdir : here.node.IsDir)
    (h : disk.stepwise here (dir.components ++ rest.relativeComponents) = .ok reached)
    (hadmissible : (dir.cleanJoin rest).IsAdmissible) (followLast : Bool) :
    disk.find followLast (dir.cleanJoin rest) = .ok reached := by
  rw [find_eq_of_short hadmissible.1 (bytes_cleanJoin_ne_nil dir rest) hadmissible.2,
    placeAt?_startNames hhere]
  exact travel_of_unlinked (travel_segments_cleanJoin hdir (stepwise_cleanJoinComponents h))
    followLast linkLimit

/-! ## Probing a directory -/

/-- A probe of the directory for the include comes to the place: the cleaned path leads there, and a
search that has it among its candidates answers with it, unless there is something under an earlier
one, with which it answers then. -/
structure ProbeReaches (disk : Disk) (dir : Path) (name : String) (place : Place) : Prop where
  found : ∀ followLast, disk.find followLast (dir.cleanJoin (ofString name)) = .ok place
  answered : ∀ (space : SearchSpace) (before after : List Path), space.disk = disk →
    space.localDirs.candidates name = before ++ dir.cleanJoin (ofString name) :: after →
    (∃ earlier ∈ before, disk.pathExists earlier = true ∧
      space.localPath? name = some earlier) ∨
    (∀ earlier ∈ before, disk.pathExists earlier = false) ∧
      space.localPath? name = some (dir.cleanJoin (ofString name))

theorem probeReaches_of_find {dir : Path} {name : String}
    (h : ∀ followLast, disk.find followLast (dir.cleanJoin (ofString name)) = .ok reached) :
    disk.ProbeReaches dir name reached where
  found := h
  answered := by
    rintro space before after rfl hcandidates
    have hexists : space.disk.pathExists (dir.cleanJoin (ofString name)) = true := by
      rw [pathExists, h true]
      rfl
    rw [SearchSpace.localPath?, hcandidates, List.find?_append]
    cases hfirst : before.find? space.disk.pathExists with
    | none =>
        refine .inr ⟨fun earlier hearlier => ?_, ?_⟩
        · exact Bool.eq_false_iff.2 (List.find?_eq_none.1 hfirst earlier hearlier)
        · rw [Option.none_or, List.find?_cons_of_pos hexists]
    | some earlier =>
        exact .inl ⟨earlier, List.mem_of_find?_eq_some hfirst, List.find?_some hfirst, rfl⟩

/-- Where the components of a directory and of an include lead one by one, without meeting a link,
there the components of the cleaned path lead, and a probe comes there unless the disk does not take
the cleaned text. It takes the cleaned text if it takes the components as they stand. In particular,
where the directory and the include lead that are written behind one another, there a probe comes,
if no link is met. -/
theorem probeReaches_of_unlinked (hhere : disk.placeAt? disk.workingDir = some here)
    (hdir : here.node.IsDir) (dir : Path) (name : String) :
    (∀ place,
      disk.stepwise here (dir.components ++ (ofString name).relativeComponents) = .ok place →
        disk.stepwise here (dir.cleanJoin (ofString name)).components = .ok place ∧
        ((dir.cleanJoin (ofString name)).IsAdmissible → disk.ProbeReaches dir name place)) ∧
    ((ofComponents (dir.components ++ (ofString name).relativeComponents)).IsAdmissible →
      (dir.cleanJoin (ofString name)).IsAdmissible) ∧
    (dir.bytes ≠ [] → ∀ place,
      disk.LeadsUnlinked ⟨dir.bytes ++ slash :: (ofString name).bytes⟩ place →
        disk.ProbeReaches dir name place) := by
  have hprobe : ∀ place,
      disk.stepwise here (dir.components ++ (ofString name).relativeComponents) = .ok place →
      (dir.cleanJoin (ofString name)).IsAdmissible → disk.ProbeReaches dir name place :=
    fun place hsteps hadmissible =>
      probeReaches_of_find (find_cleanJoin_of_stepwise hhere hdir hsteps hadmissible)
  refine ⟨fun place hsteps => ⟨?_, hprobe place hsteps⟩, IsAdmissible.cleanJoin, ?_⟩
  · exact stepwise_components_cleanJoin hdir (stepwise_cleanJoinComponents hsteps)
  · intro hne place hleads
    have hadmissible := isAdmissible_of_find hleads.found
    exact hprobe place (hleads.stepwise hne hhere) hadmissible.ofComponents_joined.cleanJoin

/-- The directory is a link to another one, whose parent has the header. -/
example :
    let disk : Disk := ⟨.dir [
      (Utf8.encode "lib", .dir [(Utf8.encode "src", .dir []), (Utf8.encode "a.h", .file [])]),
      (Utf8.encode "src", .link (ofString "/lib/src"))], []⟩
    disk.isFile (ofString "src/../a.h") = true ∧
      disk.pathExists ((ofString "src").cleanJoin (ofString "../a.h")) = false := by
  decide +kernel

/-- A disk on which a project and shared headers lie beside one another. -/
def sharedHeadersDisk : Disk :=
  ⟨.dir [(Utf8.encode "home", .dir [
      (Utf8.encode "proj", .dir [(Utf8.encode "src", .dir [])]),
      (Utf8.encode "shared", .dir [
        (Utf8.encode "sys", .dir []),
        (Utf8.encode "a.h", .file [])])])],
    [Utf8.encode "home", Utf8.encode "proj"]⟩

theorem probeReaches_sharedHeadersDisk : ∃ here place,
    sharedHeadersDisk.placeAt? sharedHeadersDisk.workingDir = some here ∧ here.node.IsDir ∧
    sharedHeadersDisk.LeadsUnlinked
      ⟨(ofString "./src/..").bytes ++ slash :: (ofString "../shared/sys/../a.h").bytes⟩ place ∧
    place.names = [Utf8.encode "home", Utf8.encode "shared", Utf8.encode "a.h"] ∧
    (ofString "./src/..").cleanJoin (ofString "../shared/sys/../a.h") =
      ofString "../shared/a.h" ∧
    sharedHeadersDisk.ProbeReaches (ofString "./src/..") "../shared/sys/../a.h" place := by
  refine ⟨_, _, rfl, ⟨_, rfl⟩, ⟨rfl, ?_⟩, rfl, by decide, ?_⟩
  · intro start hstart
    cases hstart
    rfl
  · refine (probeReaches_of_unlinked rfl ⟨_, rfl⟩ _ _).2.2 (by decide) _ ⟨rfl, ?_⟩
    intro start hstart
    cases hstart
    rfl

end Disk

end HeaderSearch
