/-
# Trees that look-ups cannot tell apart

A look-up asks of a node only what kind it is, what a link leads to, and which node a directory has
under a name. So if two trees answer these questions alike, and the nodes below them do as well,
then every look-up fails in both for the same reason, or reaches related places in both.

The relation is left open. That two trees differ in the order of their entries is one; that they are
the same and have a property which carries over to entries is another, and shows that every place
reached has the property.
-/

import HeaderSearch.Proofs.Disk.Tree
import Mathlib.Data.List.Induction
import Mathlib.Data.Option.Basic

namespace HeaderSearch

/-- Related nodes are of one kind. Related links lead to the same path, and under every name related
directories have related nodes, or none. -/
structure Node.Bisimulation (R : Node → Node → Prop) : Prop where
  file : ∀ {data : List UInt8} {other : Node}, R (.file data) other → other = .file data
  link : ∀ {target : Path} {other : Node}, R (.link target) other → other = .link target
  dir : ∀ {entries : List (Name × Node)} {other : Node}, R (.dir entries) other →
    ∃ others, other = .dir others ∧
      ∀ name, Option.Rel R (entries.lookup name) (others.lookup name)

theorem Node.Bisimulation.type_eq {R : Node → Node → Prop} (hR : Node.Bisimulation R)
    {node other : Node} (h : R node other) : node.type = other.type := by
  cases node with
  | file data => rw [hR.file h]
  | link target => rw [hR.link h]
  | dir entries =>
      obtain ⟨others, rfl, -⟩ := hR.dir h
      rfl

/-- Being the same proper node carries over to entries. -/
theorem Node.bisimulation_proper :
    Node.Bisimulation fun node other => node = other ∧ node.Proper where
  file := fun h => h.1.symm
  link := fun h => h.1.symm
  dir := by
    rintro entries _ ⟨rfl, hproper⟩
    refine ⟨entries, rfl, fun name => ?_⟩
    cases hfound : entries.lookup name with
    | none => exact .none
    | some node =>
        have hmem := hproper.lookup_eq_some_iff.1 hfound
        cases hproper with
        | dir _ _ hnodes => exact .some ⟨rfl, hnodes _ hmem⟩

/-- Two places are related if their nodes are, and the ways to them have the same names and related
directories. -/
structure Place.Related (R : Node → Node → Prop) (place other : Place) : Prop where
  node : R place.node other.node
  trail : List.Forall₂ (fun step step' => step.1 = step'.1 ∧ R step.2 step'.2)
    place.trail other.trail

/-- Two look-ups end alike if they fail for the same reason or reach related places. -/
inductive EndsAlike (R : Node → Node → Prop) : Except Fault Place → Except Fault Place → Prop where
  | failed (fault : Fault) : EndsAlike R (.error fault) (.error fault)
  | reached {place other : Place} (related : place.Related R other) :
      EndsAlike R (.ok place) (.ok other)

namespace Place

variable {R : Node → Node → Prop} {place other : Place}

theorem Related.parent (h : place.Related R other) : place.parent.Related R other.parent := by
  obtain ⟨node, trail⟩ := place
  obtain ⟨node', trail'⟩ := other
  obtain ⟨hnode, htrail⟩ := h
  cases htrail with
  | nil => exact ⟨hnode, .nil⟩
  | cons hstep hrest => exact ⟨hstep.2, hrest⟩

theorem Related.enter (h : place.Related R other) (name : Name) {node node' : Node}
    (hnode : R node node') : (place.enter name node).Related R (other.enter name node') :=
  ⟨hnode, .cons ⟨rfl, h.node⟩ h.trail⟩

/-- If links end alike, segments that are taken from related places do. -/
theorem travel_endsAlike (hR : Node.Bisimulation R)
    {onLink onLink' : Place → Path → List Name → Except Fault Place}
    (honLink : ∀ (dir dir' : Place) (target : Path) (rest : List Name), dir.Related R dir' →
      EndsAlike R (onLink dir target rest) (onLink' dir' target rest))
    (followLast : Bool) (segments : List Name) (h : place.Related R other) :
    EndsAlike R (travel onLink followLast place segments)
      (travel onLink' followLast other segments) := by
  induction segments generalizing place other with
  | nil => exact .reached h
  | cons segment rest ih =>
      have hnode := h.node
      cases hplace : place.node with
      | file data =>
          rw [hplace] at hnode
          simp only [travel, hplace, hR.file hnode]
          exact .failed _
      | link target =>
          rw [hplace] at hnode
          simp only [travel, hplace, hR.link hnode]
          exact .failed _
      | dir entries =>
          rw [hplace] at hnode
          obtain ⟨others, hother, hlookup⟩ := hR.dir hnode
          simp only [travel, hplace, hother]
          split
          · exact ih h.parent
          · next name _ =>
            split
            · exact .failed _
            · have hfound := hlookup name
              generalize entries.lookup name = found, others.lookup name = found' at hfound ⊢
              cases hfound with
              | none => exact .failed _
              | @some node _ hrelated =>
                  cases node with
                  | file data =>
                      obtain rfl := hR.file hrelated
                      exact ih (h.enter name hrelated)
                  | dir inner =>
                      obtain ⟨inner', rfl, -⟩ := hR.dir hrelated
                      exact ih (h.enter name hrelated)
                  | link target =>
                      obtain rfl := hR.link hrelated
                      dsimp only
                      split
                      · exact .reached (h.enter name hrelated)
                      · exact honLink _ _ target rest h
          · exact ih h

end Place

/-- Two disks are related if their trees are and the names that lead to the working directory are
the same. -/
structure Disk.Related (R : Node → Node → Prop) (disk other : Disk) : Prop where
  root : R disk.root other.root
  workingDir : disk.workingDir = other.workingDir

namespace Disk

variable {R : Node → Node → Prop} {disk other : Disk}

theorem Related.startOf (h : disk.Related R other) {place place' : Place}
    (hplace : place.Related R place') (path : Path) :
    (disk.startOf place path).Related R (other.startOf place' path) := by
  unfold Disk.startOf
  split
  · exact ⟨h.root, .nil⟩
  · exact hplace

theorem Related.travel (hR : Node.Bisimulation R) (h : disk.Related R other) (followLast : Bool)
    (links : Nat) {place place' : Place} (hplace : place.Related R place') (segments : List Name) :
    EndsAlike R (disk.travel followLast links place segments)
      (other.travel followLast links place' segments) := by
  induction links generalizing place place' segments with
  | zero =>
      refine Place.travel_endsAlike hR ?_ followLast segments hplace
      intro dir dir' target rest _
      exact .failed _
  | succ links ih =>
      refine Place.travel_endsAlike hR ?_ followLast segments hplace
      intro dir dir' target rest hdir
      exact ih (h.startOf hdir target) _

theorem Related.placeAt? (hR : Node.Bisimulation R) (h : disk.Related R other)
    (names : List Name) :
    Option.Rel (Place.Related R) (disk.placeAt? names) (other.placeAt? names) := by
  induction names using List.reverseRecOn with
  | nil => exact .some ⟨h.root, .nil⟩
  | append_singleton names name ih =>
      rw [placeAt?_concat, placeAt?_concat]
      generalize disk.placeAt? names = before, other.placeAt? names = before' at ih ⊢
      cases ih with
      | none => exact .none
      | @some place place' hplace =>
          have hnode := hplace.node
          dsimp only
          cases hdir : place.node with
          | file data =>
              rw [hdir] at hnode
              rw [hR.file hnode]
              exact .none
          | link target =>
              rw [hdir] at hnode
              rw [hR.link hnode]
              exact .none
          | dir entries =>
              rw [hdir] at hnode
              obtain ⟨others, hother, hlookup⟩ := hR.dir hnode
              rw [hother]
              dsimp only
              have hfound := hlookup name
              generalize entries.lookup name = found, others.lookup name = found' at hfound ⊢
              cases hfound with
              | none => exact .none
              | some hrelated => exact .some (hplace.enter name hrelated)

/-- On related disks every path fails for the same reason or leads to related places. -/
theorem Related.find (hR : Node.Bisimulation R) (h : disk.Related R other) (followLast : Bool)
    (path : Path) : EndsAlike R (disk.find followLast path) (other.find followLast path) := by
  unfold Disk.find
  split
  · exact .failed _
  · split
    · exact .failed _
    · split
      · exact .failed _
      · have hnames : other.startNames path = disk.startNames path := by
          rw [startNames, startNames, h.workingDir]
        rw [hnames]
        have hstart := h.placeAt? hR (disk.startNames path)
        generalize disk.placeAt? (disk.startNames path) = start,
          other.placeAt? (disk.startNames path) = start' at hstart ⊢
        cases hstart with
        | none => exact .failed _
        | some hplace => exact h.travel hR followLast linkLimit hplace path.segments

theorem pathExists_iff {path : Path} :
    disk.pathExists path = true ↔ ∃ place, disk.find true path = .ok place := by
  unfold pathExists
  cases disk.find true path <;> simp [Except.toOption]

theorem isFile_iff {path : Path} : disk.isFile path = true ↔
    ∃ place, disk.find true path = .ok place ∧ place.node.type = .file := by
  unfold isFile
  cases disk.find true path with
  | error fault => simp
  | ok place =>
      obtain ⟨node, trail⟩ := place
      cases node <;> simp [Node.type]

theorem Related.pathExists_eq (hR : Node.Bisimulation R) (h : disk.Related R other) (path : Path) :
    disk.pathExists path = other.pathExists path := by
  rw [Bool.eq_iff_iff, pathExists_iff, pathExists_iff]
  have hfind := h.find hR true path
  generalize disk.find true path = found, other.find true path = found' at hfind ⊢
  cases hfind with
  | failed fault => simp
  | reached related => simp

/-- On related disks a path leads to files with the same bytes, or to none. -/
theorem Related.readFile_eq (hR : Node.Bisimulation R) (h : disk.Related R other) (path : Path) :
    disk.readFile path = other.readFile path := by
  unfold readFile
  have hfind := h.find hR true path
  generalize disk.find true path = found, other.find true path = found' at hfind ⊢
  cases hfind with
  | failed fault => rfl
  | @reached place place' related =>
      have hnode := related.node
      obtain ⟨node, trail⟩ := place
      obtain ⟨node', trail'⟩ := place'
      dsimp only at hnode
      cases node with
      | file data =>
          obtain rfl := hR.file hnode
          rfl
      | link target =>
          obtain rfl := hR.link hnode
          rfl
      | dir entries =>
          obtain ⟨others, rfl, -⟩ := hR.dir hnode
          rfl

theorem Related.isFile_eq (hR : Node.Bisimulation R) (h : disk.Related R other) (path : Path) :
    disk.isFile path = other.isFile path := by
  rw [Bool.eq_iff_iff, isFile_iff, isFile_iff]
  have hfind := h.find hR true path
  generalize disk.find true path = found, other.find true path = found' at hfind ⊢
  cases hfind with
  | failed fault => simp
  | reached related => simp [hR.type_eq related.node]

/-! ## Proper trees -/

/-- A disk whose tree is proper is related to itself, by a relation that keeps to proper nodes. -/
theorem related_self_of_proper (h : disk.root.Proper) :
    disk.Related (fun node other => node = other ∧ node.Proper) disk := ⟨⟨rfl, h⟩, rfl⟩

/-- On a disk whose tree is proper, look-ups lead to proper nodes. -/
theorem proper_of_find {followLast : Bool} {path : Path} {reached : Place} (h : disk.root.Proper)
    (hfind : disk.find followLast path = .ok reached) : reached.node.Proper := by
  have hself := (related_self_of_proper h).find Node.bisimulation_proper followLast path
  rw [hfind] at hself
  cases hself with
  | reached related => exact related.node.2

end Disk

end HeaderSearch
