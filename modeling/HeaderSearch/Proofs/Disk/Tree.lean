/-
# Trees as disks hold them

Nothing in the type of a node says that the entries of a directory have different names, or names
that can stand in a path at all. On a disk they have, and this is what makes the way from a
directory to an entry of it readable in both directions: from the names to what they lead to, and
from a path to the names.

What lies below a directory can be told by its path or by the names that lead to it. A walk knows
the paths, and a look-up takes the names.
-/

import HeaderSearch.Disk.Walk
import HeaderSearch.Proofs.Disk.Reached
import HeaderSearch.Proofs.Unordered
import HeaderSearch.Proofs.Path.Spelling

namespace HeaderSearch

instance (component : Component) : Decidable component.Spellable :=
  match component with
  | .name bytes => inferInstanceAs
      (Decidable (Component.ofSegment? bytes = some (.name bytes) ∧ slash ∉ bytes))
  | .root | .here | .up => inferInstanceAs (Decidable True)

namespace Path

/-- The path that names lead to from a directory. -/
def descend (p : Path) (names : List Name) : Path := names.foldl child p

theorem bytes_child_ne_nil {p : Path} (h : p.bytes ≠ []) (name : Name) :
    (p.child name).bytes ≠ [] := by
  unfold child
  split <;> simp [h]

/-- A name that can stand in a path is one segment. -/
theorem splitOn_of_spellable {name : Name} (h : (Component.name name).Spellable) :
    name.splitOn slash = [name] := by
  have hsplit : ([slash].intercalate [name]).splitOn slash = [name] :=
    List.splitOn_intercalate slash (by simpa using h.2) (by simp)
  rwa [List.intercalate_singleton] at hsplit

/-- A name that can stand in a path contributes itself. -/
theorem innerComponents_of_spellable {name : Name} (h : (Component.name name).Spellable) :
    innerComponents name = [.name name] := by
  simp [innerComponents, splitOn_of_spellable h, h.1]

theorem components_descend {p : Path} (hp : p.bytes ≠ []) {names : List Name}
    (hnames : ∀ name ∈ names, (Component.name name).Spellable) :
    (p.descend names).components = p.components ++ names.map .name := by
  induction names generalizing p with
  | nil => simp [descend]
  | cons name rest ih =>
      obtain ⟨hname, hrest⟩ := List.forall_mem_cons.1 hnames
      rw [show p.descend (name :: rest) = (p.child name).descend rest from rfl,
        ih (bytes_child_ne_nil hp name) hrest, components_child hp,
        innerComponents_of_spellable hname]
      simp

/-- Different names lead from a directory to different paths, also if separators do not count. -/
theorem eq_of_same_descend {p : Path} (hp : p.bytes ≠ []) {names others : List Name}
    (hnames : ∀ name ∈ names, (Component.name name).Spellable)
    (hothers : ∀ name ∈ others, (Component.name name).Spellable)
    (h : (p.descend names).Same (p.descend others)) : names = others := by
  rw [Same, components_descend hp hnames, components_descend hp hothers] at h
  have hinjective : Function.Injective Component.name := fun _ _ heq => Component.name.inj heq
  exact List.map_injective_iff.2 hinjective (List.append_cancel_left h)

end Path

namespace Node

/-- What kind of entry a node is to a walk, links not followed. -/
def type : Node → EntryType
  | .file _ => .file
  | .link _ => .link
  | .dir _ => .dir

theorem isDir_iff_type {node : Node} : node.IsDir ↔ node.type = .dir := by
  cases node <;> simp [IsDir, type]

theorem isLink_iff_type {node : Node} : node.IsLink ↔ node.type = .link := by
  cases node <;> simp [IsLink, type]

/-- What holds of files and links, and of a directory if it holds of all its entries, holds of every
node. -/
theorem induction {motive : Node → Prop} (file : ∀ data, motive (.file data))
    (link : ∀ target, motive (.link target))
    (dir : ∀ entries, (∀ entry ∈ entries, motive entry.2) → motive (.dir entries))
    (node : Node) : motive node := by
  refine @Node.rec motive (fun entries => ∀ entry ∈ entries, motive entry.2)
    (fun entry => motive entry.2) file link dir nofun ?_ (fun _ _ h => h) node
  intro entry rest hentry hrest
  exact List.forall_mem_cons.2 ⟨hentry, hrest⟩

/-- A tree as disks hold them: the entries of each directory have different names, and a name holds
no separator and is neither empty nor `.` or `..`. -/
inductive Proper : Node → Prop where
  | file (data : List UInt8) : Proper (.file data)
  | link (target : Path) : Proper (.link target)
  | dir {entries : List (Name × Node)} (distinct : (entries.map Prod.fst).Nodup)
      (names : ∀ entry ∈ entries, (Component.name entry.1).Spellable)
      (nodes : ∀ entry ∈ entries, Proper entry.2) : Proper (.dir entries)

theorem proper_dir_iff {entries : List (Name × Node)} : (Node.dir entries).Proper ↔
    (entries.map Prod.fst).Nodup ∧ (∀ entry ∈ entries, (Component.name entry.1).Spellable) ∧
      ∀ entry ∈ entries, entry.2.Proper := by
  constructor
  · intro h
    cases h with
    | dir distinct names nodes => exact ⟨distinct, names, nodes⟩
  · rintro ⟨distinct, names, nodes⟩
    exact .dir distinct names nodes

mutual

/-- Whether a tree is proper is decided from the leaves up. -/
def decidableProper : (node : Node) → Decidable node.Proper
  | .file data => isTrue (.file data)
  | .link target => isTrue (.link target)
  | .dir entries =>
    haveI := decidableProperAll entries
    decidable_of_iff' _ proper_dir_iff

/-- Whether the trees of all entries are proper. -/
def decidableProperAll : (entries : List (Name × Node)) →
    Decidable (∀ entry ∈ entries, entry.2.Proper)
  | [] => isTrue (List.forall_mem_nil _)
  | (_, node) :: rest =>
    haveI := decidableProper node
    haveI := decidableProperAll rest
    decidable_of_iff' _ List.forall_mem_cons

end

instance : DecidablePred Proper := decidableProper

/-- In a proper directory what is among the entries is what a look-up finds. -/
theorem Proper.lookup_eq_some_iff {entries : List (Name × Node)} (h : (Node.dir entries).Proper)
    {name : Name} {node : Node} : entries.lookup name = some node ↔ (name, node) ∈ entries := by
  cases h with
  | dir distinct _ _ => exact lookup_eq_some_iff_mem distinct

/-- The names lead from the one node to the other, each from a directory to an entry of it. -/
inductive Leads : Node → List Name → Node → Prop where
  | here (node : Node) : Leads node [] node
  | enter {entries : List (Name × Node)} {name : Name} {next : Node} {names : List Name}
      {target : Node} (entry : (name, next) ∈ entries) (rest : Leads next names target) :
      Leads (.dir entries) (name :: names) target

theorem Leads.spellable {node target : Node} {names : List Name} (h : Leads node names target)
    (hproper : node.Proper) : ∀ name ∈ names, (Component.name name).Spellable := by
  induction h with
  | here node => exact nofun
  | enter entry rest ih =>
      cases hproper with
      | dir _ hnames hnodes =>
          exact List.forall_mem_cons.2 ⟨hnames _ entry, ih (hnodes _ entry)⟩

/-- The node lies at `path` below the directory `parent`, which has these entries. The directories
between the two can be listed. -/
inductive Below : Path → List (Name × Node) → Path → Node → Prop where
  | entry {parent : Path} {entries : List (Name × Node)} {name : Name} {node : Node}
      (mem : (name, node) ∈ entries) : Below parent entries (parent.child name) node
  | inside {parent : Path} {entries inner : List (Name × Node)} {name : Name} {path : Path}
      {node : Node} (mem : (name, .dir inner) ∈ entries)
      (listable : (parent.child name).isTooLong = false)
      (below : Below (parent.child name) inner path node) : Below parent entries path node

/-- What lies below a directory is what names lead to. -/
theorem Below.exists_leads {parent path : Path} {entries : List (Name × Node)} {node : Node}
    (h : Below parent entries path node) :
    ∃ name names, path = parent.descend (name :: names) ∧
      Leads (.dir entries) (name :: names) node := by
  induction h with
  | @entry parent entries name node mem => exact ⟨name, [], rfl, .enter mem (.here node)⟩
  | @inside parent entries inner name path node mem listable below ih =>
      obtain ⟨next, names, rfl, hleads⟩ := ih
      exact ⟨name, next :: names, rfl, .enter mem hleads⟩

end Node

end HeaderSearch
