/-
# Includes that do not climb

An include leaves the directory that it is looked up in only by climbing: somewhere on its way it
must have gone up more often than it has gone down. As long as it has not, a `..` takes back a name
of the include itself, so the components of the directory are never touched, and what the include
comes to is the same below every directory: names alone, behind the cleaned directory.

An include that does climb leaves a `..` behind that nothing takes back. Below the root of the disk,
where a `..` has no effect, it is lost, so what the include comes to depends on the directory.
-/

import HeaderSearch.Proofs.Path.Cleaning
import Mathlib.Data.List.Infix

namespace HeaderSearch

/-- Does the component go down to an entry of a directory? -/
def Component.isName : Component → Bool
  | .name _ => true
  | _ => false

namespace Path

/-- On the way along the path, nothing is left that was not entered before: `..` is never ahead of
the names. The root and a leading `.` count for neither. -/
def NeverClimbs (p : Path) : Prop :=
  ∀ front ∈ p.components.inits, front.count .up ≤ front.countP Component.isName

instance (p : Path) : Decidable p.NeverClimbs :=
  inferInstanceAs (Decidable (∀ front ∈ p.components.inits, _))

/-- The components that a cleaned path is made of. The text `.` stands for none. -/
def cleanedComponents (p : Path) : List Component := if p.bytes = [dot] then [] else p.components

theorem forall_prefix_cons_iff {α : Type} {P : List α → Prop} {first : α} {rest : List α}
    (hnil : P []) :
    (∀ front, front <+: first :: rest → P front) ↔
      ∀ front, front <+: rest → P (first :: front) := by
  simp only [List.prefix_cons_iff]
  constructor
  · exact fun h front hfront => h _ (.inr ⟨front, rfl, hfront⟩)
  · rintro h front (rfl | ⟨front, rfl, hfront⟩)
    · exact hnil
    · exact h front hfront

/-! ## What is left of a `..` -/

/-- Cleaning takes back names only, so a `..` that stays once stays for good. -/
theorem up_mem_cleanPush {stack : List Component} (h : .up ∈ stack) (component : Component) :
    .up ∈ cleanPush stack component := by
  unfold cleanPush
  split
  · exact h
  · simpa using h
  · exact h
  · exact List.mem_cons_of_mem _ h

theorem up_mem_foldl_cleanPush {stack : List Component} (h : .up ∈ stack)
    (components : List Component) : .up ∈ components.foldl cleanPush stack := by
  induction components generalizing stack with
  | nil => exact h
  | cons component rest ih => exact ih (up_mem_cleanPush h component)

/-- The steps that an include makes are names and `..` alone. -/
theorem ne_root_and_ne_here_of_mem_innerComponents {bytes : List UInt8} :
    ∀ step ∈ innerComponents bytes, step ≠ .root ∧ step ≠ .here :=
  fun _ hstep => (mem_innerComponents hstep).2

/-- On top of names a `..` stays exactly if at some point there were more of them than names to take
back. -/
theorem up_notMem_foldl_cleanPush_iff {steps : List Component}
    (hsteps : ∀ step ∈ steps, step ≠ .root ∧ step ≠ .here) (own : List Name) :
    .up ∉ steps.foldl cleanPush (own.map .name) ↔
      ∀ front, front <+: steps →
        front.count .up ≤ own.length + front.countP Component.isName := by
  induction steps generalizing own with
  | nil => simp
  | cons step rest ih =>
      obtain ⟨hstep, hrest⟩ := List.forall_mem_cons.1 hsteps
      rw [forall_prefix_cons_iff (by simp), List.foldl_cons]
      cases step with
      | root => exact absurd rfl hstep.1
      | here => exact absurd rfl hstep.2
      | name bytes =>
          rw [show cleanPush (own.map .name) (.name bytes) = (bytes :: own).map .name from rfl,
            ih hrest]
          refine forall₂_congr fun front _ => ?_
          have hups : (Component.name bytes :: front).count .up = front.count .up :=
            List.count_cons_of_ne (by simp)
          rw [hups, List.countP_cons_of_pos rfl, List.length_cons]
          omega
      | up =>
          cases own with
          | nil =>
              refine iff_of_false (fun h => h (up_mem_foldl_cleanPush ?_ rest)) fun h => ?_
              · exact List.mem_singleton_self _
              · have hfirst := h [] List.nil_prefix
                rw [List.count_cons_self] at hfirst
                cases hfirst
          | cons last own =>
              rw [show cleanPush ((last :: own).map .name) .up = own.map .name from rfl, ih hrest]
              refine forall₂_congr fun front _ => ?_
              have hnames : (Component.up :: front).countP Component.isName =
                  front.countP Component.isName :=
                List.countP_cons_of_neg (by simp [Component.isName])
              rw [List.count_cons_self, hnames, List.length_cons]
              omega

/-- A path never climbs exactly if cleaning leaves no `..` of it. -/
theorem neverClimbs_iff {p : Path} : p.NeverClimbs ↔ .up ∉ clean (innerComponents p.bytes) := by
  have hstays :=
    up_notMem_foldl_cleanPush_iff (@ne_root_and_ne_here_of_mem_innerComponents p.bytes) []
  rw [List.map_nil] at hstays
  rw [clean, List.mem_reverse, hstays, NeverClimbs]
  simp only [List.mem_inits, List.length_nil, Nat.zero_add]
  rw [components_eq_lead_append]
  rcases p.lead_eq with hlead | hlead | hlead
  · rw [hlead, List.nil_append]
  · rw [hlead, List.singleton_append, forall_prefix_cons_iff (by simp)]
    simp [Component.isName]
  · rw [hlead, List.singleton_append, forall_prefix_cons_iff (by simp)]
    simp [Component.isName]

/-! ## What a directory has to do with it -/

/-- If no `..` stays on top of names, these names are all that is touched, and what lies below them
makes no difference. -/
theorem foldl_cleanPush_append {steps : List Component}
    (hsteps : ∀ step ∈ steps, step ≠ .root ∧ step ≠ .here) {own : List Name}
    (hup : .up ∉ steps.foldl cleanPush (own.map .name)) :
    ∃ left : List Name, ∀ below,
      steps.foldl cleanPush (own.map .name ++ below) = left.map .name ++ below := by
  induction steps generalizing own with
  | nil => exact ⟨own, fun _ => rfl⟩
  | cons step rest ih =>
      obtain ⟨hstep, hrest⟩ := List.forall_mem_cons.1 hsteps
      cases step with
      | root => exact absurd rfl hstep.1
      | here => exact absurd rfl hstep.2
      | name bytes => exact @ih hrest (bytes :: own) hup
      | up =>
          cases own with
          | nil =>
              exact absurd (up_mem_foldl_cleanPush (List.mem_singleton_self _) rest) hup
          | cons last own => exact @ih hrest own hup

/-- A path that never climbs comes to the same names below every directory. -/
theorem NeverClimbs.exists_names {p : Path} (h : p.NeverClimbs) :
    ∃ names : List Name, ∀ dir : Path,
      cleanJoinComponents dir p = clean dir.components ++ names.map .name := by
  have hup : .up ∉ (innerComponents p.bytes).foldl cleanPush (([] : List Name).map .name) := by
    rw [neverClimbs_iff, clean, List.mem_reverse] at h
    exact h
  obtain ⟨left, hleft⟩ := foldl_cleanPush_append ne_root_and_ne_here_of_mem_innerComponents hup
  refine ⟨left.reverse, fun dir => ?_⟩
  calc
    cleanJoinComponents dir p =
        ((innerComponents p.bytes).foldl cleanPush (clean dir.components).reverse).reverse := by
      rw [cleanJoinComponents_eq, clean_append]
    _ = (left.map Component.name ++ (clean dir.components).reverse).reverse := by
      rw [← hleft (clean dir.components).reverse]
      rfl
    _ = clean dir.components ++ left.reverse.map .name := by
      rw [List.reverse_append, List.reverse_reverse, List.map_reverse]

/-- Behind the root of the disk a cleaned path has no `..`. -/
theorem IsCleaned.up_notMem_of_root {rest : List Component} (h : IsCleaned (.root :: rest)) :
    .up ∉ rest := by
  obtain ⟨start, names, hsplit, rfl | ⟨n, rfl⟩⟩ := h
  · rw [List.singleton_append, List.cons.injEq] at hsplit
    rw [hsplit.2]
    simp
  · cases n with
    | zero => cases names <;> cases hsplit
    | succ n => cases hsplit

/-! ## The text of a cleaned path -/

/-- The text of a cleaned path tells the components that cleaning has arrived at. -/
theorem cleanedComponents_cleanJoin (dir rest : Path) :
    (dir.cleanJoin rest).cleanedComponents = cleanJoinComponents dir rest := by
  have hdot : (dir.cleanJoin rest).bytes = [dot] ↔ cleanJoinComponents dir rest = [] := by
    rw [← cleanJoin_eq_dot_iff, Path.mk.injEq]
  rw [cleanedComponents, components_cleanJoin]
  simp only [hdot]
  split
  · next hnil => exact hnil.symm
  · rfl

/-- An include never climbs exactly if it stays below every directory: there it is the cleaned
directory and behind it what the include comes to on its own. And it never climbs exactly if what it
comes to on its own are names. -/
theorem neverClimbs_iff_stays_below (name : String) :
    ((ofString name).NeverClimbs ↔ ∀ dir : Path,
        (dir.cleanJoin (ofString name)).cleanedComponents =
          (dir.cleanJoin (ofString "")).cleanedComponents ++
            ((ofString "").cleanJoin (ofString name)).cleanedComponents) ∧
      ((ofString name).NeverClimbs ↔ ∃ names : List Name,
        ((ofString "").cleanJoin (ofString name)).cleanedComponents = names.map .name) := by
  simp only [cleanedComponents_cleanJoin, cleanJoinComponents_empty]
  have hown : cleanJoinComponents (ofString "") (ofString name) =
      clean (innerComponents (ofString name).bytes) := by
    rw [cleanJoinComponents_eq]
    rfl
  constructor
  · constructor
    · intro hclimbs dir
      obtain ⟨names, hnames⟩ := hclimbs.exists_names
      rw [hnames dir, hnames (ofString "")]
      rfl
    · intro h
      -- Below the root of the disk no `..` is left, so none is left of the include on its own.
      have hroot := h (ofString "/")
      rw [hown] at hroot
      have hcleaned := isCleaned_cleanJoinComponents (ofString "/") (ofString name)
      rw [hroot] at hcleaned
      exact neverClimbs_iff.2 hcleaned.up_notMem_of_root
  · constructor
    · intro hclimbs
      obtain ⟨names, hnames⟩ := hclimbs.exists_names
      exact ⟨names, hnames (ofString "")⟩
    · rintro ⟨names, hnames⟩
      rw [neverClimbs_iff, ← hown, hnames]
      simp

/-- The include is absolute and goes up twice, but never further than it has gone down. -/
example : (ofString "/sys/../net/./if/../if.h").NeverClimbs ∧
    ((ofString "/usr/include/..").cleanJoin (ofString "/sys/../net/./if/../if.h")) =
      ofString "/usr/net/if.h" := by decide

end Path

end HeaderSearch
