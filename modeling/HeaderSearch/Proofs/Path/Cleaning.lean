/-
# What cleaning yields

Cleaning takes components away and leaves the others in their order, so if it does not make a path
shorter it changes nothing. Its results have one shape: the root or a run of `..`, and then names
alone. Components of this shape are left as they are, so cleaning twice is cleaning once.

The cleaned path is written out as a text again. The text is read as the components that were
written, so two cleaned paths are the same path exactly if their components were the same before
they were spelled. Names alone are never cleaned away, so below a directory that cleaning leaves
alone they lead where they lead uncleaned.
-/

import HeaderSearch.Proofs.Path.Spelling
import Mathlib.Data.List.Induction

namespace HeaderSearch.Path

/-! ## What cleaning takes away -/

theorem cleanPush_sublist (stack : List Component) (component : Component) :
    List.Sublist (cleanPush stack component) (component :: stack) := by
  unfold cleanPush
  split
  · exact List.sublist_cons_self _ _
  · exact (List.sublist_cons_self _ _).trans (List.sublist_cons_self _ _)
  · exact List.sublist_cons_self _ _
  · exact List.Sublist.refl _

theorem foldl_cleanPush_sublist (components stack : List Component) :
    List.Sublist (components.foldl cleanPush stack) (components.reverse ++ stack) := by
  induction components generalizing stack with
  | nil => exact List.Sublist.refl stack
  | cons component rest ih =>
      rw [List.foldl_cons, List.reverse_cons, List.append_assoc, List.singleton_append]
      exact (ih _).trans ((cleanPush_sublist stack component).append_left _)

/-- Cleaning takes components away and leaves the others in their order. -/
theorem clean_sublist (components : List Component) :
    List.Sublist (clean components) components := by
  have h := foldl_cleanPush_sublist components []
  rw [List.append_nil] at h
  simpa [clean] using h.reverse

/-- Cleaning that takes nothing away changes nothing. -/
theorem clean_eq_self_of_length {components : List Component}
    (h : components.length ≤ (clean components).length) : clean components = components :=
  (clean_sublist components).eq_of_length_le h

/-- Cleaning invents no components. -/
theorem mem_of_mem_clean {components : List Component} {component : Component}
    (h : component ∈ clean components) : component ∈ components :=
  (clean_sublist components).subset h

/-! ## The shape of a cleaned path -/

/-- The shape that cleaning leads to: the root or a run of `..`, and names behind it. -/
def IsCleaned (components : List Component) : Prop :=
  ∃ (start : List Component) (names : List Name), components = start ++ names.map .name ∧
    (start = [.root] ∨ ∃ n, start = List.replicate n .up)

/-- Cleaning goes on with more components where it stood. -/
theorem clean_append (front back : List Component) :
    clean (front ++ back) = (back.foldl cleanPush (clean front).reverse).reverse := by
  rw [clean, clean, List.foldl_append, List.reverse_reverse]

theorem clean_concat (components : List Component) (last : Component) :
    clean (components ++ [last]) = (cleanPush (clean components).reverse last).reverse :=
  clean_append components [last]

/-- Names are never taken back by what comes before them. -/
theorem clean_append_names (front : List Component) (names : List Name) :
    clean (front ++ names.map .name) = clean front ++ names.map .name := by
  have hnames (stack : List Component) :
      (names.map Component.name).foldl cleanPush stack =
        (names.map Component.name).reverse ++ stack := by
    induction names generalizing stack with
    | nil => rfl
    | cons name rest ih =>
        rw [List.map_cons, List.foldl_cons, ih]
        simp [cleanPush]
  rw [clean_append, hnames, List.reverse_append, List.reverse_reverse, List.reverse_reverse]

theorem cleanPush_replicate_up (n : Nat) :
    cleanPush (List.replicate n .up) .up = List.replicate (n + 1) .up := by
  cases n <;> rfl

theorem clean_replicate_up (n : Nat) : clean (List.replicate n .up) = List.replicate n .up := by
  induction n with
  | zero => rfl
  | succ n ih =>
      rw [List.replicate_succ', clean_concat, ih, List.reverse_replicate,
        cleanPush_replicate_up, List.reverse_replicate, List.replicate_succ']

/-- Components of the cleaned shape stay as they are. -/
theorem clean_of_isCleaned {components : List Component} (h : IsCleaned components) :
    clean components = components := by
  obtain ⟨start, names, rfl, hstart⟩ := h
  rw [clean_append_names]
  rcases hstart with rfl | ⟨n, rfl⟩
  · rfl
  · rw [clean_replicate_up]

/-- One more component, unless it is the root, leads from the cleaned shape to the cleaned
shape. -/
theorem isCleaned_cleanPush {components : List Component} (h : IsCleaned components)
    {component : Component} (hroot : component ≠ .root) :
    IsCleaned (cleanPush components.reverse component).reverse := by
  obtain ⟨start, names, rfl, hstart⟩ := h
  cases component with
  | root => exact absurd rfl hroot
  | here =>
      refine ⟨start, names, ?_, hstart⟩
      simp [cleanPush]
  | name bytes =>
      refine ⟨start, names ++ [bytes], ?_, hstart⟩
      simp [cleanPush]
  | up =>
      rcases List.eq_nil_or_concat names with rfl | ⟨names, last, rfl⟩
      · rcases hstart with rfl | ⟨n, rfl⟩
        · exact ⟨[.root], [], rfl, .inl rfl⟩
        · refine ⟨List.replicate (n + 1) .up, [], ?_, .inr ⟨n + 1, rfl⟩⟩
          rw [List.map_nil, List.append_nil, List.append_nil, List.reverse_replicate,
            cleanPush_replicate_up, List.reverse_replicate]
      · refine ⟨start, names, ?_, hstart⟩
        simp [cleanPush]

/-- Whatever has the root at most at its front is brought into the cleaned shape. -/
theorem isCleaned_clean {components : List Component} (h : .root ∉ components.tail) :
    IsCleaned (clean components) := by
  induction components using List.reverseRecOn with
  | nil => exact ⟨[], [], rfl, .inr ⟨0, rfl⟩⟩
  | append_singleton components last ih =>
      cases components with
      | nil =>
          cases last with
          | root => exact ⟨[.root], [], rfl, .inl rfl⟩
          | here => exact ⟨[], [], rfl, .inr ⟨0, rfl⟩⟩
          | up => exact ⟨[.up], [], rfl, .inr ⟨1, rfl⟩⟩
          | name bytes => exact ⟨[], [bytes], rfl, .inr ⟨0, rfl⟩⟩
      | cons first rest =>
          rw [List.cons_append, List.tail_cons, List.mem_append, not_or,
            List.mem_singleton] at h
          rw [clean_concat]
          exact isCleaned_cleanPush (ih h.1) fun hlast => h.2 hlast.symm

theorem IsCleaned.root_notMem_tail {components : List Component} (h : IsCleaned components) :
    .root ∉ components.tail := by
  obtain ⟨start, names, rfl, rfl | ⟨n, rfl⟩⟩ := h
  · simp
  · intro hmem
    have hroot := List.mem_of_mem_tail hmem
    simp at hroot

theorem IsCleaned.here_notMem {components : List Component} (h : IsCleaned components) :
    .here ∉ components := by
  obtain ⟨start, names, rfl, rfl | ⟨n, rfl⟩⟩ := h <;> simp

/-- Nothing takes the root back. -/
theorem root_mem_cleanPush_iff {stack : List Component} {component : Component} :
    .root ∈ cleanPush stack component ↔ component = .root ∨ .root ∈ stack := by
  unfold cleanPush
  split
  · simp
  · simp
  · simp
  · rw [List.mem_cons, eq_comm]

theorem root_mem_clean_iff {components : List Component} :
    .root ∈ clean components ↔ .root ∈ components := by
  induction components using List.reverseRecOn with
  | nil => rfl
  | append_singleton components last ih =>
      rw [clean_concat, List.mem_reverse, root_mem_cleanPush_iff, List.mem_reverse, ih,
        List.mem_append, List.mem_singleton, or_comm, eq_comm]

/-! ## Joining below a directory -/

/-- A `.` makes no difference to cleaning. -/
theorem clean_append_here (front back : List Component) :
    clean (front ++ .here :: back) = clean (front ++ back) := by
  rw [clean_append, clean_append, List.foldl_cons]
  rfl

theorem filter_ne_root_eq_self {components : List Component} (h : .root ∉ components) :
    components.filter (· ≠ .root) = components := by
  rw [List.filter_eq_self]
  intro component hmem
  rw [decide_eq_true_iff]
  rintro rfl
  exact h hmem

theorem root_notMem_innerComponents (bytes : List UInt8) : .root ∉ innerComponents bytes :=
  fun h => (mem_innerComponents h).2.1 rfl

theorem relativeComponents_eq (p : Path) :
    p.relativeComponents = p.lead.filter (· ≠ .root) ++ innerComponents p.bytes := by
  rw [relativeComponents, components_eq_lead_append, List.filter_append,
    filter_ne_root_eq_self (root_notMem_innerComponents p.bytes)]

/-- What an include contributes to the cleaned path is what its text contributes behind a
separator. -/
theorem clean_append_relativeComponents (front : List Component) (p : Path) :
    clean (front ++ p.relativeComponents) = clean (front ++ innerComponents p.bytes) := by
  rw [relativeComponents_eq]
  rcases p.lead_eq with hlead | hlead | hlead
  · rw [hlead]
    rfl
  · rw [hlead]
    rfl
  · rw [hlead]
    exact clean_append_here front _

theorem cleanJoinComponents_eq (dir rest : Path) :
    cleanJoinComponents dir rest = clean (dir.components ++ innerComponents rest.bytes) :=
  clean_append_relativeComponents dir.components rest

/-- Joining nothing is cleaning the directory. -/
theorem cleanJoinComponents_empty (dir : Path) :
    cleanJoinComponents dir (ofString "") = clean dir.components := by
  rw [cleanJoinComponents_eq, show innerComponents (ofString "").bytes = [] from rfl,
    List.append_nil]

/-- The text of a cleaned path is made of its components, so it depends on nothing else. -/
theorem cleanJoin_eq_of_components_eq {dir dir' rest rest' : Path}
    (h : cleanJoinComponents dir rest = cleanJoinComponents dir' rest') :
    dir.cleanJoin rest = dir'.cleanJoin rest' := by
  rw [cleanJoin, cleanJoin, h]

theorem root_notMem_tail_append (dir : Path) {back : List Component} (hback : .root ∉ back) :
    .root ∉ (dir.components ++ back).tail := by
  have hdir := root_notMem_tail_components dir
  cases hcomponents : dir.components with
  | nil => exact fun h => hback (List.mem_of_mem_tail h)
  | cons first rest =>
      rw [hcomponents, List.tail_cons] at hdir
      rw [List.cons_append, List.tail_cons, List.mem_append, not_or]
      exact ⟨hdir, hback⟩

theorem root_notMem_relativeComponents (p : Path) : .root ∉ p.relativeComponents := by
  simp [relativeComponents]

theorem isCleaned_cleanJoinComponents (dir rest : Path) :
    IsCleaned (cleanJoinComponents dir rest) :=
  isCleaned_clean (root_notMem_tail_append dir (root_notMem_relativeComponents rest))

theorem spellable_of_mem_joined {dir rest : Path} {component : Component}
    (h : component ∈ dir.components ++ rest.relativeComponents) : component.Spellable := by
  rcases List.mem_append.1 h with h | h
  · exact spellable_of_mem_components h
  · exact spellable_of_mem_components (List.mem_of_mem_filter h)

theorem spellable_of_mem_cleanJoinComponents {dir rest : Path} {component : Component}
    (h : component ∈ cleanJoinComponents dir rest) : component.Spellable :=
  spellable_of_mem_joined (mem_of_mem_clean h)

/-- The path below a directory is read as the cleaned components, and as a `.` if there are
none. -/
theorem components_cleanJoin (dir rest : Path) :
    (dir.cleanJoin rest).components =
      if cleanJoinComponents dir rest = [] then [.here] else cleanJoinComponents dir rest := by
  have hcleaned := isCleaned_cleanJoinComponents dir rest
  unfold cleanJoin
  dsimp only
  split
  · rfl
  · exact components_ofComponents (fun _ => spellable_of_mem_cleanJoinComponents)
      hcleaned.root_notMem_tail fun hmem => hcleaned.here_notMem (List.mem_of_mem_tail hmem)

theorem bytes_cleanJoin_ne_nil (dir rest : Path) : (dir.cleanJoin rest).bytes ≠ [] := by
  rw [ne_eq, bytes_eq_nil_iff, components_cleanJoin]
  split
  · simp
  · assumption

/-- Only where no components are left does cleaning write a `.`. -/
theorem cleanJoin_eq_dot_iff {dir rest : Path} :
    dir.cleanJoin rest = ⟨[dot]⟩ ↔ cleanJoinComponents dir rest = [] := by
  constructor
  · intro hdot
    by_contra hne
    have hcomponents := components_cleanJoin dir rest
    rw [if_neg hne, hdot] at hcomponents
    apply (isCleaned_cleanJoinComponents dir rest).here_notMem
    rw [← hcomponents]
    exact List.mem_singleton_self _
  · intro hnil
    rw [cleanJoin, hnil]
    rfl

/-- Cleaning a path below a directory once more makes no difference. -/
theorem clean_components_cleanJoin (dir rest : Path) :
    clean (dir.cleanJoin rest).components = cleanJoinComponents dir rest := by
  rw [components_cleanJoin]
  split
  · next h =>
    rw [h]
    rfl
  · exact clean_of_isCleaned (isCleaned_cleanJoinComponents dir rest)

/-- Cleaned paths are the same exactly if their components are. -/
theorem same_cleanJoin_iff {dir dir' rest rest' : Path} :
    (dir.cleanJoin rest).Same (dir'.cleanJoin rest') ↔
      cleanJoinComponents dir rest = cleanJoinComponents dir' rest' := by
  constructor
  · intro h
    rw [← clean_components_cleanJoin, ← clean_components_cleanJoin,
      show (dir.cleanJoin rest).components = (dir'.cleanJoin rest').components from h]
  · intro h
    rw [Same, components_cleanJoin, components_cleanJoin, h]

/-! ## Plain paths -/

/-- A path that consists of names alone, as an include is usually written. -/
def IsPlain (p : Path) : Prop := ∃ names : List Name, p.components = names.map .name

theorem IsPlain.lead_eq {p : Path} (h : p.IsPlain) : p.lead = [] := by
  obtain ⟨names, hnames⟩ := h
  rw [components_eq_lead_append] at hnames
  rcases p.lead_eq with hlead | hlead | hlead
  · exact hlead
  · rw [hlead] at hnames
    cases names <;> cases hnames
  · rw [hlead] at hnames
    cases names <;> cases hnames

theorem IsPlain.root_notMem {p : Path} (h : p.IsPlain) : .root ∉ p.components := by
  obtain ⟨names, hnames⟩ := h
  rw [hnames]
  simp

/-- A plain path contributes the same components at the front of a text and behind a separator. -/
theorem IsPlain.components_eq {p : Path} (h : p.IsPlain) :
    p.components = innerComponents p.bytes := by
  rw [components_eq_lead_append, h.lead_eq, List.nil_append]

/-- A plain path below a directory is the cleaned directory with the names behind it. -/
theorem IsPlain.cleanJoinComponents_eq {p : Path} (h : p.IsPlain) (dir : Path) :
    cleanJoinComponents dir p = clean dir.components ++ p.components := by
  rw [cleanJoinComponents, relativeComponents, filter_ne_root_eq_self h.root_notMem]
  obtain ⟨names, hnames⟩ := h
  rw [hnames, clean_append_names]

/-- Below a directory that cleaning leaves alone, a plain path leads to the same path whether the
result is cleaned or not. -/
theorem IsPlain.same_cleanJoin {p : Path} (h : p.IsPlain) {dir : Path}
    (hdir : clean dir.components = dir.components) (hne : dir.bytes ≠ []) :
    (dir.join p).Same (dir.cleanJoin p) := by
  have hcomponents : cleanJoinComponents dir p = dir.components ++ p.components := by
    rw [h.cleanJoinComponents_eq, hdir]
  have hne' : dir.components ++ p.components ≠ [] := by
    intro hnil
    exact components_ne_nil hne (List.append_eq_nil_iff.1 hnil).1
  rw [Same, components_join hne h.lead_eq, components_cleanJoin, hcomponents, if_neg hne']

end HeaderSearch.Path
