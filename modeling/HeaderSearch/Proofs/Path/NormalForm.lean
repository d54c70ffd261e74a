/-
# The normal form of a cleaned path

What cleaning writes can be recognised by its text alone. It is `.`, or a text in which no separator
stands behind another one or at the end, nothing between the separators is `.`, and every `..`
belongs to a run of them at the front, which a path from the root does not have. The bare root is
the one text that ends in a separator.

This form follows from two facts about cleaning that are proved by themselves: each component that
is pushed keeps the shape of what was cleaned before it, and the text that is written for components
of that shape has nothing to spare. Conversely, a text in normal form is the plain spelling of
components that have the shape, so cleaning leaves it as it is. Cleaning therefore leaves nothing as
it is but `.` and the normal forms, and every path that it writes is one of these.

Joining keeps what begins at the root there and leads nothing else to it: the include counts as
relative even if it begins with a separator.
-/

import HeaderSearch.Proofs.Path.Tidy
import Mathlib.Data.List.Infix
import Mathlib.Data.List.TakeWhile

namespace HeaderSearch.Path

/-! ## The shape by its members -/

/-- Components that are neither the root nor `.` nor `..` are names. -/
theorem exists_map_name {components : List Component} (hroot : .root ∉ components)
    (hhere : .here ∉ components) (hup : .up ∉ components) :
    ∃ names : List Name, components = names.map .name := by
  induction components with
  | nil => exact ⟨[], rfl⟩
  | cons first rest ih =>
      rw [List.mem_cons, not_or] at hroot hhere hup
      obtain ⟨names, rfl⟩ := ih hroot.2 hhere.2 hup.2
      cases first with
      | root => exact absurd rfl hroot.1
      | here => exact absurd rfl hhere.1
      | up => exact absurd rfl hup.1
      | name bytes => exact ⟨bytes :: names, rfl⟩

theorem IsCleaned.up_notMem_dropWhile {components : List Component} (h : IsCleaned components) :
    .up ∉ components.dropWhile (· = .up) := by
  obtain ⟨start, names, rfl, rfl | ⟨n, rfl⟩⟩ := h
  · simp
  · have hnames : .up ∉ names.map Component.name := by
      simp
    rw [List.dropWhile_append_of_pos (by simp)]
    exact fun hmem => hnames ((List.dropWhile_sublist _).subset hmem)

/-- Components have the cleaned shape exactly if the root stands nowhere but at the front, there is
no `.`, and there is no `..` but in a run at the front. -/
theorem isCleaned_iff_of_members {components : List Component} : IsCleaned components ↔
    .root ∉ components.tail ∧ .here ∉ components ∧ .up ∉ components.dropWhile (· = .up) := by
  refine ⟨fun h => ⟨h.root_notMem_tail, h.here_notMem, h.up_notMem_dropWhile⟩, ?_⟩
  rintro ⟨hroot, hhere, hup⟩
  by_cases hmem : .root ∈ components
  · cases components with
    | nil => cases hmem
    | cons first rest =>
        rw [List.tail_cons] at hroot
        obtain rfl : .root = first := (List.mem_cons.1 hmem).resolve_right hroot
        rw [List.dropWhile_cons_of_neg (by simp)] at hup
        obtain ⟨names, rfl⟩ := exists_map_name hroot
          (fun h => hhere (List.mem_cons_of_mem _ h)) fun h => hup (List.mem_cons_of_mem _ h)
        exact ⟨[.root], names, rfl, .inl rfl⟩
  · have hrest : components.dropWhile (· = .up) ⊆ components := (List.dropWhile_sublist _).subset
    have hrun : ∀ component ∈ components.takeWhile (· = .up), component = .up :=
      fun component h => by simpa using List.mem_takeWhile_imp h
    obtain ⟨names, hnames⟩ :=
      exists_map_name (fun h => hmem (hrest h)) (fun h => hhere (hrest h)) hup
    refine ⟨components.takeWhile (· = .up), names, ?_, .inr ⟨_, List.eq_replicate_of_mem hrun⟩⟩
    rw [← hnames, List.takeWhile_append_dropWhile]

/-! ## The form of a text -/

/-- A text in normal form. -/
structure IsNormal (p : Path) : Prop where
  /-- The text is not empty. -/
  nonempty : p.bytes ≠ []
  /-- No separator stands behind another one. -/
  unrepeated : ¬ [slash, slash] <:+: p.bytes
  /-- No separator stands at the end, unless it is all there is. -/
  unended : p.bytes.getLast? = some slash → p.bytes = [slash]
  /-- Nothing between the separators is `.`, not even at the front. -/
  undotted : [dot] ∉ p.segments
  /-- Behind the run of `..` at the front there is no other `..`. If the path begins at the root,
  there is no such run. -/
  upsFirst : .up ∉ p.components.dropWhile (· = .up)

instance (p : Path) : Decidable p.IsNormal :=
  decidable_of_iff (p.bytes ≠ [] ∧ ¬ [slash, slash] <:+: p.bytes ∧
      (p.bytes.getLast? = some slash → p.bytes = [slash]) ∧ [dot] ∉ p.segments ∧
      .up ∉ p.components.dropWhile (· = .up))
    ⟨fun ⟨nonempty, unrepeated, unended, undotted, upsFirst⟩ =>
        ⟨nonempty, unrepeated, unended, undotted, upsFirst⟩,
      fun h => ⟨h.nonempty, h.unrepeated, h.unended, h.undotted, h.upsFirst⟩⟩

/-- A text is in normal form exactly if it is tidy and its components have the cleaned shape. -/
theorem isNormal_iff {p : Path} :
    p.IsNormal ↔ p.bytes ≠ [] ∧ p.IsTidy ∧ IsCleaned p.components := by
  have hspare : [] ∈ p.segments.tail ↔
      [slash, slash] <:+: p.bytes ∨ p.bytes.getLast? = some slash := nil_mem_tail_splitOn_iff
  constructor
  · intro h
    have htidy : p.IsTidy := by
      by_cases hroot : p.bytes = [slash]
      · exact .inl hroot
      · refine .inr fun segment hsegment => ⟨?_, ?_⟩
        · rintro rfl
          exact (hspare.1 hsegment).elim h.unrepeated fun hlast => hroot (h.unended hlast)
        · rintro rfl
          exact h.undotted (List.mem_of_mem_tail hsegment)
    have hhere : .here ∉ p.components := by
      rw [here_mem_components_iff]
      exact fun hfirst => h.undotted (List.mem_of_mem_head? hfirst)
    exact ⟨h.nonempty, htidy,
      isCleaned_iff_of_members.2 ⟨root_notMem_tail_components p, hhere, h.upsFirst⟩⟩
  · rintro ⟨hne, hroot | htail, hcleaned⟩
    · rw [show p = ⟨[slash]⟩ from congrArg Path.mk hroot]
      decide
    · have hspared : [] ∉ p.segments.tail := fun hnil => (htail [] hnil).1 rfl
      rw [hspare, not_or] at hspared
      have hundotted : [dot] ∉ p.segments := by
        intro hdot
        have hfirst := hcleaned.here_notMem
        rw [here_mem_components_iff] at hfirst
        obtain ⟨first, rest, hsegments⟩ := p.exists_segments
        rw [hsegments] at hdot hfirst htail
        rcases List.mem_cons.1 hdot with rfl | hdot
        · exact hfirst rfl
        · exact (htail _ hdot).2 rfl
      exact ⟨hne, hspared.1, fun hlast => absurd hlast hspared.2, hundotted,
        hcleaned.up_notMem_dropWhile⟩

/-- From the root nothing goes up. -/
theorem IsNormal.up_notMem {p : Path} (h : p.IsNormal) (habs : p.isAbsolute = true) :
    .up ∉ p.components := by
  have hups := h.upsFirst
  rw [components_eq_lead_append, lead, if_pos habs, List.singleton_append] at hups ⊢
  rwa [List.dropWhile_cons_of_neg (by simp)] at hups

/-! ## Joining below a directory -/

/-- The include neither leads to the root nor away from it. -/
theorem isAbsolute_cleanJoin (dir rest : Path) :
    (dir.cleanJoin rest).isAbsolute = dir.isAbsolute := by
  have hroot : .root ∈ cleanJoinComponents dir rest ↔ .root ∈ dir.components := by
    rw [cleanJoinComponents, root_mem_clean_iff, List.mem_append,
      or_iff_left (root_notMem_relativeComponents rest)]
  rw [Bool.eq_iff_iff, isAbsolute_iff_root_mem, isAbsolute_iff_root_mem, components_cleanJoin,
    ← hroot]
  split
  · next hnil => simp [hnil]
  · rfl

theorem cleanJoin_eq_dot_or_isNormal (dir rest : Path) :
    dir.cleanJoin rest = ofString "." ∨ (dir.cleanJoin rest).IsNormal := by
  by_cases hnil : cleanJoinComponents dir rest = []
  · exact .inl (cleanJoin_eq_dot_iff.2 hnil)
  · refine .inr (isNormal_iff.2 ⟨bytes_cleanJoin_ne_nil dir rest, isTidy_cleanJoin dir rest, ?_⟩)
    rw [components_cleanJoin, if_neg hnil]
    exact isCleaned_cleanJoinComponents dir rest

/-- A text in normal form is left as it is. -/
theorem IsNormal.cleanJoin_eq_self {p : Path} (h : p.IsNormal) :
    p.cleanJoin (ofString "") = p := by
  obtain ⟨hne, htidy, hcleaned⟩ := isNormal_iff.1 h
  rw [cleanJoin, cleanJoinComponents_empty, clean_of_isCleaned hcleaned,
    if_neg (components_ne_nil hne)]
  exact htidy.eq_ofComponents.symm

/-- Whatever is joined below whatever directory, the result is `.` or in normal form. It begins at
the root exactly if the directory does, and then it does not go up anywhere. Conversely, a directory
that is `.` or in normal form stays as it is when nothing is joined below it, and no other does. -/
theorem normal_form_of_cleanJoin (dir : Path) (name : String) :
    (dir.cleanJoin (ofString name) = ofString "." ∨ (dir.cleanJoin (ofString name)).IsNormal) ∧
      (dir.cleanJoin (ofString name)).isAbsolute = dir.isAbsolute ∧
      ((dir.cleanJoin (ofString name)).isAbsolute = true →
        .up ∉ (dir.cleanJoin (ofString name)).components) ∧
      (dir.cleanJoin (ofString "") = dir ↔ dir = ofString "." ∨ dir.IsNormal) := by
  have hform := cleanJoin_eq_dot_or_isNormal dir (ofString name)
  refine ⟨hform, isAbsolute_cleanJoin dir (ofString name), fun habs => ?_, fun hself => ?_, ?_⟩
  · rcases hform with hdot | hnormal
    · rw [hdot]
      decide
    · exact hnormal.up_notMem habs
  · have hown := cleanJoin_eq_dot_or_isNormal dir (ofString "")
    rwa [hself] at hown
  · rintro (rfl | hnormal)
    · decide
    · exact hnormal.cleanJoin_eq_self

/-- An include that begins with a separator and goes up too often stays behind the root. -/
theorem normal_form_below_usr_include :
    ((ofString "/usr//./include/").cleanJoin (ofString "//../../../lib/./x.h")).isAbsolute = true ∧
      ((ofString "/usr//./include/").cleanJoin (ofString "//../../../lib/./x.h")) =
        ofString "/lib/x.h" ∧
      .up ∉ ((ofString "/usr//./include/").cleanJoin
        (ofString "//../../../lib/./x.h")).components := by
  have habs : ((ofString "/usr//./include/").cleanJoin
      (ofString "//../../../lib/./x.h")).isAbsolute = true := by
    decide
  exact ⟨habs, by decide, (normal_form_of_cleanJoin _ _).2.2.1 habs⟩

/-- Below a relative directory what goes up too often stays in front. -/
example : (ofString "./a/../..").cleanJoin (ofString "/../x//y/") = ofString "../../x/y" ∧
    (ofString "../../x/y").IsNormal := by decide

end HeaderSearch.Path
