import ModalHighlight.Proofs.Grammar.Expansion
import ModalHighlight.Proofs.Pattern.Shapes
import Mathlib.Data.Option.NAry

/-!
Outlines of tables.  For lines over a small alphabet a table comes to little: each rule is told by the shape
of its pattern and by what it does to the modes, and rules that never match are left out.  Such an outline is
found group by group.  If it can be expanded, the table compiles, and every mode is summed up by the expanded
outline of its group.
-/

namespace ModalHighlight

open Pattern

/-- An entry of an outline: a rule by its shape and its transition, or an include. -/
inductive OutlineEntry
  | rule (shape : Shape) (transition : Transition)
  | inner (group : String)
deriving Repr, DecidableEq

/-- The outlines of groups by name. -/
abbrev Outline := List (String × List OutlineEntry)

/-- A rule as it is summed up. -/
abbrev RuleSummary := Shape × Transition

section

variable (alphabet : List Char)

/-- The shape of the pattern of a rule, if it has one. -/
def CompiledRule.shape? (r : CompiledRule) : Option Shape :=
  if r.pattern.traced then none else r.pattern.node.shape? alphabet

/-- The outline of a rule: nothing, if it never matches. -/
def CompiledRule.outline? (r : CompiledRule) : Option (List OutlineEntry) :=
  (r.shape? alphabet).map fun shape =>
    if shape = .silent then [] else [.rule shape r.transition]

variable (known : List String)

/-- The outline of an entry.  A rule that is faulty or whose pattern has no shape has none. -/
def FlatEntry.outline? : FlatEntry → Option (List OutlineEntry)
  | .rule r =>
      match r.compile known with
      | .ok compiled => compiled.outline? alphabet
      | .error _ => none
  | .includeGroup name => some [.inner name]
  | .defaultKind _ => some []

/-- The outline of the entries of a group. -/
def outlineEntries? : List FlatEntry → Option (List OutlineEntry)
  | [] => some []
  | entry :: rest => Option.map₂ (· ++ ·) (entry.outline? alphabet known) (outlineEntries? rest)

/-- The outline of a table. -/
def outlineTable? : FlatTable → Option Outline
  | [] => some []
  | (group, entries) :: rest =>
      Option.map₂ (fun first more => (group, first) :: more)
        (outlineEntries? alphabet known entries) (outlineTable? rest)

end

/-- The rules in an outline with its includes replaced. -/
def expandEntries? (inner : String → Option (List RuleSummary)) :
    List OutlineEntry → Option (List RuleSummary)
  | [] => some []
  | .rule shape transition :: rest =>
      (expandEntries? inner rest).map fun more => (shape, transition) :: more
  | .inner group :: rest => Option.map₂ (· ++ ·) (inner group) (expandEntries? inner rest)

/-- The rules in the outline of a group with includes replaced, down to a depth. -/
def expandOutline? (outline : Outline) : Nat → String → Option (List RuleSummary)
  | 0, _ => none
  | depth + 1, group =>
      (outline.lookup group).bind (expandEntries? (expandOutline? outline depth))

/-- Rules are summed up one by one, and those that never match are left out. -/
inductive SumUp (alphabet : List Char) : List CompiledRule → List RuleSummary → Prop
  | nil : SumUp alphabet [] []
  | silent {r rules summary} (hshape : r.shape? alphabet = some .silent)
      (hrest : SumUp alphabet rules summary) : SumUp alphabet (r :: rules) summary
  | rule {r rules summary shape} (hshape : r.shape? alphabet = some shape)
      (hrest : SumUp alphabet rules summary) :
      SumUp alphabet (r :: rules) ((shape, r.transition) :: summary)

theorem SumUp.append {alphabet : List Char} {rules rules' : List CompiledRule}
    {summary summary' : List RuleSummary} (h : SumUp alphabet rules summary)
    (h' : SumUp alphabet rules' summary') : SumUp alphabet (rules ++ rules') (summary ++ summary') := by
  induction h with
  | nil => exact h'
  | silent hshape _ ih => exact .silent hshape ih
  | rule hshape _ ih => exact .rule hshape ih

section

variable {alphabet : List Char} {known : List String}

/-- Every entry has its outline in the outline of its group. -/
theorem exists_entryOutline_of_mem {entries : List FlatEntry} {out : List OutlineEntry}
    (h : outlineEntries? alphabet known entries = some out) :
    ∀ entry ∈ entries, ∃ first, entry.outline? alphabet known = some first ∧ first ⊆ out := by
  induction entries generalizing out with
  | nil => simp
  | cons head rest ih =>
      obtain ⟨first, more, hfirst, hmore, rfl⟩ := Option.map₂_eq_some_iff.mp h
      intro entry hentry
      rcases List.mem_cons.mp hentry with rfl | hrest
      · exact ⟨first, hfirst, List.subset_append_left _ _⟩
      · obtain ⟨own, hown, hsubset⟩ := ih hmore entry hrest
        exact ⟨own, hown, List.Subset.trans hsubset (List.subset_append_right _ _)⟩

/-- Every group has its outline in the outline of the table. -/
theorem exists_outline_of_mem {flat : FlatTable} {outline : Outline}
    (h : outlineTable? alphabet known flat = some outline) {group : String}
    {entries : List FlatEntry} (hgroup : (group, entries) ∈ flat) :
    ∃ out, outlineEntries? alphabet known entries = some out ∧ (group, out) ∈ outline := by
  induction flat generalizing outline with
  | nil => cases hgroup
  | cons head rest ih =>
      obtain ⟨first, more, hfirst, hmore, rfl⟩ := Option.map₂_eq_some_iff.mp h
      rcases List.mem_cons.mp hgroup with rfl | hrest
      · exact ⟨first, hfirst, List.mem_cons_self⟩
      · obtain ⟨out, hout, hmem⟩ := ih hmore hrest
        exact ⟨out, hout, List.mem_cons_of_mem _ hmem⟩

theorem names_outlineTable? {flat : FlatTable} {outline : Outline}
    (h : outlineTable? alphabet known flat = some outline) :
    outline.map (·.1) = flat.map (·.1) := by
  induction flat generalizing outline with
  | nil =>
      cases h
      rfl
  | cons head rest ih =>
      obtain ⟨first, more, _, hmore, rfl⟩ := Option.map₂_eq_some_iff.mp h
      rw [List.map_cons, List.map_cons, ih hmore]

end

section

variable {table : GroupTable} {alphabet : List Char} {outline : Outline}

/-- The outline of a table after naming. -/
def HasOutline (alphabet : List Char) (table : GroupTable) (outline : Outline) : Prop :=
  outlineTable? alphabet (groupNames table) ((allGroups table).map flatGroup) = some outline

theorem HasOutline.lookup (h : HasOutline alphabet table outline)
    (hnodup : (groupNames table).Nodup) {group : String} {entries : List Entry}
    (hgroup : (group, entries) ∈ allGroups table) :
    ∃ out, outline.lookup group = some out ∧
      outlineEntries? alphabet (groupNames table) (flatEntries group 0 entries) = some out := by
  obtain ⟨out, hout, hmem⟩ := exists_outline_of_mem h (List.mem_map_of_mem (f := flatGroup) hgroup)
  have hnames : (outline.map (·.1)).Nodup := by
    rw [names_outlineTable? h, names_flat]
    exact hnodup
  exact ⟨out, lookup_eq_some_of_nodup hnames hmem, hout⟩

/-- A rule with an outline is summed up by it. -/
theorem CompiledRule.sumUp_of_outline? {r : CompiledRule} {first : List OutlineEntry}
    (h : r.outline? alphabet = some first) :
    (first = [] ∧ r.shape? alphabet = some .silent) ∨
      ∃ shape, r.shape? alphabet = some shape ∧ first = [.rule shape r.transition] := by
  obtain ⟨shape, hshape, hfirst⟩ := Option.map_eq_some_iff.mp h
  by_cases hsilent : shape = .silent
  · rw [if_pos hsilent] at hfirst
    exact Or.inl ⟨hfirst.symm, hsilent ▸ hshape⟩
  · rw [if_neg hsilent] at hfirst
    exact Or.inr ⟨shape, hshape, hfirst.symm⟩

/-- What a group expands to is summed up by its expanded outline. -/
theorem Expands.sumUp (houtline : HasOutline alphabet table outline)
    (hnodup : (groupNames table).Nodup) {group : String} {index : Nat} {entries : List Entry}
    {rules : List CompiledRule} (h : Expands table group index entries rules)
    {out : List OutlineEntry}
    (hout : outlineEntries? alphabet (groupNames table) (flatEntries group index entries) = some out)
    {depth : Nat} {summary : List RuleSummary}
    (hsummary : expandEntries? (expandOutline? outline depth) out = some summary) :
    SumUp alphabet rules summary := by
  induction h generalizing out depth summary with
  | nil =>
      cases hout
      cases hsummary
      exact .nil
  | @rule group index kinds pattern push next rest r rules hform _ ih =>
      obtain ⟨first, more, hfirst, hmore, rfl⟩ := Option.map₂_eq_some_iff.mp hout
      simp only [Entry.flat, FlatEntry.outline?] at hfirst
      split at hfirst
      · rename_i compiled hcompile
        obtain rfl := (CompiledForm.of_compile hcompile).unique hform
        rcases compiled.sumUp_of_outline? hfirst with ⟨rfl, hsilent⟩ | ⟨shape, hshape, rfl⟩
        · exact .silent hsilent (ih hmore hsummary)
        · obtain ⟨tail, htail, rfl⟩ := Option.map_eq_some_iff.mp hsummary
          exact .rule hshape (ih hmore htail)
      · cases hfirst
  | default _ ih =>
      obtain ⟨first, more, hfirst, hmore, rfl⟩ := Option.map₂_eq_some_iff.mp hout
      cases hfirst
      exact ih hmore hsummary
  | inner htarget _ _ ihInner ihRest =>
      obtain ⟨first, more, hfirst, hmore, rfl⟩ := Option.map₂_eq_some_iff.mp hout
      cases hfirst
      obtain ⟨head, tail, hhead, htail, rfl⟩ := Option.map₂_eq_some_iff.mp hsummary
      obtain ⟨own, hlookup, hown⟩ := houtline.lookup hnodup htarget
      cases depth with
      | zero => cases hhead
      | succ depth =>
          simp only [expandOutline?, hlookup, Option.bind_some] at hhead
          exact (ihInner hown hhead).append (ihRest hmore htail)

/-- No rule with an outline is faulty. -/
theorem HasOutline.rulesPass (h : HasOutline alphabet table outline) : RulesPass table := by
  intro group hgroup entry hentry
  obtain ⟨out, hout, _⟩ := exists_outline_of_mem h (List.mem_map_of_mem (f := flatGroup) hgroup)
  obtain ⟨first, hfirst, _⟩ := exists_entryOutline_of_mem hout entry hentry
  cases entry with
  | includeGroup name => rfl
  | defaultKind kind => rfl
  | rule r =>
      cases hcompile : r.compile (groupNames table) with
      | ok compiled => simp only [FlatEntry.error?, hcompile]
      | error e =>
          rw [FlatEntry.outline?, hcompile] at hfirst
          cases hfirst

/-- All groups can be expanded. -/
def Outline.Expandable (outline : Outline) (depth : Nat) : Prop :=
  ∀ group ∈ outline.map (·.1), (expandOutline? outline depth group).isSome

theorem isSome_of_mem_expandEntries? {inner : String → Option (List RuleSummary)}
    {out : List OutlineEntry} (h : (expandEntries? inner out).isSome) {target : String}
    (htarget : .inner target ∈ out) : (inner target).isSome := by
  induction out with
  | nil => cases htarget
  | cons head rest ih =>
      obtain ⟨summary, hsummary⟩ := Option.isSome_iff_exists.mp h
      cases head with
      | rule shape transition =>
          obtain ⟨more, hmore, _⟩ := Option.map_eq_some_iff.mp hsummary
          rcases List.mem_cons.mp htarget with heq | hrest
          · cases heq
          · exact ih (by rw [hmore]; rfl) hrest
      | inner group =>
          obtain ⟨first, more, hfirst, hmore, _⟩ := Option.map₂_eq_some_iff.mp hsummary
          rcases List.mem_cons.mp htarget with heq | hrest
          · cases heq
            rw [hfirst]
            rfl
          · exact ih (by rw [hmore]; rfl) hrest

/-- An include leads to a group that can be expanded to a lesser depth. -/
theorem HasOutline.isSome_target (h : HasOutline alphabet table outline)
    (hnodup : (groupNames table).Nodup) {group target : String} {entries : List Entry}
    (hgroup : (group, entries) ∈ allGroups table) (hinclude : .includeGroup target ∈ entries)
    {depth : Nat} (hexpand : (expandOutline? outline (depth + 1) group).isSome) :
    (expandOutline? outline depth target).isSome := by
  obtain ⟨out, hlookup, hout⟩ := h.lookup hnodup hgroup
  simp only [expandOutline?, hlookup, Option.bind_some] at hexpand
  obtain ⟨i, hi⟩ := List.mem_iff_getElem?.mp hinclude
  have hflat : FlatEntry.includeGroup target ∈ flatEntries group 0 entries :=
    List.mem_map.mpr ⟨(.includeGroup target, i), List.mk_mem_zipIdx_iff_getElem?.mpr hi, rfl⟩
  obtain ⟨first, hfirst, hsubset⟩ := exists_entryOutline_of_mem hout _ hflat
  cases hfirst
  exact isSome_of_mem_expandEntries? hexpand (hsubset List.mem_cons_self)

theorem mem_names_of_isSome_expandOutline? {depth : Nat} {group : String}
    (h : (expandOutline? outline depth group).isSome) : group ∈ outline.map (·.1) := by
  cases depth with
  | zero => cases h
  | succ depth =>
      by_contra hgroup
      rw [expandOutline?, lookup_eq_none_iff_notMem_keys.mpr hgroup] at h
      cases h

theorem HasOutline.acyclic (h : HasOutline alphabet table outline)
    (hnodup : (groupNames table).Nodup) {depth : Nat} {group : String}
    (hexpand : (expandOutline? outline depth group).isSome) :
    ¬ Relation.TransGen (Includes table) group group := by
  induction depth generalizing group with
  | zero => cases hexpand
  | succ depth ih =>
      intro hcycle
      obtain ⟨next, hedge, hback⟩ := Relation.TransGen.head'_iff.mp hcycle
      have hround : Relation.TransGen (Includes table) next next := .tail' hback hedge
      obtain ⟨_, entries, hgroup, hinclude⟩ := hedge
      exact ih (h.isSome_target hnodup hgroup hinclude hexpand) hround

theorem HasOutline.mem_outline_iff (h : HasOutline alphabet table outline) {group : String} :
    group ∈ outline.map (·.1) ↔ group ∈ groupNames table := by
  rw [names_outlineTable? h, names_flat]

theorem HasOutline.not_hasIncludeCycle (h : HasOutline alphabet table outline)
    (hnodup : (groupNames table).Nodup) {depth : Nat} (hexpand : outline.Expandable depth) :
    ¬ HasIncludeCycle table := by
  rintro ⟨group, hcycle⟩
  obtain ⟨_, ⟨_, entries, hgroup, _⟩, _⟩ := Relation.TransGen.head'_iff.mp hcycle
  have hname : group ∈ groupNames table := List.mem_map_of_mem (f := Prod.fst) hgroup
  exact h.acyclic hnodup (hexpand group (h.mem_outline_iff.mpr hname)) hcycle

theorem HasOutline.includeReports_eq_nil (h : HasOutline alphabet table outline)
    (hnodup : (groupNames table).Nodup) {depth : Nat} (hexpand : outline.Expandable depth) :
    includeReports table = [] := by
  rw [includeReports, List.flatMap_eq_nil_iff]
  rintro ⟨group, entries⟩ hgroup
  simp only [reportsOn, List.filterMap_eq_nil_iff]
  rintro ⟨entry, i⟩ hentry
  cases hinclude : entry.include? with
  | none => rfl
  | some target =>
      rw [eq_includeGroup_iff.mpr hinclude] at hentry
      have hname : group ∈ groupNames table := List.mem_map_of_mem (f := Prod.fst) hgroup
      have hgroupExpands := hexpand group (h.mem_outline_iff.mpr hname)
      cases depth with
      | zero => cases hgroupExpands
      | succ depth =>
          have htarget := mem_names_of_isSome_expandOutline?
            (h.isSome_target hnodup hgroup (fst_mem_of_mem_zipIdx hentry) hgroupExpands)
          have hknown := h.mem_outline_iff.mp htarget
          simp [unknownInclude?, Option.filter, hknown]

/-- A table of differently named groups compiles if it has an outline that can be expanded, and every mode
is summed up by the expanded outline of its group. -/
theorem HasOutline.compiles (h : HasOutline alphabet table outline)
    (hnames : (table.map (·.1)).Nodup) (hclash : NoNameClash table)
    (hstart : startName ∈ groupNames table) {depth : Nat} (hexpand : outline.Expandable depth)
    (fallback : Kind) :
    ∃ g, compileGroups table fallback = .ok g ∧
      ∀ group summary, expandOutline? outline depth group = some summary →
        ∃ mode, g.mode? group = some mode ∧ SumUp alphabet mode.rules summary := by
  have hnodup : (groupNames table).Nodup := hclash.nodup_allGroups hnames
  obtain ⟨hrules, hstop⟩ := rulesPass_iff.mp h.rulesPass
  have hreports : missingStart table ++ ruleReports table ++
      (flattenAll (checkedGroups table)).reports = [] := by
    rw [reports_eq_nil_iff hnodup, missingStart, if_pos hstart, hrules,
      h.includeReports_eq_nil hnodup hexpand]
    exact ⟨rfl, h.not_hasIncludeCycle hnodup hexpand⟩
  obtain ⟨g, hg⟩ : ∃ g, compileGroups table fallback = .ok g := by
    rw [compileGroups_eq hnames hclash, hstop, hreports]
    exact ⟨_, rfl⟩
  refine ⟨g, hg, fun group summary hsummary => ?_⟩
  have hname : group ∈ groupNames table := by
    rw [← h.mem_outline_iff]
    exact mem_names_of_isSome_expandOutline? (by rw [hsummary]; rfl)
  obtain ⟨⟨group, entries⟩, hgroup, rfl⟩ := List.mem_map.mp hname
  obtain ⟨mode, hmode, hinlines⟩ := (inlines_of_compileGroups hnames hg).2 group entries hgroup
  obtain ⟨out, hlookup, hout⟩ := h.lookup hnodup hgroup
  refine ⟨mode, hmode, ?_⟩
  cases depth with
  | zero => cases hsummary
  | succ depth =>
      simp only [expandOutline?, hlookup, Option.bind_some] at hsummary
      exact ((hinlines.rules_iff _).mpr rfl).sumUp h hnodup hout hsummary

end

end ModalHighlight
