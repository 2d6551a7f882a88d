import ModalHighlight.Proofs.Grammar.Reports

/-!
Includes are replaced in place.  The expansion of a group takes its entries in order and remembers nothing:
a rule stands for its own compiled form, an include for the expansion of its target, and a default for
nothing.  A compilation looks finished groups up instead, and cuts an include that leads back to its path.
In a grammar that compiles nothing was cut, so every mode holds the expansion of its group.
-/

namespace ModalHighlight

/-- The kind that an entry names for unmatched text. -/
def Entry.default? : Entry → Option String
  | .defaultKind kind => some kind
  | _ => none

/-- The compiled form of the rule at an entry of a group.  It has the kinds of the rule and its pattern, it
opens the group that the rule names or writes in place, and it goes on as the rule says. -/
structure CompiledForm (group : String) (index : Nat) (kinds : List String) (pattern : PatternSource)
    (push : Push) (next : Option String) (r : CompiledRule) : Prop where
  kinds_eq : r.kinds = kinds
  pattern_eq : pattern.compile = .ok r.pattern
  push_eq : r.transition.push? = push.target? group index
  next_eq : r.transition.next? = next
  pop_eq : next = some popWord → r.transition = .pop

/-- The rules that entries of a group, counted from an index on, expand to. -/
inductive Expands (table : GroupTable) : String → Nat → List Entry → List CompiledRule → Prop
  | nil {group index} : Expands table group index [] []
  | rule {group index kinds pattern push next rest r rules}
      (hform : CompiledForm group index kinds pattern push next r)
      (hrest : Expands table group (index + 1) rest rules) :
      Expands table group index (.rule kinds pattern push next :: rest) (r :: rules)
  | default {group index kind rest rules} (hrest : Expands table group (index + 1) rest rules) :
      Expands table group index (.defaultKind kind :: rest) rules
  | inner {group index target entries rest inner rules}
      (htarget : (target, entries) ∈ allGroups table) (hinner : Expands table target 0 entries inner)
      (hrest : Expands table group (index + 1) rest rules) :
      Expands table group index (.includeGroup target :: rest) (inner ++ rules)

/-- A mode that stands for a group: its rules are what the entries of the group expand to, and nothing else,
and its default is the first that is one of these entries. -/
structure Mode.Inlines (table : GroupTable) (group : String) (entries : List Entry) (mode : Mode) :
    Prop where
  name_eq : mode.name = group
  rules_iff : ∀ rules, Expands table group 0 entries rules ↔ mode.rules = rules
  default_eq : mode.defaultKind = entries.findSome? Entry.default?

theorem Transition.eq_of_views {t u : Transition} (hpush : t.push? = u.push?)
    (hnext : t.next? = u.next?) (ht : t.next? = some popWord → t = .pop)
    (hu : u.next? = some popWord → u = .pop) : t = u := by
  by_cases hpop : t.next? = some popWord
  · rw [ht hpop, hu (hnext ▸ hpop)]
  · cases t <;> cases u <;> simp_all [push?, next?]

theorem CompiledForm.unique {group : String} {index : Nat} {kinds : List String}
    {pattern : PatternSource} {push : Push} {next : Option String} {r r' : CompiledRule}
    (h : CompiledForm group index kinds pattern push next r)
    (h' : CompiledForm group index kinds pattern push next r') : r = r' := by
  have hpattern : r.pattern = r'.pattern := by
    simpa [h.pattern_eq] using h'.pattern_eq
  have htransition : r.transition = r'.transition := by
    apply Transition.eq_of_views (h.push_eq.trans h'.push_eq.symm) (h.next_eq.trans h'.next_eq.symm)
    · exact fun hpop => h.pop_eq (h.next_eq ▸ hpop)
    · exact fun hpop => h'.pop_eq (h'.next_eq ▸ hpop)
  have hkinds : r.kinds = r'.kinds := h.kinds_eq.trans h'.kinds_eq.symm
  obtain ⟨_, _, _⟩ := r
  obtain ⟨_, _, _⟩ := r'
  cases hkinds
  cases hpattern
  cases htransition
  rfl

theorem entries_eq_of_mem_allGroups {table : GroupTable} (hnodup : (groupNames table).Nodup)
    {group : String} {entries entries' : List Entry} (h : (group, entries) ∈ allGroups table)
    (h' : (group, entries') ∈ allGroups table) : entries = entries' := by
  have hlookup := lookup_eq_some_of_nodup hnodup h
  rw [lookup_eq_some_of_nodup hnodup h'] at hlookup
  exact (Option.some.inj hlookup).symm

theorem Expands.unique {table : GroupTable} (hnodup : (groupNames table).Nodup) {group : String}
    {index : Nat} {entries : List Entry} {rules rules' : List CompiledRule}
    (h : Expands table group index entries rules) (h' : Expands table group index entries rules') :
    rules = rules' := by
  induction h generalizing rules' with
  | nil =>
      cases h'
      rfl
  | rule hform _ ih =>
      cases h' with
      | rule hform' hrest' => rw [hform.unique hform', ih hrest']
  | default _ ih =>
      cases h' with
      | default hrest' => exact ih hrest'
  | inner htarget _ _ ihInner ihRest =>
      cases h' with
      | inner htarget' hinner' hrest' =>
          cases entries_eq_of_mem_allGroups hnodup htarget htarget'
          rw [ihInner hinner', ihRest hrest']

theorem CompiledForm.of_compile {known : List String} {group : String} {index : Nat}
    {kinds : List String} {pattern : PatternSource} {push : Push} {next : Option String}
    {r : CompiledRule}
    (h : FlatRule.compile known ⟨kinds, pattern, push.target? group index, next⟩ = .ok r) :
    CompiledForm group index kinds pattern push next r := by
  simp only [FlatRule.compile] at h
  split at h
  · cases h
  split at h
  · cases h
  rename_i hboth
  split at h
  · cases h
  split at h
  · cases h
  rename_i hpattern
  split at h
  · cases h
  cases h
  have hviews : ∀ opened : Option String, ¬ (opened.isSome && next.isSome) = true →
      (Transition.ofRule opened next).push? = opened ∧
        (Transition.ofRule opened next).next? = next ∧
        (next = some popWord → Transition.ofRule opened next = .pop) := by
    intro opened hexclusive
    cases opened with
    | some name => cases next <;> simp_all [Transition.ofRule, Transition.push?, Transition.next?]
    | none =>
        cases next with
        | none => simp [Transition.ofRule, Transition.push?, Transition.next?]
        | some name =>
            by_cases hpop : name = popWord <;>
              simp [Transition.ofRule, Transition.push?, Transition.next?, hpop]
  obtain ⟨hpush, hnext, hpop⟩ := hviews _ hboth
  exact ⟨rfl, hpattern, hpush, hnext, hpop⟩

/-- A checked rule is the compiled form of a rule. -/
theorem exists_form_of_checked_eq_rule {known : List String} {group : String} {index : Nat}
    {entry : Entry} {r : CompiledRule} (h : (entry.flat group index).checked known = .rule r) :
    ∃ kinds pattern push next, entry = .rule kinds pattern push next ∧
      CompiledForm group index kinds pattern push next r := by
  cases entry with
  | includeGroup name => cases h
  | defaultKind kind => cases h
  | rule kinds pattern push next =>
      simp only [Entry.flat, FlatEntry.checked] at h
      split at h
      · rename_i hcompile
        cases h
        exact ⟨kinds, pattern, push, next, rfl, .of_compile hcompile⟩
      · cases h

theorem error?_ne_none_of_checked_eq_faulty {known : List String} {entry : FlatEntry}
    (h : entry.checked known = .faulty) : entry.error? known ≠ none := by
  cases entry with
  | includeGroup name => cases h
  | defaultKind kind => cases h
  | rule r =>
      simp only [FlatEntry.checked] at h
      simp only [FlatEntry.error?]
      split at h
      · cases h
      · rename_i hcompile
        simp

theorem eq_of_checked_eq_defaultKind {known : List String} {group kind : String} {index : Nat}
    {entry : Entry} (h : (entry.flat group index).checked known = .defaultKind kind) :
    entry = .defaultKind kind := by
  cases entry with
  | includeGroup name => cases h
  | defaultKind other =>
      cases h
      rfl
  | rule kinds pattern push next =>
      simp only [Entry.flat, FlatEntry.checked] at h
      split at h <;> cases h

theorem eq_of_checked_eq_includeGroup {known : List String} {group target : String} {index : Nat}
    {entry : Entry} (h : (entry.flat group index).checked known = .includeGroup target) :
    entry = .includeGroup target := by
  rw [eq_includeGroup_iff, ← include?_checked_flat known entry group index, h]
  rfl

/-- The entries of a group as a walk meets them. -/
def walkedEntries (known : List String) (group : String) (index : Nat) (entries : List Entry) :
    List (CheckedEntry × Nat) :=
  ((flatEntries group index entries).map (FlatEntry.checked known)).zipIdx index

theorem walkedEntries_cons (known : List String) (group : String) (index : Nat) (entry : Entry)
    (rest : List Entry) :
    walkedEntries known group index (entry :: rest) =
      ((entry.flat group index).checked known, index) ::
        walkedEntries known group (index + 1) rest := rfl

/-- What a walk meets first is the first of the entries. -/
theorem exists_of_cons_eq_walkedEntries {known : List String} {group : String} {index i : Nat}
    {entries : List Entry} {checked : CheckedEntry} {walked : List (CheckedEntry × Nat)}
    (h : (checked, i) :: walked = walkedEntries known group index entries) :
    ∃ entry rest, entries = entry :: rest ∧ (entry.flat group index).checked known = checked ∧
      walked = walkedEntries known group (index + 1) rest := by
  cases entries with
  | nil => cases h
  | cons entry rest =>
      rw [walkedEntries_cons, List.cons.injEq, Prod.mk.injEq] at h
      exact ⟨entry, rest, rfl, h.1.1.symm, h.2⟩

/-- Every rule of a table passes its check. -/
def RulesPass (table : GroupTable) : Prop :=
  ∀ group ∈ allGroups table, ∀ entry ∈ flatEntries group.1 0 group.2,
    entry.error? (groupNames table) = none

/-- The rules of all finished groups are their expansions. -/
def Flattening.Expanded (table : GroupTable) (s : Flattening) : Prop :=
  ∀ group rules, s.finished.lookup group = some rules →
    ∀ entries, (group, entries) ∈ allGroups table → Expands table group 0 entries rules

theorem Flattening.Expanded.finish {table : GroupTable} {s : Flattening} {group : String}
    {rules : List CompiledRule} (h : s.Expanded table)
    (hrules : ∀ entries, (group, entries) ∈ allGroups table → Expands table group 0 entries rules) :
    (s.finish group rules).Expanded table := by
  intro name found hfound entries hentries
  simp only [Flattening.finish, List.lookup_append, Option.or_eq_some_iff] at hfound
  rcases hfound with hold | ⟨_, hnew⟩
  · exact h name found hold entries hentries
  · obtain ⟨rfl, rfl⟩ : name = group ∧ found = rules := by
      simpa using mem_of_lookup_eq_some hnew
    exact hrules entries hentries

/-- Nothing has been reported. -/
def Flattening.Quiet (s : Flattening) : Prop :=
  s.reports = [] ∧ s.cycles = []

/-- A walk takes no report back. -/
theorem Walk.quiet {table : CheckedTable} {path : List String} {group : String}
    {walked : List (CheckedEntry × Nat)} {found out : List CompiledRule} {s t : Flattening}
    (h : Walk table path group walked found s out t) (ht : t.Quiet) : s.Quiet := by
  have hkept : Flattening.Kept fun u => u.Quiet → s.Quiet :=
    { report := fun _ hu => absurd hu.1 (by simp [Flattening.report])
      reportCycle := fun _ _ hu => absurd hu.2 (cycles_reportCycle_ne_nil _ _ _ _ _)
      finish := id }
  exact h.preserves hkept id ht

section

variable {table : GroupTable}

theorem zipIdx_entriesOf (hnodup : (groupNames table).Nodup) {group : String}
    {entries : List Entry} (hgroup : (group, entries) ∈ allGroups table) :
    (entriesOf (checkedGroups table) group).zipIdx =
      walkedEntries (groupNames table) group 0 entries := by
  rw [entriesOf_checkedGroups hnodup hgroup, walkedEntries]

/-- A walk that has nothing to report finds the expansion of the entries it meets. -/
theorem Walk.expands (hnodup : (groupNames table).Nodup) (hpass : RulesPass table)
    {path : List String} {group : String} {walked : List (CheckedEntry × Nat)}
    {found out : List CompiledRule} {s t : Flattening}
    (h : Walk (checkedGroups table) path group walked found s out t) (ht : t.Quiet)
    {index : Nat} {entries : List Entry}
    (hwalked : walked = walkedEntries (groupNames table) group index entries)
    (hentries : ∀ entry ∈ flatEntries group index entries, entry.error? (groupNames table) = none)
    (hs : s.Expanded table) :
    (∃ rules, out = found ++ rules ∧ Expands table group index entries rules) ∧
      t.Expanded table := by
  induction h generalizing index entries with
  | done =>
      cases entries with
      | nil => exact ⟨⟨[], by simp, .nil⟩, hs⟩
      | cons entry rest => cases hwalked
  | rule _ ih =>
      obtain ⟨entry, rest, rfl, hchecked, hrest⟩ := exists_of_cons_eq_walkedEntries hwalked
      obtain ⟨kinds, pattern, push, next, rfl, hform⟩ := exists_form_of_checked_eq_rule hchecked
      obtain ⟨⟨rules, rfl, hrules⟩, hexpanded⟩ :=
        ih ht hrest (List.forall_mem_cons.mp hentries).2 hs
      exact ⟨⟨_, by rw [List.append_assoc, List.singleton_append], .rule hform hrules⟩, hexpanded⟩
  | faulty _ _ =>
      obtain ⟨entry, rest, rfl, hchecked, _⟩ := exists_of_cons_eq_walkedEntries hwalked
      exact absurd (hentries _ List.mem_cons_self) (error?_ne_none_of_checked_eq_faulty hchecked)
  | default _ ih =>
      obtain ⟨entry, rest, rfl, hchecked, hrest⟩ := exists_of_cons_eq_walkedEntries hwalked
      cases eq_of_checked_eq_defaultKind hchecked
      obtain ⟨⟨rules, hout, hrules⟩, hexpanded⟩ :=
        ih ht hrest (List.forall_mem_cons.mp hentries).2 hs
      exact ⟨⟨rules, hout, .default hrules⟩, hexpanded⟩
  | unknown _ hrest _ => exact absurd (hrest.quiet ht).1 (by simp [Flattening.report])
  | cycle _ _ hrest _ => exact absurd (hrest.quiet ht).2 (cycles_reportCycle_ne_nil _ _ _ _ _)
  | known htarget _ hfinished _ ih =>
      obtain ⟨entry, rest, rfl, hchecked, hrest⟩ := exists_of_cons_eq_walkedEntries hwalked
      cases eq_of_checked_eq_includeGroup hchecked
      rw [names_checkedGroups] at htarget
      obtain ⟨⟨target, inner⟩, hinner, rfl⟩ := List.mem_map.mp htarget
      obtain ⟨⟨rules, rfl, hrules⟩, hexpanded⟩ :=
        ih ht hrest (List.forall_mem_cons.mp hentries).2 hs
      exact ⟨⟨_, by rw [List.append_assoc], .inner hinner (hs _ _ hfinished _ hinner) hrules⟩,
        hexpanded⟩
  | descend htarget _ _ _ hwalkRest ihInner ihRest =>
      obtain ⟨entry, rest, rfl, hchecked, hrest⟩ := exists_of_cons_eq_walkedEntries hwalked
      cases eq_of_checked_eq_includeGroup hchecked
      rw [names_checkedGroups] at htarget
      obtain ⟨⟨target, inner⟩, hinner, rfl⟩ := List.mem_map.mp htarget
      obtain ⟨⟨_, rfl, hinnerRules⟩, hu⟩ :=
        ihInner (hwalkRest.quiet ht) (zipIdx_entriesOf hnodup hinner) (hpass _ hinner) hs
      have hfinish := hu.finish fun entries hentries =>
        entries_eq_of_mem_allGroups hnodup hinner hentries ▸ hinnerRules
      obtain ⟨⟨rules, rfl, hrules⟩, hexpanded⟩ :=
        ihRest ht hrest (List.forall_mem_cons.mp hentries).2 hfinish
      exact ⟨⟨_, by rw [List.append_assoc], .inner hinner hinnerRules hrules⟩, hexpanded⟩

/-- When all groups have been visited and nothing was reported, all hold their expansions. -/
theorem expanded_flattenAll (hnodup : (groupNames table).Nodup) (hpass : RulesPass table)
    (hquiet : (flattenAll (checkedGroups table)).Quiet) :
    (flattenAll (checkedGroups table)).Expanded table := by
  have hall : (flattenAll (checkedGroups table)).Quiet →
      (flattenAll (checkedGroups table)).Expanded table := by
    apply flattenAll_induction (P := fun _ s => s.Quiet → s.Expanded table)
    · intro _ group rules hlookup
      cases hlookup
    · intro before group s rules t hgroup hs hvisit ht
      cases hvisit with
      | known => exact hs ht
      | walk _ hwalk =>
          rw [names_checkedGroups] at hgroup
          obtain ⟨⟨group, entries⟩, hmem, rfl⟩ := List.mem_map.mp hgroup
          obtain ⟨⟨rules, rfl, hrules⟩, hexpanded⟩ := hwalk.expands hnodup hpass ht
            (zipIdx_entriesOf hnodup hmem) (hpass _ hmem) (hs (hwalk.quiet ht))
          exact hexpanded.finish fun entries hentries =>
            entries_eq_of_mem_allGroups hnodup hmem hentries ▸ hrules
  exact hall hquiet

theorem noNameClash_of_compileGroups {fallback : Kind} {g : CompiledGrammar}
    (h : compileGroups table fallback = .ok g) : NoNameClash table := by
  apply noNameClash_of_hoist
  by_contra hclashes
  simp only [compileGroups] at h
  split at h
  · cases h
  · simp [hclashes] at h

theorem rulesPass_iff_findings : RulesPass table ↔
    ∀ group ∈ allGroups table, ∀ entry ∈ group.2, entry.firstFinding? (groupNames table) = none := by
  refine forall₂_congr fun group hgroup => ?_
  have hmap := map_error?_flatEntries hgroup
  constructor
  · intro hpass entry hentry
    have hmem := List.mem_map_of_mem (f := Entry.firstFinding? (groupNames table)) hentry
    rw [← hmap] at hmem
    obtain ⟨flat, hflat, heq⟩ := List.mem_map.mp hmem
    rw [← heq, hpass flat hflat]
  · intro hfindings flat hflat
    have hmem := List.mem_map_of_mem (f := FlatEntry.error? (groupNames table)) hflat
    rw [hmap] at hmem
    obtain ⟨entry, hentry, heq⟩ := List.mem_map.mp hmem
    rw [← heq, hfindings entry hentry]

/-- All rules pass when none is reported and none ends the compilation. -/
theorem rulesPass_iff : RulesPass table ↔ ruleReports table = [] ∧ stoppingFailure? table = none := by
  rw [rulesPass_iff_findings, ruleReports, List.flatMap_eq_nil_iff, stoppingFailure?,
    List.findSome?_eq_none_iff, ← forall₂_and]
  refine forall₂_congr fun group _ => ?_
  obtain ⟨name, entries⟩ := group
  simp only [reportsOn, List.filterMap_eq_nil_iff, List.findSome?_eq_none_iff]
  constructor
  · intro hfindings
    constructor
    · rintro ⟨entry, i⟩ hentry
      rw [hfindings entry (fst_mem_of_mem_zipIdx hentry)]
      rfl
    · intro entry hentry
      rw [hfindings entry hentry]
      rfl
  · rintro ⟨hfaults, hfailures⟩ entry hentry
    obtain ⟨i, hi⟩ := List.mem_iff_getElem?.mp hentry
    have hfault := hfaults (entry, i) (List.mk_mem_zipIdx_iff_getElem?.mpr hi)
    have hfailure := hfailures entry hentry
    cases hfinding : entry.firstFinding? (groupNames table) with
    | none => rfl
    | some e => cases e <;> simp [hfinding, RuleError.fault?, RuleError.failure?] at hfault hfailure

theorem mode?_modesOf {checked : CheckedTable} (hnodup : checked.names.Nodup) {group : String}
    {entries : List CheckedEntry} (hgroup : (group, entries) ∈ checked)
    (finished : List (String × List CompiledRule)) (fallback : Kind) :
    (⟨modesOf checked finished, fallback⟩ : CompiledGrammar).mode? group =
      some ⟨group, (finished.lookup group).getD [], firstDefault? entries⟩ := by
  have hfind : checked.find? (fun x => x.1 == group) = some (group, entries) := by
    obtain ⟨before, after, rfl⟩ := List.append_of_mem hgroup
    refine List.find?_eq_some_iff_append.mpr ⟨by simp, before, after, rfl, fun other hother => ?_⟩
    rw [CheckedTable.names, List.map_append, List.nodup_append] at hnodup
    simpa using hnodup.2.2 other.1 (List.mem_map_of_mem hother) group (by simp)
  rw [CompiledGrammar.mode?, modesOf, List.find?_map]
  simp only [Function.comp_def, hfind, Option.map_some]

theorem firstDefault?_checked (group : String) (entries : List Entry) :
    firstDefault? ((flatEntries group 0 entries).map (FlatEntry.checked (groupNames table))) =
      entries.findSome? Entry.default? := by
  have hmap : (flatEntries group 0 entries).map
      (fun entry => firstDefault? [entry.checked (groupNames table)]) =
        entries.map Entry.default? := by
    apply map_flatEntries
    intro i entry _
    cases entry with
    | includeGroup name => rfl
    | defaultKind kind => rfl
    | rule kinds pattern push next =>
        simp only [Entry.flat, FlatEntry.checked]
        split <;> rfl
  have hfirst := congrArg (List.findSome? id) hmap
  rw [List.findSome?_map, List.findSome?_map] at hfirst
  rw [firstDefault?, List.findSome?_map, ← Function.id_comp Entry.default?, ← hfirst]
  congr 1
  funext entry
  simp only [Function.comp_apply, firstDefault?, List.findSome?_cons, List.findSome?_nil, id]
  split <;> simp_all

/-- The modes of a grammar are the groups of its table, named and inline, each with its expansion. -/
theorem inlines_of_compileGroups (hnames : (table.map (·.1)).Nodup) {fallback : Kind}
    {g : CompiledGrammar} (h : compileGroups table fallback = .ok g) :
    g.modes.map (·.name) = groupNames table ∧
      ∀ group entries, (group, entries) ∈ allGroups table →
        ∃ mode, g.mode? group = some mode ∧ mode.Inlines table group entries := by
  have hclash := noNameClash_of_compileGroups h
  have hnodup : (groupNames table).Nodup := hclash.nodup_allGroups hnames
  rw [compileGroups_eq hnames hclash] at h
  cases hstop : stoppingFailure? table with
  | some failure => simp [hstop] at h
  | none =>
      simp only [hstop] at h
      split at h
      · rename_i hreports
        simp only [List.isEmpty_iff, List.append_eq_nil_iff] at hreports
        obtain ⟨⟨_, hrules⟩, hwalk⟩ := hreports
        have hcycles : (flattenAll (checkedGroups table)).cycles = [] := by
          have hmet : (flattenAll (checkedGroups table)).ReportsCycles := reportsCycles_flattenAll
          simpa [Flattening.ReportsCycles, hwalk] using hmet
        have hexpanded := expanded_flattenAll hnodup (rulesPass_iff.mpr ⟨hrules, hstop⟩)
          ⟨hwalk, hcycles⟩
        cases h
        refine ⟨?_, fun group entries hgroup => ?_⟩
        · rw [modesOf, List.map_map, ← names_checkedGroups]
          rfl
        · have hchecked : (group, (flatEntries group 0 entries).map
              (FlatEntry.checked (groupNames table))) ∈ checkedGroups table := by
            rw [checkedGroups, checkedTable, List.map_map]
            exact List.mem_map_of_mem (f := _ ∘ flatGroup) hgroup
          have hfinished : group ∈ (flattenAll (checkedGroups table)).groups := by
            rw [(perm_groups_flattenAll (names_checkedGroups.symm ▸ hnodup)).mem_iff,
              names_checkedGroups]
            exact List.mem_map_of_mem (f := Prod.fst) hgroup
          obtain ⟨rules, hlookup⟩ : ∃ rules,
              (flattenAll (checkedGroups table)).finished.lookup group = some rules := by
            rw [← Option.isSome_iff_exists, Option.isSome_iff_ne_none]
            exact fun hnone => lookup_eq_none_iff_notMem_keys.mp hnone hfinished
          refine ⟨_, mode?_modesOf (names_checkedGroups.symm ▸ hnodup) hchecked _ _, rfl, ?_, ?_⟩
          · intro other
            have hrules := hexpanded group rules hlookup entries hgroup
            simp only [hlookup, Option.getD_some]
            exact ⟨fun hother => hrules.unique hnodup hother, fun heq => heq ▸ hrules⟩
          · exact firstDefault?_checked group entries
      · cases h

end

/-- In a grammar that compiles from differently named groups, every mode holds the rules that its group
expands to, with includes replaced in place, and the default among its own entries. -/
theorem modes_inline_their_groups {sources : List (String × GroupSource)} {fallback : Kind}
    {g : CompiledGrammar} (hnames : (sources.map (·.1)).Nodup)
    (h : compileSources sources fallback = .ok g) :
    ∃ table, readTable sources = .ok table ∧ g.modes.map (·.name) = groupNames table ∧
      ∀ group entries, (group, entries) ∈ allGroups table →
        ∃ mode, g.mode? group = some mode ∧ mode.Inlines table group entries := by
  obtain ⟨table, hread⟩ := exists_readTable_of_compileSources h
  rw [compileSources_of_readTable hread] at h
  rw [← names_readTable hread] at hnames
  exact ⟨table, hread, inlines_of_compileGroups hnames h⟩

namespace ExpansionWitness

def letterRule : CompiledRule := ⟨["letter"], .ofChar 'a', .stay⟩

/-- A group that is included on two ways, and once more by an inline group.  One of the two has a default,
which stays its own. -/
def sources : List (String × GroupSource) :=
  [("start",
      .ready [.includeGroup "left",
        .rule ["open"] (.ready (.ofChar '(')) (.inline [.includeGroup "shared"]) none,
        .includeGroup "right", .defaultKind "plain"]),
    ("left", .ready [.defaultKind "other", .includeGroup "shared"]),
    ("right", .ready [.includeGroup "shared"]),
    ("shared", .ready [.rule ["letter"] (.ready (.ofChar 'a')) .nothing none])]

def grammar : CompiledGrammar :=
  ⟨[⟨"start/1", [letterRule], none⟩,
    ⟨"start", [letterRule, ⟨["open"], .ofChar '(', .push "start/1"⟩, letterRule], some "plain"⟩,
    ⟨"left", [letterRule], some "other"⟩, ⟨"right", [letterRule], none⟩,
    ⟨"shared", [letterRule], none⟩],
    .name "text"⟩

theorem shared_group_is_inlined_everywhere :
    (sources.map (·.1)).Nodup ∧ compileSources sources (.name "text") = .ok grammar ∧
      ∃ table, readTable sources = .ok table ∧ grammar.modes.map (·.name) = groupNames table ∧
        ∀ group entries, (group, entries) ∈ allGroups table →
          ∃ mode, grammar.mode? group = some mode ∧ mode.Inlines table group entries :=
  ⟨by decide, rfl, modes_inline_their_groups (by decide) (show compileSources _ (.name "text") = _ from rfl)⟩

end ExpansionWitness

end ModalHighlight
