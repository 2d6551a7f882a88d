import ModalHighlight.Proofs.Grammar.Includes
import ModalHighlight.Proofs.Grammar.RuleChecks

/-!
What a grammar that compiles is good for.  Its modes are the groups of its table, and the rules of a mode
are rules that passed their check, wherever they were included from.  So it has a first mode, and each of
its rules leads to modes of the grammar only.  One word is excepted: the check lets any rule open the word
for closing a mode, whether or not a group has that name.
-/

namespace ModalHighlight

/-- A rule that a scan can use: it has kinds, a group for each if they are several, and leads to modes of
the grammar; but it may open the word for closing a mode. -/
structure CompiledRule.Sound (g : CompiledGrammar) (r : CompiledRule) : Prop where
  kinds_ne_nil : r.kinds ≠ []
  groups : r.isMulti → r.pattern.groupCount = r.kinds.length
  push : ∀ name, r.transition = .push name → name = popWord ∨ g.knows name
  switch : ∀ name, r.transition = .switch name → g.knows name

/-- A grammar has a first mode, and its rules can be used. -/
structure CompiledGrammar.Sound (g : CompiledGrammar) : Prop where
  start : g.knows startName
  rules : ∀ mode ∈ g.modes, ∀ r ∈ mode.rules, r.Sound g

/-- A rule is one of those that a table lists. -/
def IsListed (table : CheckedTable) (r : CompiledRule) : Prop :=
  ∃ group, .rule r ∈ entriesOf table group

/-- The rules of all finished groups are listed in the table. -/
def Flattening.RulesListed (table : CheckedTable) (s : Flattening) : Prop :=
  ∀ group rules, (group, rules) ∈ s.finished → ∀ r ∈ rules, IsListed table r

section

variable {table : CheckedTable} {path : List String} {group : String}
  {entries : List (CheckedEntry × Nat)} {found out : List CompiledRule} {s t : Flattening}

theorem Flattening.RulesListed.finish {rules : List CompiledRule} (h : s.RulesListed table)
    (hrules : ∀ r ∈ rules, IsListed table r) : (s.finish group rules).RulesListed table := by
  intro name listed hmem
  rcases List.mem_append.mp hmem with hold | hnew
  · exact h name listed hold
  · cases List.mem_singleton.mp hnew
    exact hrules

theorem Flattening.RulesListed.reportCycle {target : String} {index : Nat}
    (h : s.RulesListed table) : (s.reportCycle path target group index).RulesListed table := by
  unfold Flattening.RulesListed
  rw [finished_reportCycle]
  exact h

/-- A walk finds listed rules only. -/
theorem Walk.rulesListed (h : Walk table path group entries found s out t)
    (hentries : ∀ entry ∈ entries, entry.1 ∈ entriesOf table group)
    (hfound : ∀ r ∈ found, IsListed table r) (hs : s.RulesListed table) :
    (∀ r ∈ out, IsListed table r) ∧ t.RulesListed table := by
  induction h with
  | done => exact ⟨hfound, hs⟩
  | rule _ ih =>
      refine ih (List.forall_mem_cons.mp hentries).2 (List.forall_mem_append.mpr ⟨hfound, ?_⟩) hs
      exact List.forall_mem_singleton.mpr ⟨_, hentries _ List.mem_cons_self⟩
  | faulty _ ih => exact ih (List.forall_mem_cons.mp hentries).2 hfound hs
  | default _ ih => exact ih (List.forall_mem_cons.mp hentries).2 hfound hs
  | unknown _ _ ih => exact ih (List.forall_mem_cons.mp hentries).2 hfound hs
  | cycle _ _ _ ih =>
      exact ih (List.forall_mem_cons.mp hentries).2 hfound hs.reportCycle
  | known _ _ hfinished _ ih =>
      have hrules := hs _ _ (mem_of_lookup_eq_some hfinished)
      exact ih (List.forall_mem_cons.mp hentries).2
        (List.forall_mem_append.mpr ⟨hfound, hrules⟩) hs
  | descend _ _ _ _ _ ihInner ihRest =>
      obtain ⟨hrules, hu⟩ := ihInner (fun e he => fst_mem_of_mem_zipIdx he) (by simp) hs
      exact ihRest (List.forall_mem_cons.mp hentries).2
        (List.forall_mem_append.mpr ⟨hfound, hrules⟩) (hu.finish hrules)

theorem rulesListed_flattenAll : (flattenAll table).RulesListed table := by
  apply flattenAll_induction (P := fun _ s => s.RulesListed table)
  · intro name rules hmem
    cases hmem
  · intro before group s rules t _ hs hvisit
    cases hvisit with
    | known => exact hs
    | walk _ hwalk =>
        obtain ⟨hrules, ht⟩ := hwalk.rulesListed (fun e he => fst_mem_of_mem_zipIdx he) (by simp) hs
        exact ht.finish hrules

end

theorem knows_modesOf_iff {table : CheckedTable}
    {finished : List (String × List CompiledRule)} {fallback : Kind} {name : String} :
    (⟨modesOf table finished, fallback⟩ : CompiledGrammar).knows name ↔ name ∈ table.names := by
  simp [CompiledGrammar.knows, CompiledGrammar.mode?, modesOf, CheckedTable.names]

theorem Transition.push_of_ofRule {push next : Option String} {name : String}
    (h : Transition.ofRule push next = .push name) : push = some name := by
  unfold Transition.ofRule at h
  split at h
  · cases h
    rfl
  · split at h <;> cases h
  · cases h

theorem Transition.switch_of_ofRule {push next : Option String} {name : String}
    (h : Transition.ofRule push next = .switch name) : next = some name ∧ name ≠ popWord := by
  unfold Transition.ofRule at h
  split at h
  · cases h
  · split at h
    · cases h
    · rename_i hpop
      cases h
      exact ⟨rfl, hpop⟩
  · cases h

/-- A rule that passes its check can be used in a grammar that has all groups as modes. -/
theorem FlatRule.sound_of_compile_eq_ok {names : List String} {r : FlatRule} {compiled : CompiledRule}
    {g : CompiledGrammar} (hnames : ∀ name ∈ names, g.knows name)
    (h : r.compile names = .ok compiled) : compiled.Sound g := by
  simp only [FlatRule.compile] at h
  split at h
  · cases h
  rename_i hkinds
  split at h
  · cases h
  split at h
  · cases h
  rename_i hknown
  split at h
  · cases h
  rename_i pattern _
  split at h
  · cases h
  rename_i hgroups
  cases h
  simp only [Bool.or_eq_true, List.isEmpty_iff, not_or] at hkinds
  constructor
  · exact hkinds.1
  · intro hmulti
    by_contra hne
    exact hgroups ⟨of_decide_eq_true hmulti, hne⟩
  · intro name hpush
    have hname : name ∈ r.push.toList ++ r.next.toList := by
      simp [Transition.push_of_ofRule hpush]
    exact (unknownTarget?_eq_none_iff.mp hknown name hname).imp_right (hnames name)
  · intro name hswitch
    obtain ⟨hnext, hpop⟩ := Transition.switch_of_ofRule hswitch
    have hname : name ∈ r.push.toList ++ r.next.toList := by
      simp [hnext]
    exact hnames name ((unknownTarget?_eq_none_iff.mp hknown name hname).resolve_left hpop)

/-- The rules that a checked table lists have passed their check. -/
theorem compile_of_isListed {names : List String} {flat : FlatTable} {compiled : CompiledRule}
    (h : IsListed (checkedTable names flat) compiled) :
    ∃ r : FlatRule, r.compile names = .ok compiled := by
  obtain ⟨group, hentry⟩ := h
  cases hlookup : (checkedTable names flat).lookup group with
  | none => simp [entriesOf, hlookup] at hentry
  | some entries =>
      have hgroup := mem_of_lookup_eq_some hlookup
      simp only [entriesOf, hlookup, Option.getD_some] at hentry
      simp only [checkedTable, List.mem_map, Prod.mk.injEq] at hgroup
      obtain ⟨⟨_, source⟩, _, _, rfl⟩ := hgroup
      obtain ⟨entry, _, hchecked⟩ := List.mem_map.mp hentry
      cases entry with
      | includeGroup name => cases hchecked
      | defaultKind kind => cases hchecked
      | rule r =>
          simp only [FlatEntry.checked] at hchecked
          split at hchecked
          · rename_i hcompile
            cases hchecked
            exact ⟨r, hcompile⟩
          · cases hchecked

/-- The modes of a checked table make a sound grammar, as long as the first one is among them. -/
theorem sound_modesOf (flat : FlatTable) (fallback : Kind) (hstart : startName ∈ flat.map (·.1)) :
    CompiledGrammar.Sound ⟨modesOf (checkedTable (flat.map (·.1)) flat)
      (flattenAll (checkedTable (flat.map (·.1)) flat)).finished, fallback⟩ := by
  constructor
  · rwa [knows_modesOf_iff, names_checkedTable]
  · intro mode hmode r hr
    obtain ⟨⟨name, entries⟩, _, rfl⟩ := List.mem_map.mp hmode
    cases hlookup : (flattenAll (checkedTable (flat.map (·.1)) flat)).finished.lookup name with
    | none => simp [hlookup] at hr
    | some rules =>
        simp only [hlookup, Option.getD_some] at hr
        obtain ⟨source, hcompile⟩ := compile_of_isListed
          (rulesListed_flattenAll name rules (mem_of_lookup_eq_some hlookup) r hr)
        refine FlatRule.sound_of_compile_eq_ok ?_ hcompile
        intro name hname
        rwa [knows_modesOf_iff, names_checkedTable]

theorem sound_of_compileGroups {groups : GroupTable} {fallback : Kind} {g : CompiledGrammar}
    (h : compileGroups groups fallback = .ok g) : g.Sound := by
  obtain ⟨flat, clashes, hhoist⟩ : ∃ flat clashes, hoist groups = (flat, clashes) := ⟨_, _, rfl⟩
  simp only [compileGroups, hhoist, checkTable_eq] at h
  cases hfailure : firstFailure? (flat.map (·.1)) flat with
  | some failure => simp [hfailure] at h
  | none =>
      simp only [hfailure] at h
      split at h
      · rename_i hstart
        split at h
        · cases h
          exact sound_modesOf flat fallback (by simpa using hstart)
        · cases h
      · split at h
        · rename_i hreports
          simp at hreports
        · cases h

theorem fallback_of_compileGroups {groups : GroupTable} {fallback : Kind} {g : CompiledGrammar}
    (h : compileGroups groups fallback = .ok g) : g.fallback = fallback := by
  simp only [compileGroups] at h
  split at h
  · cases h
  · split at h <;> split at h <;> cases h <;> rfl

/-- A grammar that compiles has a first mode, and its rules can be used. -/
theorem sound_of_compileSources {sources : List (String × GroupSource)} {fallback : Kind}
    {g : CompiledGrammar} (h : compileSources sources fallback = .ok g) : g.Sound := by
  unfold compileSources at h
  split at h
  · exact sound_of_compileGroups h
  · split at h
    · cases h
    · cases h
    · exact sound_of_compileGroups h

end ModalHighlight
