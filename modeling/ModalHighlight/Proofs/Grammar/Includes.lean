import ModalHighlight.Grammar.Compile
import Mathlib.Data.List.Chain
import Mathlib.Data.List.Nodup
import Mathlib.Data.List.Perm.Subperm
import Mathlib.Logic.Relation

/-!
The walk over the include graph.  Replacing includes is a depth-first search: a group that is finished is
looked up, one on the path is cut, and any other is walked and then finished.  The relation `Walk` tells
such a walk entry by entry, so that facts on it follow by one induction each.  No group is walked twice,
and if no cycle was reported, every group was finished after the groups it includes.
-/

namespace ModalHighlight

theorem lookup_eq_none_iff_notMem_keys {α : Type} {key : String} {fields : List (String × α)} :
    fields.lookup key = none ↔ key ∉ fields.map (·.1) := by
  simp only [List.lookup_eq_none_iff, List.mem_map, not_exists, not_and]
  constructor
  · rintro h field hmem rfl
    simpa using h field hmem
  · intro h field hmem
    simpa using fun heq : key = field.1 => h field hmem heq.symm

theorem nodup_snoc {α : Type} {items : List α} {x : α} (h : items.Nodup) (hx : x ∉ items) :
    (items ++ [x]).Nodup := by
  rw [← List.concat_eq_append]
  exact h.concat hx

theorem fst_mem_of_mem_zipIdx {α : Type} {items : List α} {x : α × Nat}
    (h : x ∈ items.zipIdx) : x.1 ∈ items :=
  List.mem_of_getElem? (List.mk_mem_zipIdx_iff_getElem?.mp h)

section

variable (table : CheckedTable)

/-- The names of the groups of a table. -/
def CheckedTable.names (table : CheckedTable) : List String :=
  table.map (·.1)

/-- A group includes another group of the table. -/
def IncludeEdge (group target : String) : Prop :=
  .includeGroup target ∈ entriesOf table group ∧ target ∈ table.names

/-- The walk over entries of a group: the rules found and what is known, before it and after it.  A group
that is neither finished nor on the path is walked in turn, one level deeper. -/
inductive Walk : List String → String → List (CheckedEntry × Nat) →
    List CompiledRule → Flattening → List CompiledRule → Flattening → Prop
  | done {path group found s} : Walk path group [] found s found s
  | rule {path group rest found s out t} {r : CompiledRule} {i : Nat}
      (hrest : Walk path group rest (found ++ [r]) s out t) :
      Walk path group ((.rule r, i) :: rest) found s out t
  | faulty {path group rest found s out t} {i : Nat}
      (hrest : Walk path group rest found s out t) :
      Walk path group ((.faulty, i) :: rest) found s out t
  | default {path group rest found s out t} {kind : String} {i : Nat}
      (hrest : Walk path group rest found s out t) :
      Walk path group ((.defaultKind kind, i) :: rest) found s out t
  | unknown {path group rest found s out t} {target : String} {i : Nat}
      (htarget : target ∉ table.names)
      (hrest : Walk path group rest found
        (s.report (.atEntry (.unknownGroup target) group i)) out t) :
      Walk path group ((.includeGroup target, i) :: rest) found s out t
  | cycle {path group rest found s out t} {target : String} {i : Nat}
      (htarget : target ∈ table.names) (hpath : target ∈ path ++ [group])
      (hrest : Walk path group rest found
        (s.reportCycle (path ++ [group]) target group i) out t) :
      Walk path group ((.includeGroup target, i) :: rest) found s out t
  | known {path group rest found s out t} {target : String} {i : Nat} {rules : List CompiledRule}
      (htarget : target ∈ table.names) (hpath : target ∉ path ++ [group])
      (hfinished : s.finished.lookup target = some rules)
      (hrest : Walk path group rest (found ++ rules) s out t) :
      Walk path group ((.includeGroup target, i) :: rest) found s out t
  | descend {path group rest found s out t} {target : String} {i : Nat}
      {rules : List CompiledRule} {u : Flattening}
      (htarget : target ∈ table.names) (hpath : target ∉ path ++ [group])
      (hnew : target ∉ s.finished.map (·.1))
      (hinner : Walk (path ++ [group]) target (entriesOf table target).zipIdx [] s rules u)
      (hrest : Walk path group rest (found ++ rules) (u.finish target rules) out t) :
      Walk path group ((.includeGroup target, i) :: rest) found s out t

/-- The visit of a group: it is looked up if it is finished, and walked if it is not. -/
inductive Visit (path : List String) (group : String) (s : Flattening) :
    List CompiledRule → Flattening → Prop
  | known {rules} (hfinished : s.finished.lookup group = some rules) : Visit path group s rules s
  | walk {rules t} (hnew : group ∉ s.finished.map (·.1))
      (hwalk : Walk table path group (entriesOf table group).zipIdx [] s rules t) :
      Visit path group s rules (t.finish group rules)

end

variable {table : CheckedTable} {path : List String} {group : String}

theorem walk_of_foldl {visit : String → Flattening → List CompiledRule × Flattening}
    (hvisit : ∀ target s, target ∈ table.names → target ∉ path ++ [group] →
      Visit table (path ++ [group]) target s (visit target s).1 (visit target s).2)
    (entries : List (CheckedEntry × Nat)) (found : List CompiledRule) (s : Flattening) :
    Walk table path group entries found s
      (entries.foldl (flattenEntry table visit path group) (found, s)).1
      (entries.foldl (flattenEntry table visit path group) (found, s)).2 := by
  induction entries generalizing found s with
  | nil => exact .done
  | cons head rest ih =>
      obtain ⟨entry, i⟩ := head
      rw [List.foldl_cons]
      cases entry with
      | rule r => exact .rule (ih _ _)
      | faulty => exact .faulty (ih _ _)
      | defaultKind kind => exact .default (ih _ _)
      | includeGroup target =>
          have hiff : (table.lookup target).isNone ↔ target ∉ table.names := by
            rw [Option.isNone_iff_eq_none]
            exact lookup_eq_none_iff_notMem_keys
          by_cases htarget : target ∈ table.names
          · by_cases hpath : target ∈ path ++ [group]
            · have hcut : target = group ∨ target ∈ path := by
                simpa [or_comm] using hpath
              simp only [flattenEntry, if_neg (mt hiff.mp (not_not.mpr htarget)), if_pos hcut]
              exact .cycle htarget hpath (ih _ _)
            · have hcut : ¬ (target = group ∨ target ∈ path) := by
                simpa [or_comm] using hpath
              simp only [flattenEntry, if_neg (mt hiff.mp (not_not.mpr htarget)), if_neg hcut]
              have hsub := hvisit target s htarget hpath
              obtain ⟨rules, t, hresult⟩ : ∃ rules t, visit target s = (rules, t) := ⟨_, _, rfl⟩
              simp only [hresult] at hsub ⊢
              cases hsub with
              | known hfinished => exact .known htarget hpath hfinished (ih _ _)
              | walk hnew hwalk => exact .descend htarget hpath hnew hwalk (ih _ _)
          · simp only [flattenEntry, if_pos (hiff.mpr htarget)]
            exact .unknown htarget (ih _ _)

/-- A path of distinct groups of the table is no longer than the table. -/
theorem length_le_of_path (hnodup : path.Nodup) (hmem : path ⊆ table.names) :
    path.length ≤ table.length := by
  have := (List.subperm_of_subset hnodup hmem).length_le
  simpa [CheckedTable.names] using this

/-- The bound on the depth is never felt, since it leaves room for every group of the table. -/
theorem visit_flatten {n : Nat} (hnodup : (path ++ [group]).Nodup)
    (hmem : path ++ [group] ⊆ table.names) (hn : table.length < path.length + n)
    (s : Flattening) :
    Visit table path group s (flatten table n path group s).1 (flatten table n path group s).2 := by
  induction n generalizing path group s with
  | zero =>
      have := length_le_of_path hnodup hmem
      simp only [List.length_append, List.length_singleton] at this
      omega
  | succ n ih =>
      have hvisit : ∀ target s, target ∈ table.names → target ∉ path ++ [group] →
          Visit table (path ++ [group]) target s (flatten table n (path ++ [group]) target s).1
            (flatten table n (path ++ [group]) target s).2 := by
        intro target s htarget hpath
        apply ih
        · exact nodup_snoc hnodup hpath
        · exact List.append_subset.mpr ⟨hmem, by simpa using htarget⟩
        · simp only [List.length_append, List.length_singleton]
          omega
      rw [flatten]
      split
      · rename_i rules hfinished
        exact .known hfinished
      · rename_i hnew
        exact .walk (lookup_eq_none_iff_notMem_keys.mp hnew) (walk_of_foldl hvisit _ _ _)

theorem foldl_flattenEntry_congr {visit visit' : String → Flattening → List CompiledRule × Flattening}
    (hvisit : ∀ target s, target ∈ table.names → target ∉ path ++ [group] →
      visit target s = visit' target s)
    (entries : List (CheckedEntry × Nat)) (found : List CompiledRule × Flattening) :
    entries.foldl (flattenEntry table visit path group) found =
      entries.foldl (flattenEntry table visit' path group) found := by
  induction entries generalizing found with
  | nil => rfl
  | cons head rest ih =>
      obtain ⟨entry, i⟩ := head
      have hhead : flattenEntry table visit path group found (entry, i) =
          flattenEntry table visit' path group found (entry, i) := by
        cases entry with
        | includeGroup target =>
            simp only [flattenEntry]
            split
            · rfl
            · rename_i hknown
              split
              · rfl
              · rename_i hcut
                have htarget : target ∈ table.names := by
                  by_contra hunknown
                  exact hknown (Option.isNone_iff_eq_none.mpr
                    (lookup_eq_none_iff_notMem_keys.mpr hunknown))
                rw [hvisit target found.2 htarget (by simpa [or_comm] using hcut)]
        | _ => rfl
      rw [List.foldl_cons, List.foldl_cons, hhead, ih]

/-- A deeper bound changes nothing where the depth leaves room for every group of the table. -/
theorem flatten_succ {n : Nat} (hnodup : (path ++ [group]).Nodup)
    (hmem : path ++ [group] ⊆ table.names) (hn : table.length < path.length + n)
    (s : Flattening) :
    flatten table (n + 1) path group s = flatten table n path group s := by
  induction n generalizing path group s with
  | zero =>
      have := length_le_of_path hnodup hmem
      simp only [List.length_append, List.length_singleton] at this
      omega
  | succ n ih =>
      have hvisit : ∀ target s, target ∈ table.names → target ∉ path ++ [group] →
          flatten table (n + 1) (path ++ [group]) target s =
            flatten table n (path ++ [group]) target s := by
        intro target s htarget hpath
        refine ih (nodup_snoc hnodup hpath) ?_ ?_ s
        · exact List.append_subset.mpr ⟨hmem, by simpa using htarget⟩
        · simp only [List.length_append, List.length_singleton]
          omega
      rw [flatten, flatten, foldl_flattenEntry_congr hvisit]

/-- Replaces the includes of all groups in turn, down to a bound on the depth. -/
def flattenAllWithin (bound : Nat) (table : CheckedTable) : Flattening :=
  table.names.foldl (fun s group => (flatten table bound [] group s).2) ⟨[], [], []⟩

/-- The walk comes to its end by itself: every bound that leaves room for all groups gives the same. -/
theorem flattenAllWithin_eq {bound : Nat} (hbound : table.length < bound) :
    flattenAllWithin bound table = flattenAll table := by
  have hgroup : ∀ group ∈ table.names, ∀ s, flatten table bound [] group s =
      flatten table (table.length + 1) [] group s := by
    intro group hgroup s
    induction bound, hbound using Nat.le_induction with
    | base => rfl
    | succ n hn ih =>
        have hroom : table.length < ([] : List String).length + n := by
          rw [List.length_nil, Nat.zero_add]
          exact hn
        have hstep := flatten_succ (List.nodup_singleton group) (by simpa using hgroup) hroom s
        rw [hstep, ih]
  refine List.foldl_ext _ _ _ fun s group hmem => ?_
  rw [hgroup group hmem s]

/-- What holds before any visit and is kept by visits of the groups of a table in turn holds after all of
them. -/
theorem flattenAll_induction {P : List String → Flattening → Prop} (hnil : P [] ⟨[], [], []⟩)
    (hvisit : ∀ before group s rules t, group ∈ table.names → P before s →
      Visit table [] group s rules t → P (before ++ [group]) t) :
    P table.names (flattenAll table) := by
  have hfold : ∀ groups before s, groups ⊆ table.names → P before s →
      P (before ++ groups)
        (groups.foldl (fun s group => (flatten table (table.length + 1) [] group s).2) s) := by
    intro groups
    induction groups with
    | nil =>
        intro before s _ hs
        simpa using hs
    | cons group rest ih =>
        intro before s hmem hs
        have hgroup : group ∈ table.names := hmem List.mem_cons_self
        have hstep : Visit table [] group s _ _ :=
          visit_flatten (n := table.length + 1) (List.nodup_singleton group) (by simpa using hgroup)
            (by simp) s
        have := ih (before ++ [group]) _ (fun _ h => hmem (List.mem_cons_of_mem _ h))
          (hvisit before group s _ _ hgroup hs hstep)
        simpa using this
  exact hfold table.names [] _ (List.Subset.refl _) hnil

namespace Flattening

/-- The groups that are finished, in the order in which they were. -/
def groups (s : Flattening) : List String :=
  s.finished.map (·.1)

@[simp] theorem groups_finish (s : Flattening) (group : String) (rules : List CompiledRule) :
    (s.finish group rules).groups = s.groups ++ [group] := by
  simp [groups, finish]

@[simp] theorem groups_report (s : Flattening) (r : Report) : (s.report r).groups = s.groups := rfl

@[simp] theorem finished_reportCycle (s : Flattening) (path : List String) (target group : String)
    (index : Nat) : (s.reportCycle path target group index).finished = s.finished := by
  unfold reportCycle
  dsimp only
  split <;> rfl

@[simp] theorem groups_reportCycle (s : Flattening) (path : List String) (target group : String)
    (index : Nat) : (s.reportCycle path target group index).groups = s.groups := by
  simp [groups]

/-- A property that reporting an unknown group or a cycle and finishing a group keep. -/
structure Kept (P : Flattening → Prop) : Prop where
  report : ∀ {s target group index},
    P s → P (s.report (.atEntry (.unknownGroup target) group index))
  reportCycle : ∀ {s path target group index},
    target ∈ path → P s → P (s.reportCycle path target group index)
  finish : ∀ {s group rules}, P s → P (s.finish group rules)

end Flattening

section

variable {entries : List (CheckedEntry × Nat)} {found out : List CompiledRule} {s t : Flattening}

/-- What is kept by each report and each finished group is kept by a walk. -/
theorem Walk.preserves {P : Flattening → Prop} (hP : Flattening.Kept P)
    (h : Walk table path group entries found s out t) (hs : P s) : P t := by
  induction h with
  | done => exact hs
  | rule _ ih => exact ih hs
  | faulty _ ih => exact ih hs
  | default _ ih => exact ih hs
  | unknown _ _ ih => exact ih (hP.report hs)
  | cycle _ hpath _ ih => exact ih (hP.reportCycle hpath hs)
  | known _ _ _ _ ih => exact ih hs
  | descend _ _ _ _ _ ihInner ihRest => exact ihRest (hP.finish (ihInner hs))

theorem flattenAll_preserves {P : Flattening → Prop} (hP : Flattening.Kept P)
    (hnil : P ⟨[], [], []⟩) : P (flattenAll table) := by
  apply flattenAll_induction (P := fun _ s => P s) hnil
  intro before group s rules t _ hs hvisit
  cases hvisit with
  | known => exact hs
  | walk _ hwalk => exact hP.finish (hwalk.preserves hP hs)

/-- A walk keeps the finished groups and their order. -/
theorem Walk.groups_prefix (h : Walk table path group entries found s out t) :
    s.groups <+: t.groups := by
  have hkept : Flattening.Kept fun u => s.groups <+: u.groups :=
    { report := id
      reportCycle := fun _ hu => by simpa using hu
      finish := fun hu => by
        rw [Flattening.groups_finish]
        exact hu.trans (List.prefix_append _ _) }
  exact h.preserves hkept List.prefix_rfl

/-- A walk finishes groups of the table only, and none on its path. -/
theorem Walk.mem_groups (h : Walk table path group entries found s out t) {name : String}
    (hname : name ∈ t.groups) :
    name ∈ s.groups ∨ (name ∈ table.names ∧ name ∉ path ++ [group]) := by
  induction h with
  | done => exact Or.inl hname
  | rule _ ih => exact ih hname
  | faulty _ ih => exact ih hname
  | default _ ih => exact ih hname
  | unknown _ _ ih => simpa using ih hname
  | cycle _ _ _ ih => simpa using ih hname
  | known _ _ _ _ ih => exact ih hname
  | descend htarget hpath _ _ _ ihInner ihRest =>
      rcases ihRest hname with hmem | hfresh
      · rw [Flattening.groups_finish, List.mem_append, List.mem_singleton] at hmem
        rcases hmem with hmem | rfl
        · rcases ihInner hmem with hold | ⟨hknown, hdeeper⟩
          · exact Or.inl hold
          · exact Or.inr ⟨hknown, fun hin => hdeeper (List.mem_append_left _ hin)⟩
        · exact Or.inr ⟨htarget, hpath⟩
      · exact Or.inr hfresh

/-- A group whose walk has just ended is not finished yet. -/
theorem Walk.not_mem_groups (h : Walk table path group entries found s out t)
    (hnew : group ∉ s.groups) : group ∉ t.groups := by
  intro hmem
  rcases h.mem_groups hmem with hold | ⟨_, hpath⟩
  · exact hnew hold
  · exact hpath (List.mem_append_right _ (List.mem_singleton_self group))

theorem nodup_groups_finish {rules : List CompiledRule} (hnodup : t.groups.Nodup)
    (hnew : group ∉ t.groups) : (t.finish group rules).groups.Nodup := by
  rw [Flattening.groups_finish]
  exact nodup_snoc hnodup hnew

/-- No group is finished twice. -/
theorem Walk.nodup_groups (h : Walk table path group entries found s out t)
    (hnodup : s.groups.Nodup) : t.groups.Nodup := by
  induction h with
  | done => exact hnodup
  | rule _ ih => exact ih hnodup
  | faulty _ ih => exact ih hnodup
  | default _ ih => exact ih hnodup
  | unknown _ _ ih => exact ih hnodup
  | cycle _ _ _ ih => exact ih (by simpa using hnodup)
  | known _ _ _ _ ih => exact ih hnodup
  | descend _ _ hnew hinner _ ihInner ihRest =>
      exact ihRest (nodup_groups_finish (ihInner hnodup) (hinner.not_mem_groups hnew))

/-- After all visits, the finished groups are those of the table, each once. -/
theorem perm_groups_flattenAll (hnames : table.names.Nodup) :
    (flattenAll table).groups.Perm table.names := by
  have hall : (flattenAll table).groups.Nodup ∧ (flattenAll table).groups ⊆ table.names ∧
      table.names ⊆ (flattenAll table).groups := by
    apply flattenAll_induction (P := fun before s =>
      s.groups.Nodup ∧ s.groups ⊆ table.names ∧ before ⊆ s.groups)
    · exact ⟨List.nodup_nil, List.nil_subset _, List.nil_subset _⟩
    · rintro before group s rules t hgroup ⟨hnodup, hmem, hbefore⟩ hvisit
      cases hvisit with
      | known hfinished =>
          refine ⟨hnodup, hmem, List.append_subset.mpr ⟨hbefore, ?_⟩⟩
          have : group ∈ s.groups :=
            List.mem_map_of_mem (f := Prod.fst) (mem_of_lookup_eq_some hfinished)
          simpa using this
      | walk hnew hwalk =>
          refine ⟨nodup_groups_finish (hwalk.nodup_groups hnodup) (hwalk.not_mem_groups hnew), ?_, ?_⟩
          · rw [Flattening.groups_finish, List.append_subset]
            refine ⟨fun name hname => ?_, by simpa using hgroup⟩
            rcases hwalk.mem_groups hname with hold | hfresh
            · exact hmem hold
            · exact hfresh.1
          · rw [Flattening.groups_finish, List.append_subset]
            exact ⟨fun name hname => List.mem_append_left _ (hwalk.groups_prefix.subset (hbefore hname)),
              List.subset_append_right _ _⟩
  exact (List.perm_ext_iff_of_nodup hall.1 hnames).mpr fun name => ⟨@hall.2.1 name, @hall.2.2 name⟩

end

/-- A report on a cycle of includes. -/
def Report.isCircular (r : Report) : Bool :=
  match r.fault with
  | .circularInclude _ => true
  | _ => false

/-- The reports on entries of a group that include an unknown group. -/
def unknownIncludes (names : List String) (group : String) (entries : List (CheckedEntry × Nat)) :
    List Report :=
  entries.filterMap fun
    | (.includeGroup target, i) =>
        if target ∈ names then none else some (.atEntry (.unknownGroup target) group i)
    | _ => none

/-- The reports on all entries of a group that include an unknown group. -/
def unknownIncludesOf (table : CheckedTable) (group : String) : List Report :=
  unknownIncludes table.names group (entriesOf table group).zipIdx

namespace Flattening

/-- The reports that are not on cycles. -/
def unknowns (s : Flattening) : List Report :=
  s.reports.filter fun r => !r.isCircular

@[simp] theorem unknowns_finish (s : Flattening) (group : String) (rules : List CompiledRule) :
    (s.finish group rules).unknowns = s.unknowns := rfl

@[simp] theorem unknowns_reportCycle (s : Flattening) (path : List String) (target group : String)
    (index : Nat) : (s.reportCycle path target group index).unknowns = s.unknowns := by
  unfold reportCycle
  dsimp only
  split
  · rfl
  · simp [unknowns, report, Report.isCircular, Report.atEntry]

@[simp] theorem unknowns_report (s : Flattening) (target group : String) (index : Nat) :
    (s.report (.atEntry (.unknownGroup target) group index)).unknowns =
      s.unknowns ++ [.atEntry (.unknownGroup target) group index] := by
  simp [unknowns, report, Report.isCircular, Report.atEntry]

end Flattening

section

variable {entries : List (CheckedEntry × Nat)} {found out : List CompiledRule} {s t : Flattening}

/-- A walk reports the unknown includes among its entries, and those of the groups it finishes. -/
theorem Walk.perm_unknowns (h : Walk table path group entries found s out t) :
    (t.unknowns ++ s.groups.flatMap (unknownIncludesOf table)).Perm
      (s.unknowns ++ unknownIncludes table.names group entries ++
        t.groups.flatMap (unknownIncludesOf table)) := by
  induction h with
  | done => simp [unknownIncludes]
  | rule _ ih => simpa [unknownIncludes] using ih
  | faulty _ ih => simpa [unknownIncludes] using ih
  | default _ ih => simpa [unknownIncludes] using ih
  | unknown htarget _ ih => simpa [unknownIncludes, htarget] using ih
  | cycle htarget _ _ ih => simpa [unknownIncludes, htarget] using ih
  | known htarget _ _ _ ih => simpa [unknownIncludes, htarget] using ih
  | @descend path group rest _ s _ t target i _ u htarget _ _ _ _ ihInner ihRest =>
      have hskip : unknownIncludes table.names group ((.includeGroup target, i) :: rest) =
          unknownIncludes table.names group rest := by
        simp [unknownIncludes, htarget]
      rw [hskip]
      -- Every report is counted: the target's own includes were walked in its own walk.
      rw [List.perm_iff_count] at ihInner ihRest ⊢
      intro r
      have hinner := ihInner r
      have hrest := ihRest r
      simp only [Flattening.unknowns_finish, Flattening.groups_finish, List.flatMap_append,
        List.flatMap_cons, List.flatMap_nil, List.append_nil, List.count_append] at hinner hrest ⊢
      rw [unknownIncludesOf] at hrest
      omega

/-- After all visits, every include of an unknown group has been reported, each once. -/
theorem perm_unknowns_flattenAll (hnames : table.names.Nodup) :
    (flattenAll table).unknowns.Perm (table.names.flatMap (unknownIncludesOf table)) := by
  have hall : (flattenAll table).unknowns.Perm
      ((flattenAll table).groups.flatMap (unknownIncludesOf table)) := by
    apply flattenAll_induction (P := fun _ s =>
      s.unknowns.Perm (s.groups.flatMap (unknownIncludesOf table)))
    · exact List.Perm.refl _
    · intro before group s rules t _ hs hvisit
      cases hvisit with
      | known => exact hs
      | walk _ hwalk =>
          have hperm := hwalk.perm_unknowns
          rw [List.perm_iff_count] at hs hperm ⊢
          intro r
          have hbefore := hs r
          have hafter := hperm r
          simp only [Flattening.unknowns_finish, Flattening.groups_finish, List.flatMap_append,
            List.flatMap_cons, List.flatMap_nil, List.append_nil, List.count_append] at hafter ⊢
          rw [unknownIncludesOf]
          omega
  exact hall.trans ((perm_groups_flattenAll hnames).flatMap_right _)

end

end ModalHighlight
