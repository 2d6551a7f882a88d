import ModalHighlight.Proofs.Grammar.Cycles
import ModalHighlight.Proofs.Grammar.Reading
import ModalHighlight.Proofs.Grammar.RuleChecks

/-!
What a compilation reports, told from the table alone.  Every group counts, named or inline: a table
without a first group is reported, then each rule with a finding, by the first of them, then each include
of a group that does not exist.  A cycle of includes is reported if there is one.  Nothing else is
reported, and a table with nothing to report compiles.
-/

namespace ModalHighlight

/-- The group that an entry includes. -/
def Entry.include? : Entry → Option String
  | .includeGroup name => some name
  | _ => none

/-- The first thing that is wrong with an entry by itself. -/
def Entry.firstFinding? (known : List String) (entry : Entry) : Option RuleError :=
  (entry.findings known).head?

/-- Reports on the entries of a group: what is found about an entry is put at its place. -/
def reportsOn {α : Type} (fault? : α → Option Fault) (group : String) (entries : List α) :
    List Report :=
  entries.zipIdx.filterMap fun (entry, i) => (fault? entry).map fun fault => .atEntry fault group i

section

variable (table : GroupTable)

/-- The names of all groups, named and inline. -/
def groupNames : List String :=
  (allGroups table).map (·.1)

/-- The report on a table without a group to start with. -/
def missingStart : List Report :=
  if startName ∈ groupNames table then [] else [⟨.unknownGroup startName, none⟩]

/-- One report for each rule with something wrong, on the first of it. -/
def ruleReports : List Report :=
  (allGroups table).flatMap fun (group, entries) =>
    reportsOn (fun entry => (entry.firstFinding? (groupNames table)).bind RuleError.fault?) group
      entries

/-- The fault of an include of a group that does not exist. -/
def unknownInclude? (known : List String) (target : Option String) : Option Fault :=
  (target.filter (· ∉ known)).map Fault.unknownGroup

/-- One report for each include of a group that does not exist. -/
def includeReports : List Report :=
  (allGroups table).flatMap fun (group, entries) =>
    reportsOn (fun entry => unknownInclude? (groupNames table) entry.include?) group entries

/-- The failure that ends the compilation: that of the first rule whose first finding is no fault. -/
def stoppingFailure? : Option Pattern.Failure :=
  (allGroups table).findSome? fun (_, entries) =>
    entries.findSome? fun entry =>
      (entry.firstFinding? (groupNames table)).bind RuleError.failure?

/-- A group includes another group of the table. -/
def Includes (group target : String) : Prop :=
  target ∈ groupNames table ∧ ∃ entries, (group, entries) ∈ allGroups table ∧
    .includeGroup target ∈ entries

/-- Some group leads back to itself through its includes. -/
def HasIncludeCycle : Prop :=
  ∃ group, Relation.TransGen (Includes table) group group

end

/-- The group that a checked entry includes. -/
def CheckedEntry.include? : CheckedEntry → Option String
  | .includeGroup name => some name
  | _ => none

section

variable (known : List String)

theorem entryReports_eq_reportsOn (group : String) (entries : List FlatEntry) :
    entryReports known group 0 entries =
      reportsOn (fun found : Option RuleError => found.bind RuleError.fault?) group
        (entries.map (FlatEntry.error? known)) := by
  rw [entryReports, reportsOn, List.zipIdx_map, List.filterMap_map]
  rfl

theorem unknownIncludes_eq_reportsOn (group : String) (entries : List CheckedEntry) :
    unknownIncludes known group entries.zipIdx =
      reportsOn (unknownInclude? known) group (entries.map CheckedEntry.include?) := by
  rw [unknownIncludes, reportsOn, List.zipIdx_map, List.filterMap_map]
  congr 1
  funext x
  obtain ⟨entry, i⟩ := x
  cases entry with
  | includeGroup target =>
      by_cases htarget : target ∈ known <;>
        simp [CheckedEntry.include?, unknownInclude?, Option.filter, htarget]
  | rule r => rfl
  | faulty => rfl
  | defaultKind kind => rfl

theorem reportsOn_map {α β : Type} (fault? : β → Option Fault) (f : α → β) (group : String)
    (entries : List α) :
    reportsOn fault? group (entries.map f) = reportsOn (fault? ∘ f) group entries := by
  rw [reportsOn, List.zipIdx_map, List.filterMap_map]
  rfl

/-- A function of the entries that does not look at what naming changes. -/
theorem map_flatEntries {β : Type} {f : FlatEntry → β} {f' : Entry → β} {group : String}
    {entries : List Entry} (h : ∀ i entry, entries[i]? = some entry → f (entry.flat group i) = f' entry) :
    (flatEntries group 0 entries).map f = entries.map f' := by
  rw [flatEntries, List.map_map, ← List.zipIdx_map_fst 0 entries, List.map_map]
  simp only [List.zipIdx_map_fst]
  apply List.map_congr_left
  rintro ⟨entry, i⟩ hmem
  exact h i entry (List.mk_mem_zipIdx_iff_getElem?.mp hmem)

theorem include?_checked_flat (entry : Entry) (group : String) (index : Nat) :
    ((entry.flat group index).checked known).include? = entry.include? := by
  cases entry with
  | rule kinds pattern push next =>
      simp only [Entry.flat, FlatEntry.checked]
      split <;> rfl
  | includeGroup name => rfl
  | defaultKind kind => rfl

theorem eq_includeGroup_iff {entry : Entry} {target : String} :
    entry = .includeGroup target ↔ entry.include? = some target := by
  cases entry <;> simp [Entry.include?]

theorem checked_eq_includeGroup_iff {entry : CheckedEntry} {target : String} :
    entry = .includeGroup target ↔ entry.include? = some target := by
  cases entry <;> simp [CheckedEntry.include?]

end

theorem lookup_eq_some_of_nodup {α : Type} {fields : List (String × α)} {key : String} {value : α}
    (hnodup : (fields.map (·.1)).Nodup) (h : (key, value) ∈ fields) :
    fields.lookup key = some value := by
  obtain ⟨before, after, rfl⟩ := List.append_of_mem h
  refine List.lookup_eq_some_iff.mpr ⟨before, after, rfl, ?_⟩
  intro other hother
  rw [List.map_append, List.nodup_append] at hnodup
  simpa using (hnodup.2.2 other.1 (List.mem_map_of_mem hother) key (by simp)).symm

section

variable {table : GroupTable}

theorem names_flat : ((allGroups table).map flatGroup).map (·.1) = groupNames table := by
  rw [List.map_map]
  rfl

/-- The check of the rules of a group comes to their first findings. -/
theorem map_error?_flatEntries {group : String × List Entry} (hgroup : group ∈ allGroups table) :
    (flatEntries group.1 0 group.2).map (FlatEntry.error? (groupNames table)) =
      group.2.map (Entry.firstFinding? (groupNames table)) := by
  apply map_flatEntries
  intro i entry hentry
  apply error?_flat
  intro inner hinner
  have hwrites : WritesInline group.2 i inner := by
    simp [WritesInline, hentry, hinner]
  exact List.mem_map_of_mem (f := Prod.fst) (mem_allGroups_of_writesInline hgroup hwrites)

theorem tableReports_flat :
    tableReports (groupNames table) ((allGroups table).map flatGroup) = ruleReports table := by
  rw [tableReports, List.flatMap_map, ruleReports]
  apply List.flatMap_congr
  intro group hgroup
  obtain ⟨name, entries⟩ := group
  have hmap := map_error?_flatEntries hgroup
  simp only [flatGroup] at hmap ⊢
  rw [entryReports_eq_reportsOn, hmap, reportsOn_map]
  rfl

theorem firstFailure?_flat :
    firstFailure? (groupNames table) ((allGroups table).map flatGroup) = stoppingFailure? table := by
  have hgroup : ∀ group ∈ allGroups table,
      (flatEntries group.1 0 group.2).findSome? (FlatEntry.failure? (groupNames table)) =
        group.2.findSome? fun entry =>
          (entry.firstFinding? (groupNames table)).bind RuleError.failure? := by
    intro group hgroup
    have hmap := congrArg (List.findSome? fun found : Option RuleError =>
      found.bind RuleError.failure?) (map_error?_flatEntries hgroup)
    rw [List.findSome?_map, List.findSome?_map] at hmap
    exact hmap
  have hall := congrArg (List.findSome? id) (List.map_congr_left hgroup)
  rw [List.findSome?_map, List.findSome?_map] at hall
  rw [firstFailure?, List.findSome?_map]
  exact hall

variable (table) in
/-- The groups of a table after naming and the checks of their rules. -/
def checkedGroups : CheckedTable :=
  checkedTable (groupNames table) ((allGroups table).map flatGroup)

theorem names_checkedGroups : (checkedGroups table).names = groupNames table := by
  rw [checkedGroups, names_checkedTable, names_flat]

theorem entriesOf_checkedTable {known : List String} {flat : FlatTable}
    (hnodup : (flat.map (·.1)).Nodup) {group : String} {entries : List FlatEntry}
    (hgroup : (group, entries) ∈ flat) :
    entriesOf (checkedTable known flat) group = entries.map (FlatEntry.checked known) := by
  have hnames : ((checkedTable known flat).map (·.1)).Nodup := by
    rwa [← names_checkedTable known] at hnodup
  have hmem : (group, entries.map (FlatEntry.checked known)) ∈ checkedTable known flat :=
    List.mem_map_of_mem hgroup
  rw [entriesOf, lookup_eq_some_of_nodup hnames hmem, Option.getD_some]

theorem entriesOf_checkedGroups (hnodup : (groupNames table).Nodup) {group : String}
    {entries : List Entry} (hgroup : (group, entries) ∈ allGroups table) :
    entriesOf (checkedGroups table) group =
      (flatEntries group 0 entries).map (FlatEntry.checked (groupNames table)) :=
  entriesOf_checkedTable (names_flat.symm ▸ hnodup) (List.mem_map_of_mem (f := flatGroup) hgroup)

/-- Naming and checks leave the includes of a group as they are. -/
theorem map_include?_entriesOf (hnodup : (groupNames table).Nodup) {group : String}
    {entries : List Entry} (hgroup : (group, entries) ∈ allGroups table) :
    (entriesOf (checkedGroups table) group).map CheckedEntry.include? =
      entries.map Entry.include? := by
  rw [entriesOf_checkedGroups hnodup hgroup, List.map_map]
  exact map_flatEntries fun i entry _ => include?_checked_flat (groupNames table) entry group i

/-- The reports on unknown includes are those on the includes of the table. -/
theorem perm_includeReports (hnodup : (groupNames table).Nodup) :
    (flattenAll (checkedGroups table)).unknowns.Perm (includeReports table) := by
  have hreports : (groupNames table).flatMap (unknownIncludesOf (checkedGroups table)) =
      includeReports table := by
    rw [groupNames, List.flatMap_map, includeReports]
    apply List.flatMap_congr
    rintro ⟨group, entries⟩ hgroup
    have hinclude := map_include?_entriesOf hnodup hgroup
    simp only [unknownIncludesOf, names_checkedGroups]
    rw [unknownIncludes_eq_reportsOn, hinclude, reportsOn_map]
    rfl
  rw [← hreports, ← names_checkedGroups]
  apply perm_unknowns_flattenAll
  rwa [names_checkedGroups]

theorem includeEdge_iff (hnodup : (groupNames table).Nodup) {group target : String} :
    IncludeEdge (checkedGroups table) group target ↔ Includes table group target := by
  have hentries : ∀ entries, (group, entries) ∈ allGroups table →
      (.includeGroup target ∈ entriesOf (checkedGroups table) group ↔
        .includeGroup target ∈ entries) := by
    intro entries hgroup
    have hchecked : .includeGroup target ∈ entriesOf (checkedGroups table) group ↔
        some target ∈ (entriesOf (checkedGroups table) group).map CheckedEntry.include? := by
      simp [List.mem_map, ← checked_eq_includeGroup_iff]
    have hsource : .includeGroup target ∈ entries ↔
        some target ∈ entries.map Entry.include? := by
      simp [List.mem_map, ← eq_includeGroup_iff]
    rw [hchecked, hsource, map_include?_entriesOf hnodup hgroup]
  constructor
  · rintro ⟨hentry, htarget⟩
    have hgroup : group ∈ groupNames table :=
      names_checkedGroups ▸ mem_names_of_includeEdge ⟨hentry, htarget⟩
    obtain ⟨⟨_, entries⟩, hmem, rfl⟩ := List.mem_map.mp hgroup
    exact ⟨names_checkedGroups ▸ htarget, entries, hmem, (hentries entries hmem).mp hentry⟩
  · rintro ⟨htarget, entries, hmem, hentry⟩
    exact ⟨(hentries entries hmem).mpr hentry, names_checkedGroups.symm ▸ htarget⟩

/-- A cycle is reported exactly when the groups of the table have one. -/
theorem exists_isCircular_checkedGroups (hnodup : (groupNames table).Nodup) :
    (∃ r ∈ (flattenAll (checkedGroups table)).reports, r.isCircular) ↔ HasIncludeCycle table := by
  have hedge : IncludeEdge (checkedGroups table) = Includes table := by
    funext group target
    exact propext (includeEdge_iff hnodup)
  rw [exists_isCircular_iff (names_checkedGroups.symm ▸ hnodup), hedge]
  rfl

theorem Report.isCircular_eq (r : Report) : r.isCircular = decide (r.fault.code = "G002") := by
  obtain ⟨fault, location⟩ := r
  cases fault <;> rfl

theorem compile_ne_circular {source : PatternSource} {cycle : List String} :
    source.compile ≠ .error (.faulty (.circularInclude cycle)) := by
  cases source with
  | ready pattern => simp [PatternSource.compile]
  | text s =>
      rw [PatternSource.compile]
      split
      · simp
      · split <;> simp
  | other value =>
      rw [PatternSource.compile]
      split
      · split <;> simp
      · simp

/-- A rule by itself is never part of a cycle. -/
theorem error?_ne_circular {known cycle : List String} {entry : FlatEntry} :
    entry.error? known ≠ some (.faulty (.circularInclude cycle)) := by
  cases entry with
  | includeGroup name => simp [FlatEntry.error?]
  | defaultKind kind => simp [FlatEntry.error?]
  | rule r =>
      simp only [FlatEntry.error?, FlatRule.compile]
      split
      · simp
      · rename_i e hcompile
        rintro ⟨⟩
        split at hcompile
        · cases hcompile
        split at hcompile
        · cases hcompile
        split at hcompile
        · cases hcompile
        split at hcompile
        · rename_i hpattern
          cases hcompile
          exact compile_ne_circular hpattern
        · split at hcompile <;> cases hcompile

theorem isCircular_eq_false_of_mem_tableReports {known : List String} {flat : FlatTable} {r : Report}
    (h : r ∈ tableReports known flat) : r.isCircular = false := by
  simp only [tableReports, entryReports, FlatEntry.report?, List.mem_flatMap, List.mem_filterMap,
    Option.map_eq_some_iff, Option.bind_eq_some_iff] at h
  obtain ⟨_, _, _, _, fault, ⟨e, herror, hfault⟩, rfl⟩ := h
  cases e with
  | stopped failure => simp [RuleError.fault?] at hfault
  | faulty found =>
      obtain rfl : found = fault := by simpa [RuleError.fault?] using hfault
      cases found with
      | circularInclude cycle => exact absurd herror error?_ne_circular
      | _ => rfl

/-- A compilation stops at the first failure, or else reports what it found in the groups after naming and
succeeds if that is nothing. -/
theorem compileGroups_of_hoist (table : GroupTable) (fallback : Kind) :
    compileGroups table fallback =
      let names := (hoist table).1.map (·.1)
      let missing := if names.contains startName then [] else [⟨.unknownGroup startName, none⟩]
      let checked := checkedTable names (hoist table).1
      let reports := (hoist table).2 ++ missing ++ tableReports names (hoist table).1 ++
        (flattenAll checked).reports
      match firstFailure? names (hoist table).1 with
      | some failure => .error (.stopped failure)
      | none =>
          if reports.isEmpty then .ok ⟨modesOf checked (flattenAll checked).finished, fallback⟩
          else .error (.rejected reports) := by
  simp only [compileGroups, checkTable_eq]
  cases firstFailure? ((hoist table).1.map (·.1)) (hoist table).1 with
  | some failure => rfl
  | none => rfl

/-- The outcome of a compilation, told from the table where no names clash. -/
theorem compileGroups_eq (hnames : (table.map (·.1)).Nodup) (hclash : NoNameClash table)
    (fallback : Kind) :
    compileGroups table fallback =
      match stoppingFailure? table with
      | some failure => .error (.stopped failure)
      | none =>
          if (missingStart table ++ ruleReports table ++
              (flattenAll (checkedGroups table)).reports).isEmpty then
            .ok ⟨modesOf (checkedGroups table) (flattenAll (checkedGroups table)).finished, fallback⟩
          else
            .error (.rejected (missingStart table ++ ruleReports table ++
              (flattenAll (checkedGroups table)).reports)) := by
  have hmissing : (if (groupNames table).contains startName then []
      else [(⟨.unknownGroup startName, none⟩ : Report)]) = missingStart table := by
    simp [missingStart]
  rw [compileGroups_of_hoist, hclash.hoist_eq hnames]
  simp only [names_flat, firstFailure?_flat, tableReports_flat, hmissing, List.nil_append]
  rfl

/-- The reports of a compilation that are not on cycles. -/
theorem filter_reports (table : GroupTable) (s : Flattening) :
    (missingStart table ++ ruleReports table ++ s.reports).filter
        (fun r => r.fault.code ≠ "G002") =
      missingStart table ++ ruleReports table ++ s.unknowns := by
  have hfilter : (fun r : Report => decide (r.fault.code ≠ "G002")) = fun r => !r.isCircular := by
    funext r
    rw [Report.isCircular_eq, decide_not]
  have hmissing : (missingStart table).filter (fun r => !r.isCircular) = missingStart table := by
    unfold missingStart
    split <;> rfl
  have hrules : (ruleReports table).filter (fun r => !r.isCircular) = ruleReports table := by
    rw [List.filter_eq_self]
    intro r hr
    rw [isCircular_eq_false_of_mem_tableReports (tableReports_flat ▸ hr), Bool.not_false]
  rw [hfilter, List.filter_append, List.filter_append, hmissing, hrules, Flattening.unknowns]

theorem exists_circular_reports (hnodup : (groupNames table).Nodup) :
    (∃ r ∈ missingStart table ++ ruleReports table ++ (flattenAll (checkedGroups table)).reports,
      r.fault.code = "G002") ↔ HasIncludeCycle table := by
  rw [← exists_isCircular_checkedGroups hnodup]
  simp only [Report.isCircular_eq, decide_eq_true_eq]
  constructor
  · rintro ⟨r, hr, hcode⟩
    rcases List.mem_append.mp hr with hbefore | hwalk
    · exfalso
      have hkept := filter_reports table ⟨[], [], []⟩
      simp only [List.append_nil, Flattening.unknowns, List.filter_nil, List.filter_eq_self] at hkept
      simpa [hcode] using hkept r hbefore
    · exact ⟨r, hwalk, hcode⟩
  · rintro ⟨r, hr, hcode⟩
    exact ⟨r, List.mem_append_right _ hr, hcode⟩

/-- There is nothing to report when there is nothing but cycles to report, and no cycle. -/
theorem reports_eq_nil_iff (hnodup : (groupNames table).Nodup) :
    missingStart table ++ ruleReports table ++ (flattenAll (checkedGroups table)).reports = [] ↔
      missingStart table ++ ruleReports table ++ includeReports table = [] ∧
        ¬ HasIncludeCycle table := by
  have hkept := filter_reports table (flattenAll (checkedGroups table))
  have hunknowns := (perm_includeReports hnodup).length_eq
  rw [← exists_circular_reports hnodup]
  simp only [List.append_eq_nil_iff]
  constructor
  · rintro ⟨hbefore, hwalk⟩
    have hnone : (flattenAll (checkedGroups table)).unknowns = [] := by
      rw [Flattening.unknowns, hwalk, List.filter_nil]
    rw [hnone, List.length_nil] at hunknowns
    refine ⟨⟨hbefore, List.length_eq_zero_iff.mp hunknowns.symm⟩, ?_⟩
    simp [hbefore, hwalk]
  · rintro ⟨⟨hbefore, hincludes⟩, hcycle⟩
    refine ⟨hbefore, List.eq_nil_iff_forall_not_mem.mpr fun r hr => ?_⟩
    have hall : (missingStart table ++ ruleReports table ++
        (flattenAll (checkedGroups table)).reports).filter (fun r => r.fault.code ≠ "G002") = [] := by
      rw [hincludes, List.length_nil, List.length_eq_zero_iff] at hunknowns
      rw [hkept, hbefore.1, hbefore.2, hunknowns, List.append_nil, List.append_nil]
    by_cases hcode : r.fault.code = "G002"
    · exact hcycle ⟨r, List.mem_append_right _ hr, hcode⟩
    · rw [List.filter_eq_nil_iff] at hall
      exact hall r (List.mem_append_right _ hr) (by simpa using hcode)

/-- The table of groups that a table stands for: its groups are read, unless all are ready. -/
def readTable (sources : List (String × GroupSource)) : Except ReadError GroupTable :=
  match readyGroups? sources with
  | some groups => .ok groups
  | none => readGroups sources

theorem compileSources_of_readTable {sources : List (String × GroupSource)}
    (hread : readTable sources = .ok table) (fallback : Kind) :
    compileSources sources fallback = compileGroups table fallback := by
  cases hready : readyGroups? sources with
  | some groups =>
      simp only [readTable, hready, Except.ok.injEq] at hread
      simp only [compileSources, hready, hread]
  | none =>
      simp only [readTable, hready] at hread
      simp only [compileSources, hready, hread]

/-- Only a table that can be read compiles. -/
theorem exists_readTable_of_compileSources {sources : List (String × GroupSource)} {fallback : Kind}
    {g : CompiledGrammar} (h : compileSources sources fallback = .ok g) :
    ∃ table, readTable sources = .ok table := by
  cases hready : readyGroups? sources with
  | some groups => exact ⟨groups, by simp only [readTable, hready]⟩
  | none =>
      cases hread : readGroups sources with
      | error e => cases e <;> simp [compileSources, hready, hread] at h
      | ok table => exact ⟨table, by simp only [readTable, hready, hread]⟩

theorem names_readyGroups {sources : List (String × GroupSource)}
    (h : readyGroups? sources = some table) : table.map (·.1) = sources.map (·.1) := by
  induction sources generalizing table with
  | nil =>
      cases h
      rfl
  | cons head rest ih =>
      obtain ⟨name, source⟩ := head
      cases source with
      | ready entries =>
          simp only [readyGroups?, List.mapM_cons, Option.bind_eq_bind, Option.bind_some,
            Option.bind_eq_some_iff] at h
          obtain ⟨more, hmore, hcons⟩ := h
          cases hcons
          rw [List.map_cons, List.map_cons, ih hmore]
      | value v => cases h
      | mixed items => cases h

/-- Reading keeps the names of all groups. -/
theorem names_readTable {sources : List (String × GroupSource)}
    (hread : readTable sources = .ok table) : table.map (·.1) = sources.map (·.1) := by
  unfold readTable at hread
  split at hread
  · rename_i hready
    cases hread
    exact names_readyGroups hready
  · have hkept : List.Forall₂ GroupReadsAs sources table := forall₂_of_readGroups hread
    clear * - hkept
    induction hkept with
    | nil => rfl
    | cons hgroup _ ih => rw [List.map_cons, List.map_cons, ih, hgroup.1]

theorem readTable_ready (table : GroupTable) :
    readTable (readySources table) = .ok table := by
  have hready : readyGroups? (readySources table) = some table := by
    induction table with
    | nil => rfl
    | cons group rest ih =>
        simp only [readyGroups?, readySources] at ih
        simp [readyGroups?, readySources, ih]
  rw [readTable, hready]

theorem compileSources_ready (fallback : Kind) :
    compileSources (readySources table) fallback = compileGroups table fallback :=
  compileSources_of_readTable (readTable_ready table) fallback

end

/-- An outcome reports every defect of a table once and nothing else: it succeeds if there is none, and
refuses the table otherwise.  Cycles of includes are reported as such, if there are any. -/
structure ReportsDefects (table : GroupTable) (outcome : Except CompileError CompiledGrammar) :
    Prop where
  ok_iff : (∃ g, outcome = .ok g) ↔
    missingStart table ++ ruleReports table ++ includeReports table = [] ∧ ¬ HasIncludeCycle table
  of_error : ∀ e, outcome = .error e → ∃ reports includes, e = .rejected reports ∧
    reports.filter (fun r => r.fault.code ≠ "G002") =
      missingStart table ++ ruleReports table ++ includes ∧
    includes.Perm (includeReports table) ∧
    ((∃ r ∈ reports, r.fault.code = "G002") ↔ HasIncludeCycle table)

/-- Compiling a table of differently named groups reports every defect once and nothing else, unless a
pattern stops it: one that is refused for a reason other than its wording, in a rule with nothing wrong
before it. -/
theorem compileSources_reports_each_defect_once (table : GroupTable)
    (hnames : (table.map (·.1)).Nodup) (hclash : NoNameClash table) (fallback : Kind) :
    (∀ failure, stoppingFailure? table = some failure →
      compileSources (readySources table) fallback = .error (.stopped failure)) ∧
    (stoppingFailure? table = none →
      ReportsDefects table (compileSources (readySources table) fallback)) := by
  rw [compileSources_ready, compileGroups_eq hnames hclash]
  constructor
  · intro failure hfailure
    rw [hfailure]
  · intro hnone
    rw [hnone]
    have hnodup : (groupNames table).Nodup := hclash.nodup_allGroups hnames
    constructor
    · rw [← reports_eq_nil_iff hnodup]
      by_cases hreports : missingStart table ++ ruleReports table ++
          (flattenAll (checkedGroups table)).reports = []
      · simp [hreports]
      · simp only [List.isEmpty_iff, hreports, if_false]
        simp
    · intro e he
      by_cases hreports : missingStart table ++ ruleReports table ++
          (flattenAll (checkedGroups table)).reports = []
      · simp [hreports] at he
      · simp only [List.isEmpty_iff, hreports, if_false] at he
        cases he
        exact ⟨_, _, rfl, filter_reports table _, perm_includeReports hnodup,
          exists_circular_reports hnodup⟩

namespace ReportsWitness

/-- Two groups that include each other, a rule with two things wrong, and inside its inline group an
include of no group; there is no first group. -/
def faulty : GroupTable :=
  [("main", [.includeGroup "other", .rule [] (.text "") (.inline [.includeGroup "lost"]) none]),
    ("other", [.includeGroup "main"])]

/-- A pattern whose repetition count is not supported. -/
def oversized : GroupTable :=
  [("start", [.rule ["text"] (.text "a\x7b4294967295\x7d") .nothing none])]

example : missingStart faulty ++ ruleReports faulty ++ includeReports faulty =
    [⟨.unknownGroup "start", none⟩, .atEntry .emptyKind "main" 1,
      .atEntry (.unknownGroup "lost") "main/1" 0] := by decide

theorem faulty_is_reported_and_oversized_stops :
    (faulty.map (·.1)).Nodup ∧ NoNameClash faulty ∧ stoppingFailure? faulty = none ∧
      ReportsDefects faulty (compileSources (readySources faulty) (.name textKind)) ∧
      compileSources (readySources oversized) (.name textKind) =
        .error (.stopped .repetitionTooLarge) := by
  refine ⟨by decide, by decide, by decide, ?_, ?_⟩
  · exact (compileSources_reports_each_defect_once faulty (by decide) (by decide)
      (.name textKind)).2 (by decide)
  · have hstops : stoppingFailure? oversized = some .repetitionTooLarge := by
      decide +kernel
    exact (compileSources_reports_each_defect_once oversized (by decide) (by decide)
      (.name textKind)).1 _ hstops

end ReportsWitness

end ModalHighlight
