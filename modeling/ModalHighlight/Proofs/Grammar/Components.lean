import ModalHighlight.Proofs.Grammar.Reports

/-!
The cycles that a compilation names.  Groups written in place count as groups of their own, and each entry
that includes a known group is an edge.  A report on a cycle spells out a cycle of this graph, no two
reports name the same groups, and every component with a cycle is named.  This is asked of every table,
also of one with faults in it, as long as no pattern ends the compilation before the includes are walked.
-/

namespace ModalHighlight

/-- A group includes another group, once the groups written in place have their names. -/
def IncludesHoisted (table : GroupTable) (group target : String) : Prop :=
  (∃ entries, (group, entries) ∈ (hoist table).1 ∧ .includeGroup target ∈ entries) ∧
    target ∈ (hoist table).1.map (·.1)

/-- A cycle as it is shown: distinct groups along edges, and the first of them again. -/
def IsClosedCycle (edge : String → String → Prop) (cycle : List String) : Prop :=
  ∃ first rest, cycle = first :: rest ++ [first] ∧ (first :: rest).Nodup ∧ cycle.IsChain edge

/-- The cycles of a list are cycles of a graph, no two go through the same groups, and every component of
the graph that has a cycle holds one of the list. -/
structure NamesCycles (edge : String → String → Prop) (cycles : List (List String)) : Prop where
  real : ∀ cycle ∈ cycles, IsClosedCycle edge cycle
  distinct : cycles.Pairwise fun cycle other => ¬ ∀ name, name ∈ cycle ↔ name ∈ other
  complete : ∀ group, Relation.TransGen edge group group →
    ∃ cycle ∈ cycles, ∀ name ∈ cycle, InComponent edge group name

/-- The reports that the outcome of a compilation comes with. -/
def outcomeReports : Except CompileError CompiledGrammar → List Report
  | .error (.unreadable reports) => reports
  | .error (.rejected reports) => reports
  | _ => []

/-- The reports on cycles are those with their code; each shows its cycle, and together they name the
cycles of a graph. -/
structure ReportsNameCycles (edge : String → String → Prop) (reports : List Report) : Prop where
  message_eq : ∀ r ∈ reports, r.fault.code = "G002" →
    ∃ cycle ∈ reports.filterMap Report.cycle?, r.cycle? = some cycle ∧
      r.fault.message = "circular include: " ++ " -> ".intercalate cycle
  names : NamesCycles edge (reports.filterMap Report.cycle?)
  exists_iff : (∃ r ∈ reports, r.fault.code = "G002") ↔
    ∃ group, Relation.TransGen edge group group

theorem mem_closedCycle {cycle : List String} {name : String} :
    name ∈ closedCycle cycle ↔ name ∈ cycle := by
  cases cycle with
  | nil => simp [closedCycle]
  | cons first rest =>
      simp only [closedCycle, List.head?_cons, Option.toList_some, List.mem_append,
        List.mem_singleton, or_iff_left_iff_imp]
      rintro rfl
      exact List.mem_cons_self

section

variable {table : CheckedTable}

theorem IsIncludeCycle.isClosedCycle {cycle : List String} (h : IsIncludeCycle table cycle) :
    IsClosedCycle (IncludeEdge table) (closedCycle cycle) := by
  obtain ⟨first, rest, rfl, hnodup, hchain⟩ := h
  exact ⟨first, rest, rfl, hnodup, hchain⟩

theorem namesCycles_flattenAll (hnames : table.names.Nodup) :
    NamesCycles (IncludeEdge table)
      ((flattenAll table).reports.filterMap Report.cycle?) := by
  have hreports : (flattenAll table).reports.filterMap Report.cycle? =
      (flattenAll table).cycles.reverse.map closedCycle := reportsCycles_flattenAll
  rw [hreports]
  constructor
  · intro cycle hcycle
    obtain ⟨met, hmet, rfl⟩ := List.mem_map.mp hcycle
    exact (isIncludeCycle_of_mem_flattenAll met (List.mem_reverse.mp hmet)).isClosedCycle
  · have hdistinct : (flattenAll table).DistinctCycles := distinctCycles_flattenAll
    rw [List.pairwise_map, List.pairwise_reverse]
    refine hdistinct.imp fun hdiffer hsame => hdiffer fun name => ?_
    have hname := hsame name
    rw [mem_closedCycle, mem_closedCycle] at hname
    exact hname.symm
  · intro group hcycle
    obtain ⟨met, hmet, hinside⟩ := exists_cycle_in_component hnames hcycle
    refine ⟨closedCycle met, List.mem_map_of_mem (List.mem_reverse.mpr hmet), fun name hname => ?_⟩
    exact hinside name (mem_closedCycle.mp hname)

end

theorem Report.code_eq_iff {r : Report} :
    r.fault.code = "G002" ↔ ∃ cycle, r.cycle? = some cycle := by
  rw [← Report.isCircular_iff, Report.isCircular_eq, decide_eq_true_eq]

theorem Report.message_of_cycle? {r : Report} {cycle : List String} (h : r.cycle? = some cycle) :
    r.fault.message = "circular include: " ++ " -> ".intercalate cycle := by
  obtain ⟨fault, location⟩ := r
  cases fault <;> cases h
  rfl

theorem NamesCycles.exists_mem_iff {edge : String → String → Prop} {cycles : List (List String)}
    (h : NamesCycles edge cycles) :
    (∃ cycle, cycle ∈ cycles) ↔ ∃ group, Relation.TransGen edge group group := by
  constructor
  · rintro ⟨cycle, hcycle⟩
    obtain ⟨first, rest, rfl, _, hchain⟩ := h.real cycle hcycle
    exact ⟨first, transGen_of_isChain hchain⟩
  · rintro ⟨group, hgroup⟩
    obtain ⟨cycle, hcycle, _⟩ := h.complete group hgroup
    exact ⟨cycle, hcycle⟩

theorem NamesCycles.reports {edge : String → String → Prop} {reports : List Report}
    (h : NamesCycles edge (reports.filterMap Report.cycle?)) : ReportsNameCycles edge reports := by
  refine ⟨?_, h, ?_⟩
  · intro r hr hcode
    obtain ⟨cycle, hcycle⟩ := Report.code_eq_iff.mp hcode
    exact ⟨cycle, List.mem_filterMap.mpr ⟨r, hr, hcycle⟩, hcycle, Report.message_of_cycle? hcycle⟩
  · rw [← h.exists_mem_iff]
    simp only [Report.code_eq_iff, List.mem_filterMap]
    constructor
    · rintro ⟨r, hr, cycle, hcycle⟩
      exact ⟨cycle, r, hr, hcycle⟩
    · rintro ⟨cycle, r, hr, hcycle⟩
      exact ⟨r, hr, cycle, hcycle⟩

section

variable {table : GroupTable}

theorem cycle?_eq_none {r : Report} (h : r.isCircular = false) : r.cycle? = none := by
  cases hcycle : r.cycle? with
  | none => rfl
  | some cycle =>
      rw [Report.isCircular_iff.mpr ⟨cycle, hcycle⟩] at h
      cases h

/-- Checks leave the includes of the groups as they are. -/
theorem includeEdge_checkedTable (known : List String) :
    IncludeEdge (checkedTable known (hoist table).1) = IncludesHoisted table := by
  have hentry : ∀ (entries : List FlatEntry) (target : String),
      .includeGroup target ∈ entries.map (FlatEntry.checked known) ↔
        .includeGroup target ∈ entries := by
    intro entries target
    constructor
    · intro hmem
      obtain ⟨entry, hentry, hchecked⟩ := List.mem_map.mp hmem
      cases entry with
      | includeGroup name =>
          cases hchecked
          exact hentry
      | defaultKind kind => cases hchecked
      | rule r =>
          simp only [FlatEntry.checked] at hchecked
          split at hchecked <;> cases hchecked
    · exact fun hmem => List.mem_map.mpr ⟨_, hmem, rfl⟩
  have hnames := names_checkedTable known (hoist table).1
  funext group target
  refine propext ⟨fun hedge => ?_, ?_⟩
  · have hgroup := mem_names_of_includeEdge hedge
    rw [hnames] at hgroup
    obtain ⟨⟨group, entries⟩, hmem, rfl⟩ := List.mem_map.mp hgroup
    have hentries := hedge.1
    rw [entriesOf_checkedTable (nodup_names_hoist table) hmem, hentry] at hentries
    exact ⟨⟨entries, hmem, hentries⟩, hnames ▸ hedge.2⟩
  · rintro ⟨⟨entries, hmem, hentries⟩, htarget⟩
    refine ⟨?_, hnames.symm ▸ htarget⟩
    rw [entriesOf_checkedTable (nodup_names_hoist table) hmem, hentry]
    exact hentries

theorem outcomeReports_of_reports (reports : List Report) (g : CompiledGrammar) :
    outcomeReports (if reports.isEmpty then .ok g else .error (.rejected reports)) = reports := by
  cases reports <;> rfl

/-- Nothing but the walk over the includes reports a cycle. -/
theorem filterMap_cycle?_outcomeReports (fallback : Kind)
    (hstop : firstFailure? ((hoist table).1.map (·.1)) (hoist table).1 = none) :
    (outcomeReports (compileGroups table fallback)).filterMap Report.cycle? =
      (flattenAll (checkedTable ((hoist table).1.map (·.1)) (hoist table).1)).reports.filterMap
        Report.cycle? := by
  have hclashes : (hoist table).2.filterMap Report.cycle? = [] := by
    refine List.filterMap_eq_nil_iff.mpr fun r hr => ?_
    obtain ⟨name, hname⟩ := exists_nameClash_of_mem_hoist hr
    rw [Report.cycle?, hname]
  have hrules : (tableReports ((hoist table).1.map (·.1)) (hoist table).1).filterMap
      Report.cycle? = [] :=
    List.filterMap_eq_nil_iff.mpr fun r hr =>
      cycle?_eq_none (isCircular_eq_false_of_mem_tableReports hr)
  have hmissing : (if ((hoist table).1.map (·.1)).contains startName then []
      else [(⟨.unknownGroup startName, none⟩ : Report)]).filterMap Report.cycle? = [] := by
    split <;> rfl
  rw [compileGroups_of_hoist]
  simp only [hstop]
  rw [outcomeReports_of_reports, List.filterMap_append, List.filterMap_append,
    List.filterMap_append, hclashes, hmissing, hrules, List.nil_append, List.nil_append,
    List.nil_append]

/-- Replacing includes comes to an end for every table.  The reports of a compilation name the cycles of
its includes, unless a pattern stops it: one that is refused for a reason other than its wording, in a rule
with nothing wrong before it. -/
theorem compileSources_names_include_cycles {sources : List (String × GroupSource)}
    (hread : readTable sources = .ok table) (fallback : Kind) :
    (∀ known bound, (hoist table).1.length < bound →
      flattenAllWithin bound (checkedTable known (hoist table).1) =
        flattenAll (checkedTable known (hoist table).1)) ∧
    (∀ failure, firstFailure? ((hoist table).1.map (·.1)) (hoist table).1 = some failure →
      compileSources sources fallback = .error (.stopped failure)) ∧
    (firstFailure? ((hoist table).1.map (·.1)) (hoist table).1 = none →
      ReportsNameCycles (IncludesHoisted table)
        (outcomeReports (compileSources sources fallback))) := by
  rw [compileSources_of_readTable hread]
  refine ⟨fun known bound hbound => ?_, fun failure hfailure => ?_, fun hstop => ?_⟩
  · apply flattenAllWithin_eq
    rwa [checkedTable, List.length_map]
  · rw [compileGroups_of_hoist]
    simp only [hfailure]
  · have hnames : (checkedTable ((hoist table).1.map (·.1)) (hoist table).1).names.Nodup := by
      rw [names_checkedTable]
      exact nodup_names_hoist table
    apply NamesCycles.reports
    rw [filterMap_cycle?_outcomeReports fallback hstop, ← includeEdge_checkedTable]
    exact namesCycles_flattenAll hnames

end

namespace ComponentsWitness

/-- A group written in place that includes itself, and two cycles through one group that the first group
does not lead to. -/
def looping : GroupTable :=
  [("start", [.rule ["open"] (.text "x") (.inline [.includeGroup "start/0"]) none]),
    ("a", [.includeGroup "b"]), ("b", [.includeGroup "c", .includeGroup "a"]),
    ("c", [.includeGroup "b"])]

/-- A cycle beside a pattern whose repetition count is not supported. -/
def stopping : GroupTable :=
  [("start", [.includeGroup "start", .rule ["a"] (.text "a\x7b4294967295\x7d") .nothing none])]

example : (outcomeReports (compileSources (readySources looping) (.name textKind))).filterMap
    Report.cycle? = [["start/0", "start/0"], ["b", "c", "b"], ["a", "b", "a"]] := by
  decide +kernel

theorem all_components_of_looping_are_named :
    readTable (readySources looping) = .ok looping ∧
      firstFailure? ((hoist looping).1.map (·.1)) (hoist looping).1 = none ∧
      ReportsNameCycles (IncludesHoisted looping)
        (outcomeReports (compileSources (readySources looping) (.name textKind))) ∧
      readTable (readySources stopping) = .ok stopping ∧
      compileSources (readySources stopping) (.name textKind) =
        .error (.stopped .repetitionTooLarge) := by
  have hquiet : firstFailure? ((hoist looping).1.map (·.1)) (hoist looping).1 = none := by
    decide +kernel
  have hstops : firstFailure? ((hoist stopping).1.map (·.1)) (hoist stopping).1 =
      some .repetitionTooLarge := by
    decide +kernel
  exact ⟨readTable_ready looping, hquiet,
    (compileSources_names_include_cycles (readTable_ready looping) (.name textKind)).2.2 hquiet,
    readTable_ready stopping,
    (compileSources_names_include_cycles (readTable_ready stopping) (.name textKind)).2.1 _ hstops⟩

end ComponentsWitness

end ModalHighlight
