import ModalHighlight.Grammar.File
import ModalHighlight.Proofs.Data.WholeNumbers
import ModalHighlight.Proofs.Grammar.Places

/-!
Refused patterns.  A grammar file is complained about, or its groups give a grammar or reports, and each
pattern that is refused for its wording has one report among the others.  Two things end in neither: a whole
number in the file that is too long, and a pattern that cannot be read for a reason other than its wording.
Documents, groups and patterns may be nested as deep as they like here; that a machine gives up on very deep
ones is left out.
-/

namespace ModalHighlight

/-- The pattern is refused for its wording. -/
def Pattern.Failure.IsRefusal (failure : Pattern.Failure) : Prop :=
  ∃ cause position, failure = .refused cause position

/-- The fault of a refused pattern. -/
def Fault.isRefusal (fault : Fault) : Bool :=
  fault.code = "G004"

/-- What a check comes to, told by the pattern in it: the fault of a refused one, and the failures that end
the check. -/
inductive Checks {α : Type} (refusal? : Option Fault) (stopsWith : Pattern.Failure → Prop) :
    Except RuleError α → Prop
  | sound {found : α} (hrefusal : refusal? = none) : Checks refusal? stopsWith (.ok found)
  | faulty {fault : Fault} (hrefusal : refusal? = (some fault).filter Fault.isRefusal) :
      Checks refusal? stopsWith (.error (.faulty fault))
  | stopped {failure : Pattern.Failure} (hrefusal : refusal? = none) (hstops : stopsWith failure) :
      Checks refusal? stopsWith (.error (.stopped failure))

namespace PatternSource

/-- The fault of a pattern that is refused for its wording, or for being no text.  One that is empty is not
read at all. -/
def refusal? : PatternSource → Option Fault
  | ready _ => none
  | text s =>
      if s = "" then none
      else
        match Pattern.parse s with
        | .error (.refused cause position) =>
            some (.invalidPattern (Text.quoted s) (Pattern.refusalMessage s cause position))
        | _ => none
  | other value =>
      if value.isPresent ∧ value.isDisplayable then
        some (.invalidPattern value.quotedDisplay (notTextMessage value))
      else none

/-- The pattern is a text that cannot be read, for a reason other than its wording, or a number in its place is
too long to be displayed. -/
inductive StopsWith : PatternSource → Pattern.Failure → Prop
  | text {s : String} {failure : Pattern.Failure} (hs : s ≠ "") (hparse : Pattern.parse s = .error failure)
      (hother : ¬ failure.IsRefusal) : StopsWith (.text s) failure
  | other {value : Value} (hpresent : value.isPresent) (hlong : ¬ value.HasDisplay) :
      StopsWith (.other value) .numberTooLong

theorem checks_compile (source : PatternSource) :
    Checks source.refusal? source.StopsWith source.compile := by
  cases source with
  | ready pattern => exact .sound rfl
  | other value =>
      rw [compile]
      split
      · rename_i hpresent
        split
        · rename_i hdisplay
          exact .faulty (if_pos ⟨hpresent, hdisplay⟩)
        · rename_i hlong
          exact .stopped (if_neg fun h => hlong h.2) (.other hpresent hlong)
      · rename_i habsent
        exact .faulty (if_neg fun h => habsent h.1)
  | text s =>
      rw [compile]
      split
      · rename_i hempty
        exact .faulty (if_pos hempty)
      · rename_i hs
        split
        · rename_i hparse
          exact .sound (by rw [refusal?, if_neg hs, hparse])
        · rename_i hparse
          exact .faulty (by rw [refusal?, if_neg hs, hparse]; rfl)
        · rename_i failure hother hparse
          have hfailure : ¬ failure.IsRefusal := by
            rintro ⟨cause, position, rfl⟩
            exact hother cause position rfl
          refine .stopped ?_ (.text hs hparse hfailure)
          rw [refusal?, if_neg hs, hparse]
          split
          · rename_i cause position hrefused
            exact absurd ⟨cause, position, Except.error.inj hrefused⟩ hfailure
          · rfl

theorem StopsWith.compile_eq {source : PatternSource} {failure : Pattern.Failure}
    (h : source.StopsWith failure) : source.compile = .error (.stopped failure) := by
  cases h with
  | @other value hpresent hlong =>
      have hnot : ¬ value.isDisplayable = true := hlong
      rw [compile, if_pos hpresent, if_neg hnot]
  | text hs hparse hother =>
      rw [compile, if_neg hs, hparse]
      split
      · rename_i hok
        cases hok
      · rename_i cause position hrefused
        exact absurd ⟨cause, position, Except.error.inj hrefused⟩ hother
      · rename_i hfailure
        rw [Except.error.inj hfailure]

end PatternSource

namespace FlatRule

/-- The check of a rule comes to its pattern: it has kinds, none of them empty, and it names at most one group
to open or to go on with, which exists. -/
def ReachesPattern (known : List String) (r : FlatRule) : Prop :=
  r.kinds ≠ [] ∧ "" ∉ r.kinds ∧ (r.push = none ∨ r.next = none) ∧
    ∀ target ∈ r.push.toList ++ r.next.toList, target = popWord ∨ target ∈ known

instance (known : List String) (r : FlatRule) : Decidable (r.ReachesPattern known) :=
  inferInstanceAs (Decidable (_ ∧ _))

/-- The fault of a rule with a refused pattern, if its check comes to that. -/
def refusal? (known : List String) (r : FlatRule) : Option Fault :=
  if r.ReachesPattern known then r.pattern.refusal? else none

def StopsWith (known : List String) (r : FlatRule) (failure : Pattern.Failure) : Prop :=
  r.ReachesPattern known ∧ r.pattern.StopsWith failure

section

variable {known : List String} {r : FlatRule}

theorem ReachesPattern.compile_eq (h : r.ReachesPattern known) :
    r.compile known =
      match r.pattern.compile with
      | .error e => .error e
      | .ok pattern =>
          if 1 < r.kinds.length ∧ pattern.groupCount ≠ r.kinds.length then
            .error (.faulty (.kindGroupMismatch r.kinds.length pattern.groupCount))
          else .ok ⟨r.kinds, pattern, .ofRule r.push r.next⟩ := by
  obtain ⟨hkinds, hempty, hone, htargets⟩ := h
  have hboth : ¬(r.push.isSome = true ∧ r.next.isSome = true) := by
    rcases hone with hnone | hnone <;> simp [hnone]
  rw [compile, unknownTarget?_eq_none_iff.mpr htargets]
  cases r.pattern.compile <;> simp [hkinds, hempty, hboth]

/-- A rule whose check does not come to its pattern has another fault. -/
theorem exists_fault_of_not_reachesPattern (h : ¬ r.ReachesPattern known) :
    ∃ fault, r.compile known = .error (.faulty fault) ∧ fault.isRefusal = false := by
  rw [compile]
  split
  · exact ⟨_, rfl, rfl⟩
  rename_i hkinds
  split
  · exact ⟨_, rfl, rfl⟩
  rename_i hboth
  split
  · exact ⟨_, rfl, rfl⟩
  rename_i htargets
  simp only [Bool.or_eq_true, List.isEmpty_iff, List.contains_iff_mem, not_or] at hkinds
  refine absurd ⟨hkinds.1, hkinds.2, ?_, unknownTarget?_eq_none_iff.mp htargets⟩ h
  cases hpush : r.push with
  | none => exact Or.inl rfl
  | some name => simpa [hpush] using hboth

theorem checks_compile (known : List String) (r : FlatRule) :
    Checks (r.refusal? known) (r.StopsWith known) (r.compile known) := by
  rw [refusal?]
  by_cases hreaches : r.ReachesPattern known
  · have hpattern := r.pattern.checks_compile
    rw [if_pos hreaches, hreaches.compile_eq]
    cases hcompile : r.pattern.compile with
    | error e =>
        rw [hcompile] at hpattern
        cases hpattern with
        | faulty hrefusal => exact .faulty hrefusal
        | stopped hrefusal hstops => exact .stopped hrefusal ⟨hreaches, hstops⟩
    | ok pattern =>
        rw [hcompile] at hpattern
        cases hpattern with
        | sound hrefusal =>
            simp only
            split
            · exact .faulty hrefusal
            · exact .sound hrefusal
  · obtain ⟨fault, hfault, hother⟩ := exists_fault_of_not_reachesPattern hreaches
    rw [if_neg hreaches, hfault]
    exact .faulty (by rw [Option.filter_some, if_neg (by rw [hother]; decide)])

theorem StopsWith.compile_eq {failure : Pattern.Failure} (h : r.StopsWith known failure) :
    r.compile known = .error (.stopped failure) := by
  rw [h.1.compile_eq, h.2.compile_eq]

end

end FlatRule

namespace FlatEntry

/-- The fault of an entry with a refused pattern. -/
def refusal? (known : List String) : FlatEntry → Option Fault
  | rule r => r.refusal? known
  | _ => none

/-- Of the fault of an entry a refused pattern is told from the entry alone. -/
theorem filter_fault?_error? (known : List String) (entry : FlatEntry) :
    ((entry.error? known).bind RuleError.fault?).filter Fault.isRefusal = entry.refusal? known := by
  cases entry with
  | includeGroup name => rfl
  | defaultKind kind => rfl
  | rule r =>
      have hchecks := r.checks_compile known
      rw [error?, refusal?]
      cases hcompile : r.compile known with
      | ok compiled =>
          rw [hcompile] at hchecks
          cases hchecks with
          | sound hrefusal => exact hrefusal.symm
      | error e =>
          rw [hcompile] at hchecks
          cases hchecks with
          | faulty hrefusal => exact hrefusal.symm
          | stopped hrefusal _ => exact hrefusal.symm

theorem failure?_eq_some_iff {known : List String} {entry : FlatEntry} {failure : Pattern.Failure} :
    entry.failure? known = some failure ↔ ∃ r, entry = .rule r ∧ r.StopsWith known failure := by
  cases entry with
  | includeGroup name => simp [failure?, error?]
  | defaultKind kind => simp [failure?, error?]
  | rule r =>
      constructor
      · intro h
        have hchecks := r.checks_compile known
        rw [failure?, error?] at h
        cases hcompile : r.compile known with
        | ok compiled => simp [hcompile] at h
        | error e =>
            rw [hcompile] at h hchecks
            cases hchecks with
            | faulty _ => cases h
            | stopped _ hstops =>
                cases h
                exact ⟨r, rfl, hstops⟩
      · rintro ⟨_, ⟨⟩, hstops⟩
        rw [failure?, error?, hstops.compile_eq]
        rfl

end FlatEntry

section

variable (table : GroupTable)

/-- The names of all groups after naming. -/
def namesAfterNaming : List String :=
  (hoist table).1.map (·.1)

/-- One report for each pattern that is refused. -/
def refusals : List Report :=
  (hoist table).1.flatMap fun (group, entries) =>
    reportsOn (FlatEntry.refusal? (namesAfterNaming table)) group entries

/-- The check of some rule comes to its pattern, which ends the compilation. -/
def StopsCompilation (failure : Pattern.Failure) : Prop :=
  ∃ group entries r, (group, entries) ∈ (hoist table).1 ∧ .rule r ∈ entries ∧
    r.StopsWith (namesAfterNaming table) failure

end

theorem filter_reportsOn {α : Type} (fault? : α → Option Fault) (p : Fault → Bool) (group : String)
    (entries : List α) :
    (reportsOn fault? group entries).filter (fun r => p r.fault) =
      reportsOn (fun entry => (fault? entry).filter p) group entries := by
  rw [reportsOn, List.filter_filterMap, reportsOn]
  congr 1
  funext x
  obtain ⟨entry, i⟩ := x
  simp only
  cases fault? entry with
  | none => rfl
  | some fault => by_cases hp : p fault <;> simp [Report.atEntry, Option.filter, hp]

theorem filter_tableReports (known : List String) (flat : FlatTable) :
    (tableReports known flat).filter (fun r => r.fault.isRefusal) =
      flat.flatMap fun (group, entries) => reportsOn (FlatEntry.refusal? known) group entries := by
  rw [tableReports, List.filter_flatMap]
  congr 1
  funext x
  obtain ⟨group, entries⟩ := x
  simp only
  rw [entryReports_eq_reportsOn, filter_reportsOn, reportsOn_map]
  congr 1
  funext entry
  exact FlatEntry.filter_fault?_error? known entry

/-- Replacing includes finds no refused patterns. -/
theorem isRefusal_of_mem_flattenAll {table : CheckedTable} {r : Report}
    (h : r ∈ (flattenAll table).reports) : r.fault.isRefusal = false := by
  have hkept : Flattening.Kept fun s => ∀ r ∈ s.reports, r.fault.isRefusal = false := by
    constructor
    · intro s target group index hs r hr
      rcases List.mem_append.mp hr with hbefore | hlast
      · exact hs r hbefore
      · rw [List.mem_singleton.mp hlast]
        rfl
    · intro s path target group index _ hs r hr
      simp only [Flattening.reportCycle] at hr
      split at hr
      · exact hs r hr
      · rcases List.mem_append.mp hr with hbefore | hlast
        · exact hs r hbefore
        · rw [List.mem_singleton.mp hlast]
          rfl
    · intro s group rules hs
      exact hs
  exact flattenAll_preserves hkept (by simp) r h

theorem firstFailure?_hoist_eq_some {table : GroupTable} {failure : Pattern.Failure}
    (h : firstFailure? (namesAfterNaming table) (hoist table).1 = some failure) :
    StopsCompilation table failure := by
  obtain ⟨⟨group, entries⟩, hgroup, hentries⟩ := List.exists_of_findSome?_eq_some h
  obtain ⟨entry, hentry, hfailure⟩ := List.exists_of_findSome?_eq_some hentries
  obtain ⟨r, rfl, hstops⟩ := FlatEntry.failure?_eq_some_iff.mp hfailure
  exact ⟨group, entries, r, hgroup, hentry, hstops⟩

theorem not_stopsCompilation_of_firstFailure? {table : GroupTable}
    (h : firstFailure? (namesAfterNaming table) (hoist table).1 = none) (failure : Pattern.Failure) :
    ¬ StopsCompilation table failure := by
  rintro ⟨group, entries, r, hgroup, hentry, hstops⟩
  rw [firstFailure?, List.findSome?_eq_none_iff] at h
  have hentries := h (group, entries) hgroup
  rw [List.findSome?_eq_none_iff] at hentries
  have hfailure := FlatEntry.failure?_eq_some_iff.mpr ⟨r, rfl, hstops⟩
  rw [hentries _ hentry] at hfailure
  cases hfailure

/-- What a compilation comes to: a grammar where nothing is refused, or reports, among which each refused
pattern has its own.  Only a pattern that ends the compilation leads to something else. -/
inductive CompilesOrReports (table : GroupTable) : Except CompileError CompiledGrammar → Prop
  | grammar {g : CompiledGrammar} (hquiet : ∀ failure, ¬ StopsCompilation table failure)
      (hrefusals : refusals table = []) : CompilesOrReports table (.ok g)
  | rejected {reports : List Report} (hquiet : ∀ failure, ¬ StopsCompilation table failure)
      (hreports : reports ≠ [])
      (hrefusals : reports.filter (fun r => r.fault.code = "G004") = refusals table) :
      CompilesOrReports table (.error (.rejected reports))
  | stopped {failure : Pattern.Failure} (hstops : StopsCompilation table failure) :
      CompilesOrReports table (.error (.stopped failure))

theorem compilesOrReports_compileGroups (table : GroupTable) (fallback : Kind) :
    CompilesOrReports table (compileGroups table fallback) := by
  have hclashes : (hoist table).2.filter (fun r => r.fault.isRefusal) = [] := by
    rw [List.filter_eq_nil_iff]
    intro r hr
    obtain ⟨name, hname⟩ := exists_nameClash_of_mem_hoist hr
    rw [hname]
    exact Bool.false_ne_true
  rw [compileGroups_of_hoist]
  extract_lets names missing checked reports
  have hmissing : missing.filter (fun r => r.fault.isRefusal) = [] := by
    unfold missing
    split <;> rfl
  have hwalk : (flattenAll checked).reports.filter (fun r => r.fault.isRefusal) = [] := by
    rw [List.filter_eq_nil_iff]
    intro r hr
    rw [isRefusal_of_mem_flattenAll hr]
    decide
  have hreports : reports.filter (fun r => r.fault.isRefusal) = refusals table := by
    rw [List.filter_append, List.filter_append, List.filter_append, hclashes, hmissing, hwalk,
      filter_tableReports, List.append_nil, List.nil_append, List.nil_append]
    rfl
  split
  · rename_i failure hfailure
    exact .stopped (firstFailure?_hoist_eq_some hfailure)
  · rename_i hnone
    have hquiet := not_stopsCompilation_of_firstFailure? hnone
    split
    · rename_i hempty
      refine .grammar hquiet ?_
      rw [← hreports, List.isEmpty_iff.mp hempty, List.filter_nil]
    · rename_i hsome
      exact .rejected hquiet (fun h => hsome (List.isEmpty_iff.mpr h)) hreports

/-- Where all values have a display, no number is too long. -/
theorem readTable_ne_numberTooLong {sources : List (String × GroupSource)}
    (h : ∀ source ∈ sources, source.2.HasDisplay) : readTable sources ≠ .error .numberTooLong := by
  unfold readTable
  split
  · nofun
  · intro hread
    rcases readGroups_cases sources with ⟨_, node, hnode, hlong⟩ | ⟨_, _, _, ⟨h', _⟩ | ⟨_, _, h', _⟩⟩
    · exact not_showsLongNumber_of_mem_sourceNodes h node hnode hlong
    · cases hread.symm.trans h'
    · cases hread.symm.trans h'

/-- A grammar file with a text in it is complained about, or its groups are data values that can be displayed.
These are reported as malformed, or they are compiled: to a grammar, or to reports among which each refused
pattern has its own.  Two things end in neither: a number in the text that is too long, and a pattern that
cannot be read for a reason other than its wording, in a rule with nothing wrong before it. -/
theorem groupsOfFile_compile_or_are_reported (path : Path) (text : String) (fallback : Kind) :
    match groupsOfFile path (.ok text) with
    | .error (.complaint c) => c.path = path
    | .error .numberTooLong => Data.Json.HasLongNumber (Text.withPlainNewlines text).toList
    | .error .impossibleName => False
    | .ok sources =>
        (∀ source ∈ sources, ∃ value, source.2 = .value value ∧ value.HasDisplay) ∧
          match readTable sources with
          | .error (.malformed reports) =>
              reports ≠ [] ∧ compileSources sources fallback = .error (.unreadable reports)
          | .error .numberTooLong => False
          | .ok table => CompilesOrReports table (compileSources sources fallback) := by
  rw [groupsOfFile, groupsOfText]
  cases hparse : Data.Json.parse (Text.withPlainNewlines text) with
  | error e =>
      cases e with
      | numberTooLong => exact Data.Json.hasLongNumber_of_parse hparse
      | fault cause offset => rfl
  | ok value =>
      have hdisplay := Data.Json.hasDisplay_of_parse hparse
      cases value with
      | table fields =>
          have hvalues : ∀ source ∈ fields.map fun field => (field.1, GroupSource.value field.2),
              ∃ value, source.2 = .value value ∧ value.HasDisplay := by
            intro source hsource
            obtain ⟨field, hfield, rfl⟩ := List.mem_map.mp hsource
            exact ⟨field.2, rfl, Value.hasDisplay_table_iff.mp hdisplay field hfield⟩
          have hsources : ∀ source ∈ fields.map fun field => (field.1, GroupSource.value field.2),
              source.2.HasDisplay := by
            intro source hsource
            obtain ⟨value, heq, hvalue⟩ := hvalues source hsource
            rw [heq]
            exact hvalue
          constructor
          · exact hvalues
          · split
            · rename_i reports hread
              have hunreadable := compileSources_of_unreadable hread fallback
              exact ⟨hunreadable.2.1, hunreadable.1⟩
            · rename_i hread
              exact readTable_ne_numberTooLong hsources hread
            · rename_i table hread
              rw [compileSources_of_readTable hread]
              exact compilesOrReports_compileGroups table fallback
      | _ => rfl

namespace RefusalsWitness

def file : Path := .ofText "grammar.json"

/-- A pattern that is refused, beside an include of no group. -/
def refusedText : String :=
  "\x7b\"start\": [\x7b\"token\": \"a\", \"regex\": \"(\"\x7d, \x7b\"include\": \"lost\"\x7d]\x7d"

def refusedSources : List (String × GroupSource) :=
  [("start", .value (.list [.table [("token", .str "a"), ("regex", .str "(")],
    .table [("include", .str "lost")]]))]

def refusedTable : GroupTable :=
  [("start", [.rule ["a"] (.text "(") .nothing none, .includeGroup "lost"])]

/-- A pattern whose repetition count is not supported. -/
def oversizedText : String :=
  "\x7b\"start\": [\x7b\"token\": \"a\", \"regex\": \"a\x7b4294967295\x7d\"\x7d]\x7d"

def oversizedSources : List (String × GroupSource) :=
  [("start", .value (.list [.table [("token", .str "a"), ("regex", .str "a\x7b4294967295\x7d")]]))]

def oversizedTable : GroupTable :=
  [("start", [.rule ["a"] (.text "a\x7b4294967295\x7d") .nothing none])]

theorem readEntry_pattern (location : Location) (s : String) :
    readEntry location (.table [("token", .str "a"), ("regex", .str s)]) =
      .ok (.one (.rule ["a"] (.text s) .nothing none)) := by
  rw [readEntry_rule rfl]
  rfl

theorem readEntry_name (location : Location) (name : String) :
    readEntry location (.table [("include", .str name)]) = .ok (.one (.includeGroup name)) := by
  rw [readEntry_include rfl]
  rfl

theorem readTable_refused : readTable refusedSources = .ok refusedTable := by
  simp only [readTable, readGroups, refusedSources, readAllGroups, GroupSource.read, readItems_cons,
    readItems_nil, readEntry_pattern, readEntry_name]
  rfl

theorem readTable_oversized : readTable oversizedSources = .ok oversizedTable := by
  simp only [readTable, readGroups, oversizedSources, readAllGroups, GroupSource.read, readItems_cons,
    readItems_nil, readEntry_pattern]
  rfl

theorem refused_is_reported_and_oversized_stops :
    groupsOfFile file (.ok refusedText) = .ok refusedSources ∧
      refusals refusedTable =
        [.atEntry (.invalidPattern "'('" "missing ), unterminated subpattern at position 0") "start" 0] ∧
      (∃ reports, compileSources refusedSources (.name textKind) = .error (.rejected reports) ∧
        reports.filter (fun r => r.fault.code = "G004") = refusals refusedTable) ∧
      groupsOfFile file (.ok oversizedText) = .ok oversizedSources ∧
      compileSources oversizedSources (.name textKind) = .error (.stopped .repetitionTooLarge) := by
  have hrefused : groupsOfFile file (.ok refusedText) = .ok refusedSources := by cbv
  have hoversized : groupsOfFile file (.ok oversizedText) = .ok oversizedSources := by cbv
  have hrefusals : refusals refusedTable = [.atEntry (.invalidPattern "'('"
      "missing ), unterminated subpattern at position 0") "start" 0] := by
    decide +kernel
  refine ⟨hrefused, hrefusals, ?_, hoversized, ?_⟩
  · have houtcome := groupsOfFile_compile_or_are_reported file refusedText (.name textKind)
    have hquiet : firstFailure? (namesAfterNaming refusedTable) (hoist refusedTable).1 = none := by
      decide +kernel
    simp only [hrefused, readTable_refused] at houtcome
    generalize compileSources refusedSources (.name textKind) = outcome at houtcome
    cases houtcome.2 with
    | grammar _ hnone =>
        rw [hrefusals] at hnone
        cases hnone
    | rejected _ _ hreports => exact ⟨_, rfl, hreports⟩
    | stopped hstops => exact absurd hstops (not_stopsCompilation_of_firstFailure? hquiet _)
  · have hstops : firstFailure? (namesAfterNaming oversizedTable) (hoist oversizedTable).1 =
        some .repetitionTooLarge := by
      decide +kernel
    rw [namesAfterNaming] at hstops
    rw [compileSources_of_readTable readTable_oversized, compileGroups_of_hoist]
    simp only [hstops]

end RefusalsWitness

end ModalHighlight
