import ModalHighlight.Proofs.Grammar.GroupNames
import ModalHighlight.Proofs.Grammar.Includes

/-!
The checks on rules.  A rule is checked by itself, and its first finding counts: it is reported at the
place of the rule, unless the pattern cannot be read for a reason other than its wording, which ends the
compilation at once.  The checks of a table leave its groups, includes and defaults as they are.
-/

namespace ModalHighlight

/-- The failure that ends a compilation. -/
def RuleError.failure? : RuleError → Option Pattern.Failure
  | .stopped failure => some failure
  | .faulty _ => none

/-- The fault that is reported. -/
def RuleError.fault? : RuleError → Option Fault
  | .faulty fault => some fault
  | .stopped _ => none

namespace FlatEntry

variable (names : List String)

/-- What is wrong with an entry by itself; only rules are checked. -/
def error? : FlatEntry → Option RuleError
  | .rule r =>
      match r.compile names with
      | .ok _ => none
      | .error e => some e
  | _ => none

/-- The failure of an entry that ends a compilation. -/
def failure? (entry : FlatEntry) : Option Pattern.Failure :=
  (entry.error? names).bind RuleError.failure?

/-- The report on an entry of a group. -/
def report? (group : String) (index : Nat) (entry : FlatEntry) : Option Report :=
  ((entry.error? names).bind RuleError.fault?).map fun fault => .atEntry fault group index

/-- An entry after its check. -/
def checked : FlatEntry → CheckedEntry
  | .rule r =>
      match r.compile names with
      | .ok compiled => .rule compiled
      | .error _ => .faulty
  | .includeGroup name => .includeGroup name
  | .defaultKind kind => .defaultKind kind

end FlatEntry

/-- The reports on the rules of a group, counted from an index on. -/
def entryReports (names : List String) (group : String) (index : Nat) (entries : List FlatEntry) :
    List Report :=
  (entries.zipIdx index).filterMap fun (entry, i) => entry.report? names group i

section

variable (names : List String)

theorem checkEntry_eq (group : String) (index : Nat) (entry : FlatEntry) :
    checkEntry names group index entry =
      match entry.failure? names with
      | some failure => .error failure
      | none => .ok (entry.checked names, (entry.report? names group index).toList) := by
  cases entry with
  | includeGroup name => rfl
  | defaultKind kind => rfl
  | rule r =>
      simp only [checkEntry, FlatEntry.failure?, FlatEntry.report?, FlatEntry.error?,
        FlatEntry.checked]
      cases hrule : r.compile names with
      | ok compiled => rfl
      | error e => cases e <;> rfl

theorem entryReports_cons (group : String) (index : Nat) (entry : FlatEntry)
    (rest : List FlatEntry) :
    entryReports names group index (entry :: rest) =
      (entry.report? names group index).toList ++ entryReports names group (index + 1) rest := by
  rw [entryReports, List.zipIdx_cons, List.filterMap_cons]
  cases hreport : entry.report? names group index <;> simp [hreport, entryReports]

/-- The check of a group ends with its first failure, or gives a report for each faulty rule. -/
theorem checkEntries_eq (group : String) (index : Nat) (entries : List FlatEntry) :
    checkEntries names group index entries =
      match entries.findSome? (FlatEntry.failure? names) with
      | some failure => .error failure
      | none => .ok (entries.map (FlatEntry.checked names), entryReports names group index entries) := by
  induction entries generalizing index with
  | nil => rfl
  | cons entry rest ih =>
      rw [checkEntries, ih, checkEntry_eq, entryReports_cons]
      cases hentry : entry.failure? names with
      | some failure => simp [hentry, bind, Except.bind]
      | none =>
          cases hrest : rest.findSome? (FlatEntry.failure? names) <;>
            simp [hentry, hrest, bind, Except.bind, pure, Except.pure]

/-- The first failure among the rules of a table that ends its compilation. -/
def firstFailure? (flat : FlatTable) : Option Pattern.Failure :=
  flat.findSome? fun (_, entries) => entries.findSome? (FlatEntry.failure? names)

/-- A table after the check of its rules. -/
def checkedTable (flat : FlatTable) : CheckedTable :=
  flat.map fun (group, entries) => (group, entries.map (FlatEntry.checked names))

/-- The reports on the rules of a table. -/
def tableReports (flat : FlatTable) : List Report :=
  flat.flatMap fun (group, entries) => entryReports names group 0 entries

theorem checkTable_eq (flat : FlatTable) :
    checkTable names flat =
      match firstFailure? names flat with
      | some failure => .error failure
      | none => .ok (checkedTable names flat, tableReports names flat) := by
  induction flat with
  | nil => rfl
  | cons head rest ih =>
      obtain ⟨group, entries⟩ := head
      rw [checkTable, ih, checkEntries_eq]
      cases hentries : entries.findSome? (FlatEntry.failure? names) with
      | some failure => simp [firstFailure?, hentries, bind, Except.bind]
      | none =>
          have hskip : firstFailure? names ((group, entries) :: rest) = firstFailure? names rest := by
            simp [firstFailure?, hentries]
          rw [hskip]
          cases hrest : firstFailure? names rest <;>
            simp [checkedTable, tableReports, bind, Except.bind, pure, Except.pure]

@[simp] theorem names_checkedTable (flat : FlatTable) :
    (checkedTable names flat).names = flat.map (·.1) := by
  simp [checkedTable, CheckedTable.names]

end

/-- The name that a push gives for the group to open. -/
def Push.named? : Push → Option String
  | .group name => some name
  | _ => none

/-- A push opens something. -/
def Push.isGiven : Push → Bool
  | .nothing => false
  | _ => true

/-- What is wrong with the number of kinds of a rule with a pattern. -/
def kindFindings (kinds : List String) (pattern : Pattern) : List RuleError :=
  if 1 < kinds.length ∧ pattern.groupCount ≠ kinds.length then
    [.faulty (.kindGroupMismatch kinds.length pattern.groupCount)]
  else []

/-- What is wrong with the pattern of a rule: it is empty, it cannot be read, or it has not as many groups
as the rule has kinds.  A number in the place of a pattern can be too long for the message on it. -/
def patternFindings (kinds : List String) : PatternSource → List RuleError
  | .ready pattern => kindFindings kinds pattern
  | .text s =>
      if s = "" then [.faulty .emptyPattern]
      else
        match Pattern.parse s with
        | .ok pattern => kindFindings kinds pattern
        | .error (.refused cause position) =>
            [.faulty (.invalidPattern (Text.quoted s) (Pattern.refusalMessage s cause position))]
        | .error failure => [.stopped failure]
  | .other value =>
      if value.isPresent then
        if value.isDisplayable then
          [.faulty (.invalidPattern value.quotedDisplay (notTextMessage value))]
        else [.stopped .numberTooLong]
      else [.faulty .emptyPattern]

/-- All that is wrong with an entry of a group, in the order of the checks, where `known` are the names of
all groups. -/
def Entry.findings (known : List String) : Entry → List RuleError
  | .rule kinds pattern push next =>
      (if kinds = [] ∨ "" ∈ kinds then [.faulty .emptyKind] else []) ++
        (if push.isGiven ∧ next.isSome then [.faulty .pushAndNext] else []) ++
        (push.named?.toList ++ next.toList).filterMap (fun target =>
          if target = popWord ∨ target ∈ known then none
          else some (.faulty (.unknownGroup target))) ++
        patternFindings kinds pattern
  | _ => []

theorem patternFindings_of_compile_eq_ok {source : PatternSource} {pattern : Pattern}
    (h : source.compile = .ok pattern) (kinds : List String) :
    patternFindings kinds source = kindFindings kinds pattern := by
  cases source with
  | ready ready =>
      cases h
      rfl
  | text s =>
      simp only [PatternSource.compile] at h
      split at h
      · cases h
      · rename_i hs
        cases hparse : Pattern.parse s with
        | ok parsed =>
            simp only [hparse, Except.ok.injEq] at h
            simp [patternFindings, hs, hparse, h]
        | error failure => cases failure <;> simp [hparse] at h
  | other value =>
      simp only [PatternSource.compile] at h
      split at h
      · split at h <;> cases h
      · cases h

theorem patternFindings_of_compile_eq_error {source : PatternSource} {e : RuleError}
    (h : source.compile = .error e) (kinds : List String) :
    patternFindings kinds source = [e] := by
  cases source with
  | ready ready => cases h
  | text s =>
      simp only [PatternSource.compile] at h
      split at h
      · rename_i hs
        cases h
        simp [patternFindings, hs]
      · rename_i hs
        cases hparse : Pattern.parse s with
        | ok parsed => simp [hparse] at h
        | error failure =>
            cases failure <;> simp only [hparse, Except.error.injEq] at h <;>
              simp [patternFindings, hs, hparse, h]
  | other value =>
      simp only [PatternSource.compile] at h
      split at h
      · rename_i hpresent
        split at h <;> rename_i hdisplay <;> cases h <;> simp [patternFindings, hpresent, hdisplay]
      · rename_i habsent
        cases h
        simp [patternFindings, habsent]

/-- The first of some targets that the table lacks makes the first finding on them. -/
theorem head?_unknownGroups (known targets : List String) :
    (targets.filterMap fun target =>
      if target = popWord ∨ target ∈ known then none
      else some (RuleError.faulty (.unknownGroup target))).head? =
      (targets.find? fun target => target != popWord && !known.contains target).map
        fun target => .faulty (.unknownGroup target) := by
  induction targets with
  | nil => rfl
  | cons target rest ih =>
      have hunknown : (target != popWord && !known.contains target) =
          !decide (target = popWord ∨ target ∈ known) := by
        rw [Bool.eq_iff_iff]
        simp
      rw [List.filterMap_cons, List.find?_cons, hunknown]
      by_cases htarget : target = popWord ∨ target ∈ known
      · simp only [htarget, if_true, decide_true, Bool.not_true]
        exact ih
      · simp only [htarget, if_false, decide_false, Bool.not_false]
        rfl

/-- No name is unknown if each is that of a group or the word that closes a mode. -/
theorem unknownTarget?_eq_none_iff {known : List String} {push next : Option String} :
    unknownTarget? known push next = none ↔
      ∀ target ∈ push.toList ++ next.toList, target = popWord ∨ target ∈ known := by
  rw [unknownTarget?, List.find?_eq_none]
  apply forall₂_congr
  intro target _
  by_cases hpop : target = popWord <;> simp [hpop]

/-- An inline group is never unknown, so only what a rule names itself can be. -/
theorem unknownTarget?_target {known : List String} {group : String} {index : Nat} {push : Push}
    (hinline : ∀ inner, push = .inline inner → inlineName group index ∈ known)
    (next : Option String) :
    unknownTarget? known (push.target? group index) next =
      unknownTarget? known push.named? next := by
  cases push with
  | nothing => rfl
  | group name => rfl
  | inline inner =>
      have hmem := hinline inner rfl
      simp [unknownTarget?, Push.target?, Push.named?, hmem]

/-- The check of an entry comes to its first finding. -/
theorem error?_flat {known : List String} {group : String} {index : Nat} {entry : Entry}
    (hinline : ∀ inner, entry.inline? = some inner → inlineName group index ∈ known) :
    (entry.flat group index).error? known = (entry.findings known).head? := by
  cases entry with
  | includeGroup name => rfl
  | defaultKind kind => rfl
  | rule kinds pattern push next =>
      have hunknown : unknownTarget? known (push.target? group index) next =
          unknownTarget? known push.named? next := by
        apply unknownTarget?_target
        rintro inner rfl
        exact hinline inner rfl
      have hgiven : (push.target? group index).isSome = push.isGiven := by
        cases push <;> rfl
      simp only [Entry.flat, FlatEntry.error?, FlatRule.compile, Entry.findings, hunknown, hgiven,
        Bool.or_eq_true, Bool.and_eq_true, List.isEmpty_iff, List.contains_iff_mem]
      by_cases hkinds : kinds = [] ∨ "" ∈ kinds
      · simp [hkinds]
      by_cases hboth : push.isGiven = true ∧ next.isSome = true
      · simp [hkinds, hboth]
      have hfind := head?_unknownGroups known (push.named?.toList ++ next.toList)
      rw [← unknownTarget?] at hfind
      simp only [if_neg hkinds, if_neg hboth, List.nil_append, List.head?_append, hfind]
      cases unknownTarget? known push.named? next with
      | some target => rfl
      | none =>
          cases hpattern : pattern.compile with
          | error e => simp [patternFindings_of_compile_eq_error hpattern]
          | ok compiled =>
              simp only [patternFindings_of_compile_eq_ok hpattern, kindFindings]
              by_cases hgroups : 1 < kinds.length ∧ compiled.groupCount ≠ kinds.length
              · simp [hgroups]
              · simp [hgroups]

end ModalHighlight
