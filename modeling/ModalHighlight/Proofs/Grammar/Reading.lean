import ModalHighlight.Grammar.Reader
import ModalHighlight.Proofs.Data.WholeNumbers
import Mathlib.Data.List.Basic
import Mathlib.Data.List.Forall2

/-!
Reading groups from data.  The nodes of a table are its groups, the items of each group, and the items of the
lists that rules open in place, depth first and from left to right.  Each malformed node is reported once, in
this order.  Where no node is malformed, every group and every item is kept: an item becomes one entry, and
the list that a rule opens becomes an inline group with one entry for each of its items.  Only a whole number
that is too long to be displayed, and that stands where a name is read, ends the reading before that.  No value
of a document holds one.
-/

namespace ModalHighlight

section

variable (fields : List (String × Value))

/-- The table is no include, and it has a token or a regex. -/
def isRule : Bool :=
  (Value.field? "include" fields).isNone &&
    ((Value.field? "token" fields).isSome || (Value.field? "regex" fields).isSome)

/-- The pattern of a rule, if it is a text.  A missing one counts as empty. -/
def patternText? : Option String :=
  match Value.field? "regex" fields with
  | none => some ""
  | some (.str pattern) => some pattern
  | some _ => none

end

/-- What is wrong with an item by itself, whatever the list holds that it opens. -/
inductive Value.Malformed : Value → Fault → Prop
  | notTable {v : Value} (h : ∀ fields, v ≠ .table fields) : Malformed v (.entryNotTable v.typeName)
  | withoutKey {fields : List (String × Value)}
      (h : ∀ key ∈ ["include", "token", "regex", "defaultToken"], Value.field? key fields = none) :
      Malformed (.table fields) .entryWithoutKey
  | pattern {fields : List (String × Value)} {v : Value} (hrule : isRule fields)
      (hregex : Value.field? "regex" fields = some v) (htext : ∀ s, v ≠ .str s) :
      Malformed (.table fields) (.patternNotText v.typeName)
  | push {fields : List (String × Value)} {v : Value} (hrule : isRule fields)
      (htext : (patternText? fields).isSome) (hpush : Value.field? "push" fields = some v)
      (hnull : v ≠ .null) (hname : ∀ s, v ≠ .str s) (hlist : ∀ items, v ≠ .list items) :
      Malformed (.table fields) (.pushOfWrongType v.typeName)

/-- The values that a token field gives kinds by: the items of a list, or the value itself. -/
def kindValues : Option Value → List Value
  | none => []
  | some (.list items) => items
  | some v => [v]

/-- A value that is displayed while an item is read, whatever the list holds that it opens.  The name of the
group to go on with comes last, so only an item with nothing wrong displays it. -/
inductive Value.Displays : Value → Value → Prop
  | include {fields : List (String × Value)} {name : Value}
      (hname : Value.field? "include" fields = some name) : Displays (.table fields) name
  | default {fields : List (String × Value)} {kind : Value}
      (hothers : ∀ key ∈ ["include", "token", "regex"], Value.field? key fields = none)
      (hkind : Value.field? "defaultToken" fields = some kind) : Displays (.table fields) kind
  | kind {fields : List (String × Value)} {kind : Value} (hrule : isRule fields)
      (hkind : kind ∈ kindValues (Value.field? "token" fields)) : Displays (.table fields) kind
  | next {fields : List (String × Value)} {next : Value} (hrule : isRule fields)
      (hsound : ∀ fault, ¬ (Value.table fields).Malformed fault)
      (hnext : Value.field? "next" fields = some next) (hnull : next ≠ .null) :
      Displays (.table fields) next

/-- The kinds that a token field stands for.  A missing one counts as an empty text. -/
inductive KindsReadAs : Option Value → List String → Prop
  | missing : KindsReadAs none [""]
  | list (items : List Value) : KindsReadAs (some (.list items)) (items.map Value.display)
  | one {v : Value} (h : ∀ items, v ≠ .list items) : KindsReadAs (some v) [v.display]

/-- The group to go on with that a field stands for. -/
inductive NextReadsAs : Option Value → Option String → Prop
  | missing : NextReadsAs none none
  | null : NextReadsAs (some .null) none
  | group {v : Value} (h : v ≠ .null) : NextReadsAs (some v) (some v.display)

mutual

/-- The entry that an item stands for. -/
inductive ReadsAs : Value → Entry → Prop
  | include {fields : List (String × Value)} {name : Value}
      (hname : Value.field? "include" fields = some name) :
      ReadsAs (.table fields) (.includeGroup name.display)
  | default {fields : List (String × Value)} {kind : Value}
      (hothers : ∀ key ∈ ["include", "token", "regex"], Value.field? key fields = none)
      (hkind : Value.field? "defaultToken" fields = some kind) :
      ReadsAs (.table fields) (.defaultKind kind.display)
  | rule {fields : List (String × Value)} {kinds : List String} {pattern : String} {push : Push}
      {next : Option String} (hrule : isRule fields)
      (hkinds : KindsReadAs (Value.field? "token" fields) kinds)
      (htext : patternText? fields = some pattern)
      (hpush : PushReadsAs (Value.field? "push" fields) push)
      (hnext : NextReadsAs (Value.field? "next" fields) next) :
      ReadsAs (.table fields) (.rule kinds (.text pattern) push next)

/-- What the push of an item stands for. -/
inductive PushReadsAs : Option Value → Push → Prop
  | missing : PushReadsAs none .nothing
  | null : PushReadsAs (some .null) .nothing
  | group {name : String} : PushReadsAs (some (.str name)) (.group name)
  | inline {items : List Value} {entries : List Entry} (h : ItemsReadAs items entries) :
      PushReadsAs (some (.list items)) (.inline entries)

/-- One entry for each item, in order. -/
inductive ItemsReadAs : List Value → List Entry → Prop
  | nil : ItemsReadAs [] []
  | cons {item : Value} {entry : Entry} {items : List Value} {entries : List Entry}
      (hitem : ReadsAs item entry) (hrest : ItemsReadAs items entries) :
      ItemsReadAs (item :: items) (entry :: entries)

end

/-- The list that an item opens in place.  It is not looked at if the item is no rule or has no pattern
text. -/
def Value.opened : Value → List Value
  | .table fields =>
      if isRule fields && (patternText? fields).isSome then
        match Value.field? "push" fields with
        | some (.list items) => items
        | _ => []
      else []
  | _ => []

theorem sizeOf_opened_le (v : Value) : sizeOf v.opened ≤ sizeOf v := by
  have hnil : ∀ w : Value, sizeOf ([] : List Value) ≤ sizeOf w := by
    intro w
    cases w <;> simp
  cases v with
  | table fields =>
      simp only [Value.opened]
      split
      · split
        · rename_i items hpush
          have hlt := sizeOf_lookup_lt hpush
          simp only [Value.list.sizeOf_spec] at hlt
          simp only [Value.table.sizeOf_spec]
          omega
        · exact hnil _
      · exact hnil _
  | _ => exact hnil _

theorem sizeOf_opened_lt (v : Value) (rest : List Value) : sizeOf v.opened < sizeOf (v :: rest) := by
  have hle := sizeOf_opened_le v
  simp only [List.cons.sizeOf_spec]
  omega

/-- An induction over items and the lists that they open. -/
theorem items_induction {P : Value → Prop} {Q : List Value → Prop}
    (item : ∀ v, Q v.opened → P v) (nil : Q []) (cons : ∀ v rest, P v → Q rest → Q (v :: rest)) :
    ∀ items, Q items
  | [] => nil
  | v :: rest =>
      cons v rest (item v (items_induction item nil cons v.opened)) (items_induction item nil cons rest)
termination_by items => sizeOf items
decreasing_by
  · exact sizeOf_opened_lt v rest
  · simp only [List.cons.sizeOf_spec]
    omega

/-- A place of a table that can be malformed: a group, or an item of a list of entries. -/
inductive SourceNode
  | group (name : String) (source : GroupSource)
  | item (location : Location) (v : Value)

/-- The nodes of the items of a list, counted from an index on: each item, and then the items that it
opens. -/
def nodesOfItems (group : String) (index : Nat) : List Value → List SourceNode
  | [] => []
  | v :: rest =>
      .item ⟨group, some index⟩ v ::
        (nodesOfItems (Location.pushed ⟨group, some index⟩) 0 v.opened ++
          nodesOfItems group (index + 1) rest)
termination_by items => sizeOf items
decreasing_by
  · exact sizeOf_opened_lt v rest
  · simp only [List.cons.sizeOf_spec]
    omega

/-- An item and the items below it. -/
def nodesOf (location : Location) (v : Value) : List SourceNode :=
  .item location v :: nodesOfItems location.pushed 0 v.opened

theorem nodesOfItems_cons (group : String) (index : Nat) (v : Value) (rest : List Value) :
    nodesOfItems group index (v :: rest) =
      nodesOf ⟨group, some index⟩ v ++ nodesOfItems group (index + 1) rest := by
  rw [nodesOfItems, nodesOf, List.cons_append]

/-- The items of a group: those of a list, or the keys of a table.  Nothing else has items. -/
def GroupSource.items? : GroupSource → Option (List (Entry ⊕ Value))
  | .ready entries => some (entries.map .inl)
  | .mixed items => some items
  | .value (.list items) => some (items.map .inr)
  | .value (.table fields) => some (fields.map fun field => .inr (.str field.1))
  | .value _ => none

/-- The nodes of a list in which some entries may be ready. -/
def nodesOfMixed (group : String) (index : Nat) : List (Entry ⊕ Value) → List SourceNode
  | [] => []
  | .inl _ :: rest => nodesOfMixed group (index + 1) rest
  | .inr v :: rest => nodesOf ⟨group, some index⟩ v ++ nodesOfMixed group (index + 1) rest

/-- The nodes of a table: each group, and then its items with all that they open. -/
def sourceNodes (table : List (String × GroupSource)) : List SourceNode :=
  table.flatMap fun (name, source) =>
    .group name source :: nodesOfMixed name 0 (source.items?.getD [])

namespace SourceNode

def location : SourceNode → Location
  | group name _ => ⟨name, none⟩
  | item location _ => location

/-- What is wrong with a node. -/
inductive Malformed : SourceNode → Fault → Prop
  | group {name : String} {source : GroupSource} (h : source.items? = none) :
      Malformed (.group name source) (.groupNotList name)
  | item {location : Location} {v : Value} {fault : Fault} (h : v.Malformed fault) :
      Malformed (.item location v) fault

/-- A value that is displayed at a node holds a whole number that is too long. -/
def ShowsLongNumber : SourceNode → Prop
  | group _ _ => False
  | item _ v => ∃ shown, v.Displays shown ∧ ¬ shown.HasDisplay

end SourceNode

/-- One report for each malformed node, in the order of the nodes. -/
inductive ReportsOn : List SourceNode → List Report → Prop
  | nil : ReportsOn [] []
  | sound {node : SourceNode} {nodes : List SourceNode} {reports : List Report}
      (h : ∀ fault, ¬ node.Malformed fault) (hrest : ReportsOn nodes reports) :
      ReportsOn (node :: nodes) reports
  | malformed {node : SourceNode} {fault : Fault} {nodes : List SourceNode} {reports : List Report}
      (h : node.Malformed fault) (hrest : ReportsOn nodes reports) :
      ReportsOn (node :: nodes) (⟨fault, some node.location⟩ :: reports)

/-- The entry of an item that may be ready. -/
inductive MixedReadsAs : Entry ⊕ Value → Entry → Prop
  | ready (entry : Entry) : MixedReadsAs (.inl entry) entry
  | read {v : Value} {entry : Entry} (h : ReadsAs v entry) : MixedReadsAs (.inr v) entry

/-- The group that a source stands for: of the same name, with one entry for each item. -/
def GroupReadsAs (source : String × GroupSource) (group : String × List Entry) : Prop :=
  group.1 = source.1 ∧ ∃ items, source.2.items? = some items ∧ List.Forall₂ MixedReadsAs items group.2

/-- What comes of reading nodes.  Where a number is too long, reading ends with that.  Otherwise the malformed
nodes are reported, and if there are none the parts are as they should be. -/
inductive ReadsNodes {α : Type} (nodes : List SourceNode) (kept : List α → Prop) :
    Except ReadError (ReadParts α) → Prop
  | tooLong (h : ∃ node ∈ nodes, node.ShowsLongNumber) : ReadsNodes nodes kept (.error .numberTooLong)
  | parts {read : ReadParts α} (hshown : ∀ node ∈ nodes, ¬ node.ShowsLongNumber)
      (hreports : ReportsOn nodes read.reports) (hkept : read.reports = [] → kept read.parts) :
      ReadsNodes nodes kept (.ok read)

theorem ReportsOn.append {nodes more : List SourceNode} {reports moreReports : List Report}
    (h : ReportsOn nodes reports) (hmore : ReportsOn more moreReports) :
    ReportsOn (nodes ++ more) (reports ++ moreReports) := by
  induction h with
  | nil => exact hmore
  | sound hsound _ ih => exact .sound hsound ih
  | malformed hmalformed _ ih => exact .malformed hmalformed ih

theorem ReportsOn.eq_nil_iff {nodes : List SourceNode} {reports : List Report}
    (h : ReportsOn nodes reports) :
    reports = [] ↔ ∀ node ∈ nodes, ∀ fault, ¬ node.Malformed fault := by
  induction h with
  | nil => simp
  | sound hsound _ ih => rw [ih, List.forall_mem_cons, and_iff_right hsound]
  | malformed hmalformed _ _ =>
      simp only [List.cons_ne_nil, List.forall_mem_cons, false_iff, not_and]
      exact fun hnone => absurd hmalformed (hnone _)

section

variable {α β : Type} {nodes more : List SourceNode} {kept keptMore keptAll : List α → Prop}
  {first second : Except ReadError (ReadParts α)}

theorem readsNodes_nil (hkept : kept []) : ReadsNodes [] kept (.ok ⟨[], []⟩) :=
  .parts (by simp) .nil fun _ => hkept

/-- Parts that are read one after another. -/
theorem ReadsNodes.append (h : ReadsNodes nodes kept first) (hmore : ReadsNodes more keptMore second)
    (hjoin : ∀ us vs, kept us → keptMore vs → keptAll (us ++ vs)) :
    ReadsNodes (nodes ++ more) keptAll (do
      let a ← first
      let b ← second
      return a.append b) := by
  cases h with
  | tooLong hlong =>
      obtain ⟨node, hnode, hlong⟩ := hlong
      exact .tooLong ⟨node, List.mem_append_left _ hnode, hlong⟩
  | parts hshown hreports hkept =>
      cases hmore with
      | tooLong hlong =>
          obtain ⟨node, hnode, hlong⟩ := hlong
          exact .tooLong ⟨node, List.mem_append_right _ hnode, hlong⟩
      | parts hshownMore hreportsMore hkeptMore =>
          refine .parts (List.forall_mem_append.mpr ⟨hshown, hshownMore⟩) (hreports.append hreportsMore) ?_
          intro hnone
          obtain ⟨hfirst, hsecond⟩ := List.append_eq_nil_iff.mp hnone
          exact hjoin _ _ (hkept hfirst) (hkeptMore hsecond)

/-- Parts that make up one, below a node with nothing wrong. -/
theorem ReadsNodes.gather {node : SourceNode} {keptOne : List β → Prop} (h : ReadsNodes nodes kept first)
    (hsound : ∀ fault, ¬ node.Malformed fault) (hquiet : ¬ node.ShowsLongNumber) (make : List α → β)
    (hmake : ∀ us, kept us → keptOne [make us]) :
    ReadsNodes (node :: nodes) keptOne (do return (← first).gather make) := by
  cases h with
  | tooLong hlong =>
      obtain ⟨below, hbelow, hlong⟩ := hlong
      exact .tooLong ⟨below, List.mem_cons_of_mem _ hbelow, hlong⟩
  | parts hshown hreports hkept =>
      exact .parts (List.forall_mem_cons.mpr ⟨hquiet, hshown⟩) (.sound hsound hreports)
        fun hnone => hmake _ (hkept hnone)

end

section

variable {location : Location} {fields : List (String × Value)} {v : Value} {fault : Fault} {entry : Entry}

theorem readItems_nil (group : String) (index : Nat) : readItems group index [] = .ok ⟨[], []⟩ := by
  rw [readItems]
  rfl

theorem readItems_cons (group : String) (index : Nat) (v : Value) (rest : List Value) :
    readItems group index (v :: rest) = (do
      let first ← readEntry ⟨group, some index⟩ v
      let more ← readItems group (index + 1) rest
      return first.append more) := by
  rw [readItems]

/-- An item becomes one entry, the one that it stands for. -/
def ReadsAsOne (v : Value) (entries : List Entry) : Prop :=
  ∃ entry, entries = [entry] ∧ ReadsAs v entry

theorem readsNodes_of_displays {shown : Value} (hdisplays : v.Displays shown) (hlong : ¬ shown.HasDisplay) :
    ReadsNodes (nodesOf location v) (ReadsAsOne v) (.error .numberTooLong) :=
  .tooLong ⟨_, List.mem_cons_self, shown, hdisplays, hlong⟩

theorem readsNodes_of_malformed (hopened : v.opened = [])
    (hquiet : ∀ shown, v.Displays shown → shown.HasDisplay) (hmalformed : v.Malformed fault) :
    ReadsNodes (nodesOf location v) (ReadsAsOne v) (.ok (.refused fault location)) := by
  rw [nodesOf, hopened, nodesOfItems]
  refine .parts ?_ (.malformed (.item hmalformed) .nil) (fun hnone => nomatch hnone)
  intro node hnode
  cases List.mem_singleton.mp hnode
  rintro ⟨shown, hdisplays, hlong⟩
  exact hlong (hquiet shown hdisplays)

theorem readsNodes_of_readsAs (hopened : v.opened = [])
    (hquiet : ∀ shown, v.Displays shown → shown.HasDisplay) (hsound : ∀ fault, ¬ v.Malformed fault)
    (hentry : ReadsAs v entry) : ReadsNodes (nodesOf location v) (ReadsAsOne v) (.ok (.one entry)) := by
  rw [nodesOf, hopened, nodesOfItems]
  refine .parts ?_ (.sound ?_ .nil) fun _ => ⟨entry, rfl, hentry⟩
  · intro node hnode
    cases List.mem_singleton.mp hnode
    rintro ⟨shown, hdisplays, hlong⟩
    exact hlong (hquiet shown hdisplays)
  · rintro fault (_ | hmalformed)
    exact hsound fault hmalformed

theorem nameText_of_hasDisplay (h : v.HasDisplay) : v.nameText = .ok v.display := if_pos h

theorem nameText_of_not_hasDisplay (h : ¬ v.HasDisplay) : v.nameText = .error .numberTooLong := if_neg h

theorem mapM_nameText_of_hasDisplay {items : List Value} (h : ∀ v ∈ items, v.HasDisplay) :
    items.mapM Value.nameText = .ok (items.map Value.display) := by
  induction items with
  | nil => rfl
  | cons v rest ih =>
      obtain ⟨hv, hrest⟩ := List.forall_mem_cons.mp h
      rw [List.mapM_cons, nameText_of_hasDisplay hv, ih hrest]
      rfl

theorem mapM_nameText_of_not_hasDisplay {items : List Value} (hmem : v ∈ items) (hlong : ¬ v.HasDisplay) :
    items.mapM Value.nameText = .error .numberTooLong := by
  induction items with
  | nil => cases hmem
  | cons u rest ih =>
      rw [List.mapM_cons]
      by_cases hu : u.HasDisplay
      · have hrest : v ∈ rest := (List.mem_cons.mp hmem).resolve_left fun heq => hlong (heq ▸ hu)
        rw [nameText_of_hasDisplay hu, ih hrest]
        rfl
      · rw [nameText_of_not_hasDisplay hu]
        rfl

/-- The kinds of a token field are read as long as they can be displayed. -/
theorem kindsOf_of_hasDisplay {token : Option Value} (h : ∀ v ∈ kindValues token, v.HasDisplay) :
    ∃ kinds, kindsOf (token.getD (.str "")) = .ok kinds ∧ KindsReadAs token kinds := by
  cases token with
  | none => exact ⟨[""], rfl, .missing⟩
  | some v =>
      cases v with
      | list items => exact ⟨_, mapM_nameText_of_hasDisplay h, .list items⟩
      | _ =>
          have hv := nameText_of_hasDisplay (h _ List.mem_cons_self)
          exact ⟨_, by rw [Option.getD_some, kindsOf, hv]; rfl; nofun, .one nofun⟩

theorem kindsOf_of_not_hasDisplay {token : Option Value} (hmem : v ∈ kindValues token)
    (hlong : ¬ v.HasDisplay) : kindsOf (token.getD (.str "")) = .error .numberTooLong := by
  cases token with
  | none => cases hmem
  | some u =>
      cases u with
      | list items => exact mapM_nameText_of_not_hasDisplay hmem hlong
      | _ =>
          cases List.mem_singleton.mp hmem
          have hv := nameText_of_not_hasDisplay hlong
          rw [Option.getD_some, kindsOf, hv]
          · rfl
          · nofun

/-- A group to go on with is read as long as it can be displayed. -/
theorem nextOf_cases (fields : List (String × Value)) :
    (∃ next, nextOf fields = .ok next ∧ NextReadsAs (Value.field? "next" fields) next ∧
      ∀ v, Value.field? "next" fields = some v → v ≠ .null → v.HasDisplay) ∨
    nextOf fields = .error .numberTooLong ∧
      ∃ v, Value.field? "next" fields = some v ∧ v ≠ .null ∧ ¬ v.HasDisplay := by
  cases hnext : Value.field? "next" fields with
  | none => exact .inl ⟨none, by rw [nextOf, hnext]; rfl, .missing, nofun⟩
  | some v =>
      by_cases hnull : v = .null
      · subst hnull
        refine .inl ⟨none, by rw [nextOf, hnext]; rfl, .null, fun u hu hne => ?_⟩
        exact absurd (Option.some.inj hu).symm hne
      · have hread : nextOf fields = do return some (← v.nameText) := by
          rw [nextOf, hnext]
          cases v with
          | null => exact absurd rfl hnull
          | _ => rfl
        by_cases hv : v.HasDisplay
        · rw [hread, nameText_of_hasDisplay hv]
          exact .inl ⟨_, rfl, .group hnull, fun u hu _ => Option.some.inj hu ▸ hv⟩
        · rw [hread, nameText_of_not_hasDisplay hv]
          exact .inr ⟨rfl, v, rfl, hnull, hv⟩

/-- A rule is read by its kinds and its pattern first, and then by its push. -/
theorem readEntry_rule (hrule : isRule fields) :
    readEntry location (.table fields) = (do
      let kinds ← kindsOf ((Value.field? "token" fields).getD (.str ""))
      match (Value.field? "regex" fields).getD (.str "") with
      | .str pattern =>
          match Value.field? "push" fields with
          | none | some .null => return .one (.rule kinds (.text pattern) .nothing (← nextOf fields))
          | some (.str name) =>
              return .one (.rule kinds (.text pattern) (.group name) (← nextOf fields))
          | some (.list items) =>
              let inner ← readItems location.pushed 0 items
              let next ← nextOf fields
              return inner.gather fun entries => .rule kinds (.text pattern) (.inline entries) next
          | some other => return .refused (.pushOfWrongType other.typeName) location
      | other => return .refused (.patternNotText other.typeName) location) := by
  simp only [isRule, Bool.and_eq_true, Option.isNone_iff_eq_none] at hrule
  obtain ⟨hinclude, hkey⟩ := hrule
  rw [readEntry]
  simp only [hinclude]
  split
  · rename_i htoken hregex
    simp [htoken, hregex] at hkey
  · generalize (Value.field? "regex" fields).getD (.str "") = regex
    cases regex with
    | str pattern =>
        simp only [Value.field?]
        split <;> rename_i hpush <;> rw [hpush]
        split <;> simp_all
    | _ => rfl

theorem readEntry_keyless
    (hothers : ∀ key ∈ ["include", "token", "regex"], Value.field? key fields = none) :
    readEntry location (.table fields) =
      match Value.field? "defaultToken" fields with
      | some kind => do return .one (.defaultKind (← kind.nameText))
      | none => .ok (.refused .entryWithoutKey location) := by
  have hinclude := hothers "include" (by simp)
  have htoken := hothers "token" (by simp)
  have hregex := hothers "regex" (by simp)
  rw [readEntry]
  simp only [hinclude, htoken, hregex]
  cases Value.field? "defaultToken" fields <;> rfl

theorem readEntry_include {name : Value} (h : Value.field? "include" fields = some name) :
    readEntry location (.table fields) = (do return .one (.includeGroup (← name.nameText))) := by
  rw [readEntry]
  simp only [h]

/-- A table is an include, a rule, or has none of the keys that make it one. -/
theorem include_or_rule_or_keyless (fields : List (String × Value)) :
    (∃ name, Value.field? "include" fields = some name) ∨ isRule fields ∨
      ∀ key ∈ ["include", "token", "regex"], Value.field? key fields = none := by
  cases hinclude : Value.field? "include" fields with
  | some name => exact Or.inl ⟨name, rfl⟩
  | none =>
      cases htoken : Value.field? "token" fields with
      | some token => simp [isRule, hinclude, htoken]
      | none =>
          cases hregex : Value.field? "regex" fields with
          | some regex => simp [isRule, hinclude, hregex]
          | none => simp [hinclude, htoken, hregex]

theorem not_malformed_of_not_isRule (hrule : ¬ isRule fields)
    (hkey : ∃ key ∈ ["include", "token", "regex", "defaultToken"], Value.field? key fields ≠ none)
    (fault : Fault) : ¬ (Value.table fields).Malformed fault := by
  rintro (hnot | hnone | ⟨hyes⟩ | ⟨hyes⟩)
  · exact hnot fields rfl
  · obtain ⟨key, hmem, hsome⟩ := hkey
    exact hsome (hnone key hmem)
  · exact hrule hyes
  · exact hrule hyes

theorem readsNodes_include {name : Value} (h : Value.field? "include" fields = some name) :
    ReadsNodes (nodesOf location (.table fields)) (ReadsAsOne (.table fields))
      (readEntry location (.table fields)) := by
  have hrule : ¬ isRule fields := by simp [isRule, h]
  have hopened : (Value.table fields).opened = [] := by simp [Value.opened, hrule]
  have hshown : ∀ shown, (Value.table fields).Displays shown → shown = name := by
    rintro shown (hname | hothers | hyes | hyes)
    · exact Option.some.inj (hname.symm.trans h)
    · rw [hothers "include" List.mem_cons_self] at h
      cases h
    · exact absurd hyes hrule
    · exact absurd hyes hrule
  rw [readEntry_include h]
  by_cases hname : name.HasDisplay
  · rw [nameText_of_hasDisplay hname]
    exact readsNodes_of_readsAs hopened (fun shown hdisplays => hshown shown hdisplays ▸ hname)
      (not_malformed_of_not_isRule hrule ⟨"include", by simp, by simp [h]⟩) (.include h)
  · rw [nameText_of_not_hasDisplay hname]
    exact readsNodes_of_displays (.include h) hname

theorem readsNodes_keyless
    (hothers : ∀ key ∈ ["include", "token", "regex"], Value.field? key fields = none) :
    ReadsNodes (nodesOf location (.table fields)) (ReadsAsOne (.table fields))
      (readEntry location (.table fields)) := by
  have hrule : ¬ isRule fields := by simp [isRule, hothers]
  have hopened : (Value.table fields).opened = [] := by simp [Value.opened, hrule]
  have hshown : ∀ shown, (Value.table fields).Displays shown →
      Value.field? "defaultToken" fields = some shown := by
    rintro shown (hname | ⟨_, hkind⟩ | hyes | hyes)
    · rw [hothers "include" List.mem_cons_self] at hname
      cases hname
    · exact hkind
    · exact absurd hyes hrule
    · exact absurd hyes hrule
  rw [readEntry_keyless hothers]
  cases hkind : Value.field? "defaultToken" fields with
  | none =>
      have hall : ∀ key ∈ ["include", "token", "regex", "defaultToken"], Value.field? key fields = none := by
        simpa [hkind, and_assoc] using hothers
      refine readsNodes_of_malformed hopened (fun shown hdisplays => ?_) (.withoutKey hall)
      rw [hshown shown hdisplays] at hkind
      cases hkind
  | some kind =>
      rw [hkind] at hshown
      by_cases hdisplay : kind.HasDisplay
      · simp only [nameText_of_hasDisplay hdisplay]
        exact readsNodes_of_readsAs hopened
          (fun shown hdisplays => Option.some.inj (hshown shown hdisplays) ▸ hdisplay)
          (not_malformed_of_not_isRule hrule ⟨"defaultToken", by simp, by simp [hkind]⟩)
          (.default hothers hkind)
      · simp only [nameText_of_not_hasDisplay hdisplay]
        exact readsNodes_of_displays (.default hothers hkind) hdisplay

theorem not_malformed_rule (hrule : isRule fields) (htext : (patternText? fields).isSome)
    (hpush : ∀ v, Value.field? "push" fields = some v →
      v = .null ∨ (∃ name, v = .str name) ∨ ∃ items, v = .list items)
    (fault : Fault) : ¬ (Value.table fields).Malformed fault := by
  intro h
  cases h with
  | notTable hnot => exact hnot fields rfl
  | withoutKey hnone =>
      simp [isRule, hnone] at hrule
  | @pattern _ v _ hregex hnot =>
      unfold patternText? at htext
      rw [hregex] at htext
      cases v with
      | str s => exact hnot s rfl
      | _ => cases htext
  | push _ _ hgiven hnull hname hlist =>
      rcases hpush _ hgiven with rfl | ⟨name, rfl⟩ | ⟨items, rfl⟩
      · exact hnull rfl
      · exact hname name rfl
      · exact hlist items rfl

/-- What a rule displays: its kinds, and the group to go on with if nothing is wrong. -/
theorem displays_rule (hrule : isRule fields) {shown : Value} (h : (Value.table fields).Displays shown) :
    shown ∈ kindValues (Value.field? "token" fields) ∨
      (∀ fault, ¬ (Value.table fields).Malformed fault) ∧ Value.field? "next" fields = some shown ∧
        shown ≠ .null := by
  have hkey := hrule
  simp only [isRule, Bool.and_eq_true, Option.isNone_iff_eq_none] at hkey
  cases h with
  | «include» hname =>
      rw [hkey.1] at hname
      cases hname
  | default hothers =>
      simp [hothers] at hkey
  | kind _ hkind => exact .inl hkind
  | next _ hsound hnext hnull => exact .inr ⟨hsound, hnext, hnull⟩

theorem exists_malformed_of_textless (hrule : isRule fields) (htext : patternText? fields = none) :
    ∃ v, (Value.field? "regex" fields).getD (.str "") = v ∧ (∀ s, v ≠ .str s) ∧
      (Value.table fields).Malformed (.patternNotText v.typeName) := by
  unfold patternText? at htext
  split at htext
  · cases htext
  · cases htext
  · rename_i v hnot hregex
    exact ⟨v, by rw [hregex, Option.getD_some], hnot, .pattern hrule hregex hnot⟩

theorem regex_of_patternText? {pattern : String} (htext : patternText? fields = some pattern) :
    (Value.field? "regex" fields).getD (.str "") = .str pattern := by
  unfold patternText? at htext
  split at htext <;> simp_all

/-- A rule with nothing wrong that opens no list. -/
theorem readsNodes_rule_of_next {kinds : List String} {pattern : String} {push : Push}
    (hrule : isRule fields) (hkinds : KindsReadAs (Value.field? "token" fields) kinds)
    (hquiet : ∀ v ∈ kindValues (Value.field? "token" fields), v.HasDisplay)
    (htext : patternText? fields = some pattern) (hpush : PushReadsAs (Value.field? "push" fields) push)
    (hsound : ∀ fault, ¬ (Value.table fields).Malformed fault)
    (hopened : (Value.table fields).opened = []) :
    ReadsNodes (nodesOf location (.table fields)) (ReadsAsOne (.table fields)) (do
      return .one (.rule kinds (.text pattern) push (← nextOf fields))) := by
  rcases nextOf_cases fields with ⟨next, hread, hnext, hdisplay⟩ | ⟨hread, v, hnext, hnull, hlong⟩
  · rw [hread]
    refine readsNodes_of_readsAs hopened (fun shown hdisplays => ?_) hsound (.rule hrule hkinds htext hpush hnext)
    rcases displays_rule hrule hdisplays with hkind | ⟨_, hshown, hnull⟩
    · exact hquiet shown hkind
    · exact hdisplay shown hshown hnull
  · rw [hread]
    exact readsNodes_of_displays (.next hrule hsound hnext hnull) hlong

/-- A rule with nothing wrong that opens a list. -/
theorem readsNodes_rule_of_list {kinds : List String} {pattern : String} {items : List Value}
    (hrule : isRule fields) (hkinds : KindsReadAs (Value.field? "token" fields) kinds)
    (hquiet : ∀ v ∈ kindValues (Value.field? "token" fields), v.HasDisplay)
    (htext : patternText? fields = some pattern) (hpush : Value.field? "push" fields = some (.list items))
    (hsound : ∀ fault, ¬ (Value.table fields).Malformed fault)
    (hopened : (Value.table fields).opened = items)
    (hitems : ReadsNodes (nodesOfItems location.pushed 0 items) (ItemsReadAs items)
      (readItems location.pushed 0 items)) :
    ReadsNodes (nodesOf location (.table fields)) (ReadsAsOne (.table fields)) (do
      let inner ← readItems location.pushed 0 items
      let next ← nextOf fields
      return inner.gather fun entries => .rule kinds (.text pattern) (.inline entries) next) := by
  have hnodes : nodesOf location (.table fields) =
      .item location (.table fields) :: nodesOfItems location.pushed 0 items := by
    rw [nodesOf, hopened]
  rcases nextOf_cases fields with ⟨next, hread, hnext, hdisplay⟩ | ⟨hread, v, hnext, hnull, hlong⟩
  · rw [hread, hnodes]
    refine hitems.gather ?_ ?_ (fun entries => Entry.rule kinds (.text pattern) (.inline entries) next) ?_
    · rintro fault (_ | hmalformed)
      exact hsound fault hmalformed
    · rintro ⟨shown, hdisplays, hlong⟩
      rcases displays_rule hrule hdisplays with hkind | ⟨_, hshown, hnull⟩
      · exact hlong (hquiet shown hkind)
      · exact hlong (hdisplay shown hshown hnull)
    · exact fun entries hentries => ⟨_, rfl, .rule hrule hkinds htext (hpush ▸ .inline hentries) hnext⟩
  · have hnode : (SourceNode.item location (.table fields)).ShowsLongNumber :=
      ⟨v, .next hrule hsound hnext hnull, hlong⟩
    rw [hread, hnodes]
    generalize readItems location.pushed 0 items = outcome at hitems
    cases hitems with
    | tooLong => exact .tooLong ⟨_, List.mem_cons_self, hnode⟩
    | parts => exact .tooLong ⟨_, List.mem_cons_self, hnode⟩

/-- A rule with something wrong, whose kinds can be displayed, displays nothing else. -/
theorem hasDisplay_of_malformed_rule (hrule : isRule fields)
    (hquiet : ∀ v ∈ kindValues (Value.field? "token" fields), v.HasDisplay)
    (hmalformed : (Value.table fields).Malformed fault) {shown : Value}
    (hdisplays : (Value.table fields).Displays shown) : shown.HasDisplay := by
  rcases displays_rule hrule hdisplays with hkind | ⟨hsound, _⟩
  · exact hquiet shown hkind
  · exact absurd hmalformed (hsound fault)

/-- A rule with a pattern text goes by its push. -/
theorem readsNodes_rule_of_text {kinds : List String} {pattern : String} (hrule : isRule fields)
    (hkinds : KindsReadAs (Value.field? "token" fields) kinds)
    (hquiet : ∀ v ∈ kindValues (Value.field? "token" fields), v.HasDisplay)
    (htext : patternText? fields = some pattern)
    (hitems : ReadsNodes (nodesOfItems location.pushed 0 (Value.table fields).opened)
      (ItemsReadAs (Value.table fields).opened) (readItems location.pushed 0 (Value.table fields).opened)) :
    ReadsNodes (nodesOf location (.table fields)) (ReadsAsOne (.table fields))
      (match Value.field? "push" fields with
      | none | some .null => do return .one (.rule kinds (.text pattern) .nothing (← nextOf fields))
      | some (.str name) => do return .one (.rule kinds (.text pattern) (.group name) (← nextOf fields))
      | some (.list items) => do
          let inner ← readItems location.pushed 0 items
          let next ← nextOf fields
          return inner.gather fun entries => .rule kinds (.text pattern) (.inline entries) next
      | some other => .ok (.refused (.pushOfWrongType other.typeName) location)) := by
  have hsome : (patternText? fields).isSome := by
    rw [htext]
    rfl
  have hopened : (Value.table fields).opened =
      match Value.field? "push" fields with
      | some (.list items) => items
      | _ => [] := by
    simp [Value.opened, hrule, htext]
  have hfine := not_malformed_rule hrule hsome
  have hnext : ∀ push, PushReadsAs (Value.field? "push" fields) push →
      (∀ fault, ¬ (Value.table fields).Malformed fault) → (Value.table fields).opened = [] →
      ReadsNodes (nodesOf location (.table fields)) (ReadsAsOne (.table fields)) (do
        return .one (.rule kinds (.text pattern) push (← nextOf fields))) :=
    fun _ hpush => readsNodes_rule_of_next hrule hkinds hquiet htext hpush
  cases hpush : Value.field? "push" fields with
  | none =>
      rw [hpush] at hopened hfine hnext
      exact hnext _ .missing (hfine (by simp)) hopened
  | some v =>
      rw [hpush] at hopened hfine hnext
      cases v with
      | null => exact hnext _ .null (hfine (by simp)) hopened
      | str name => exact hnext _ .group (hfine (by simp)) hopened
      | list items =>
          have hlist : (Value.table fields).opened = items := hopened
          rw [hlist] at hitems
          exact readsNodes_rule_of_list hrule hkinds hquiet htext hpush (hfine (by simp)) hlist hitems
      | _ =>
          have hmalformed : (Value.table fields).Malformed _ :=
            .push hrule hsome hpush (by simp) (by simp) (by simp)
          exact readsNodes_of_malformed hopened
            (fun _ => hasDisplay_of_malformed_rule hrule hquiet hmalformed) hmalformed

theorem readsNodes_rule (hrule : isRule fields)
    (hitems : ReadsNodes (nodesOfItems location.pushed 0 (Value.table fields).opened)
      (ItemsReadAs (Value.table fields).opened) (readItems location.pushed 0 (Value.table fields).opened)) :
    ReadsNodes (nodesOf location (.table fields)) (ReadsAsOne (.table fields))
      (readEntry location (.table fields)) := by
  rw [readEntry_rule hrule]
  by_cases hquiet : ∀ v ∈ kindValues (Value.field? "token" fields), v.HasDisplay
  · obtain ⟨kinds, hread, hkinds⟩ := kindsOf_of_hasDisplay hquiet
    rw [hread]
    cases htext : patternText? fields with
    | none =>
        obtain ⟨v, hregex, hnot, hmalformed⟩ := exists_malformed_of_textless hrule htext
        have hopened : (Value.table fields).opened = [] := by simp [Value.opened, htext]
        have hrefused : ReadsNodes (nodesOf location (.table fields)) (ReadsAsOne (.table fields))
            (.ok (.refused (.patternNotText v.typeName) location)) :=
          readsNodes_of_malformed hopened
            (fun _ => hasDisplay_of_malformed_rule hrule hquiet hmalformed) hmalformed
        rw [hregex]
        cases v with
        | str s => exact absurd rfl (hnot s)
        | _ => exact hrefused
    | some pattern =>
        rw [regex_of_patternText? htext]
        exact readsNodes_rule_of_text hrule hkinds hquiet htext hitems
  · simp only [not_forall] at hquiet
    obtain ⟨v, hkind, hlong⟩ := hquiet
    rw [kindsOf_of_not_hasDisplay hkind hlong]
    exact readsNodes_of_displays (.kind hrule hkind) hlong

end

/-- An item is read as it should be, if the list is that it opens. -/
theorem readsNodes_readEntry {location : Location} {v : Value}
    (hitems : ReadsNodes (nodesOfItems location.pushed 0 v.opened) (ItemsReadAs v.opened)
      (readItems location.pushed 0 v.opened)) :
    ReadsNodes (nodesOf location v) (ReadsAsOne v) (readEntry location v) := by
  cases v with
  | table fields =>
      rcases include_or_rule_or_keyless fields with ⟨name, hinclude⟩ | hrule | hothers
      · exact readsNodes_include hinclude
      · exact readsNodes_rule hrule hitems
      · exact readsNodes_keyless hothers
  | _ =>
      rw [readEntry]
      · exact readsNodes_of_malformed rfl (fun _ hdisplays => by cases hdisplays) (.notTable (by simp))
      · simp

/-- So is every list of items. -/
theorem readsNodes_readItems (items : List Value) : ∀ group index,
    ReadsNodes (nodesOfItems group index items) (ItemsReadAs items) (readItems group index items) := by
  induction items using items_induction (P := fun v => ∀ location : Location,
    ReadsNodes (nodesOf location v) (ReadsAsOne v) (readEntry location v)) with
  | item v ih location => exact readsNodes_readEntry (ih location.pushed 0)
  | nil =>
      intro group index
      rw [nodesOfItems, readItems_nil]
      exact readsNodes_nil .nil
  | cons v rest ihItem ihRest =>
      intro group index
      rw [nodesOfItems_cons, readItems_cons]
      refine (ihItem _).append (ihRest group (index + 1)) ?_
      rintro _ entries ⟨entry, rfl, hentry⟩ hentries
      exact .cons hentry hentries

theorem readsNodes_readMixed (items : List (Entry ⊕ Value)) (group : String) (index : Nat) :
    ReadsNodes (nodesOfMixed group index items) (List.Forall₂ MixedReadsAs items)
      (readMixed group index items) := by
  induction items generalizing index with
  | nil => exact readsNodes_nil .nil
  | cons head rest ih =>
      cases head with
      | inl entry =>
          have hready : ReadsNodes [] (· = [entry]) (.ok (.one entry)) :=
            .parts (by simp) .nil fun _ => rfl
          refine hready.append (ih (index + 1)) ?_
          rintro _ entries rfl hentries
          exact .cons (.ready entry) hentries
      | inr v =>
          refine (readsNodes_readEntry (readsNodes_readItems _ _ _)).append (ih (index + 1)) ?_
          rintro _ entries ⟨entry, rfl, hentry⟩ hentries
          exact .cons (.read hentry) hentries

theorem readItems_eq_readMixed (items : List Value) (group : String) (index : Nat) :
    readItems group index items = readMixed group index (items.map .inr) := by
  induction items generalizing index with
  | nil => exact readItems_nil group index
  | cons v rest ih => rw [readItems_cons, ih, List.map_cons, readMixed]

theorem readMixed_ready (entries : List Entry) (group : String) (index : Nat) :
    readMixed group index (entries.map .inl) = .ok ⟨entries, []⟩ := by
  induction entries generalizing index with
  | nil => rfl
  | cons entry rest ih =>
      rw [List.map_cons, readMixed, ih]
      rfl

/-- A group is read by its items, and refused if it has none. -/
theorem read_eq (name : String) (source : GroupSource) :
    source.read name =
      match source.items? with
      | some items => do return (← readMixed name 0 items).gather (name, ·)
      | none => .ok (.refused (.groupNotList name) ⟨name, none⟩) := by
  cases source with
  | ready entries =>
      simp only [GroupSource.read, GroupSource.items?, readMixed_ready]
      rfl
  | mixed items => rfl
  | value v =>
      cases v with
      | list items => simp only [GroupSource.read, GroupSource.items?, readItems_eq_readMixed]
      | table fields =>
          simp only [GroupSource.read, GroupSource.items?, readItems_eq_readMixed, List.map_map]
          rfl
      | _ => rfl

theorem sourceNodes_cons (name : String) (source : GroupSource) (rest : List (String × GroupSource)) :
    sourceNodes ((name, source) :: rest) =
      (.group name source :: nodesOfMixed name 0 (source.items?.getD [])) ++ sourceNodes rest := rfl

/-- A group is kept under its name, if it has items. -/
theorem readsNodes_read (name : String) (source : GroupSource) :
    ReadsNodes (.group name source :: nodesOfMixed name 0 (source.items?.getD []))
      (fun groups => ∃ group, groups = [group] ∧ GroupReadsAs (name, source) group) (source.read name) := by
  rw [read_eq]
  cases hitems : source.items? with
  | none =>
      refine .parts ?_ (.malformed (.group hitems) .nil) (fun hnone => nomatch hnone)
      intro node hnode
      cases List.mem_singleton.mp hnode
      exact id
  | some items =>
      refine (readsNodes_readMixed items name 0).gather ?_ id (name, ·) ?_
      · rintro fault (hnone | _)
        rw [hitems] at hnone
        cases hnone
      · exact fun entries hentries => ⟨_, rfl, rfl, items, hitems, hentries⟩

theorem readsNodes_readAllGroups (table : List (String × GroupSource)) :
    ReadsNodes (sourceNodes table) (List.Forall₂ GroupReadsAs table) (readAllGroups table) := by
  induction table with
  | nil => exact readsNodes_nil .nil
  | cons head rest ih =>
      obtain ⟨name, source⟩ := head
      rw [sourceNodes_cons, readAllGroups]
      refine (readsNodes_read name source).append ih ?_
      rintro _ groups ⟨group, rfl, hgroup⟩ hgroups
      exact .cons hgroup hgroups

theorem SourceNode.Malformed.code_eq {node : SourceNode} {fault : Fault} (h : node.Malformed fault) :
    fault.code = "G005" := by
  cases h with
  | group => rfl
  | item h => cases h <;> rfl

theorem ReportsOn.code_eq {nodes : List SourceNode} {reports : List Report}
    (h : ReportsOn nodes reports) : ∀ r ∈ reports, r.fault.code = "G005" := by
  induction h with
  | nil => simp
  | sound _ _ ih => exact ih
  | malformed hmalformed _ ih => exact List.forall_mem_cons.mpr ⟨hmalformed.code_eq, ih⟩

/-- No value that a source of a group holds has a whole number in it that is too long. -/
def GroupSource.HasDisplay : GroupSource → Prop
  | .ready _ => True
  | .value v => v.HasDisplay
  | .mixed items => ∀ v, .inr v ∈ items → v.HasDisplay

theorem hasDisplay_of_field? {key : String} {fields : List (String × Value)} {v : Value}
    (h : Value.field? key fields = some v) (hfields : (Value.table fields).HasDisplay) : v.HasDisplay :=
  Value.hasDisplay_table_iff.mp hfields (key, v) (mem_of_lookup_eq_some h)

theorem hasDisplay_of_displays {v shown : Value} (h : v.Displays shown) (hv : v.HasDisplay) :
    shown.HasDisplay := by
  cases h with
  | «include» hname => exact hasDisplay_of_field? hname hv
  | default _ hkind => exact hasDisplay_of_field? hkind hv
  | next _ _ hnext _ => exact hasDisplay_of_field? hnext hv
  | @kind fields _ _ hkind =>
      cases htoken : Value.field? "token" fields with
      | none =>
          rw [htoken] at hkind
          cases hkind
      | some token =>
          have hdisplay := hasDisplay_of_field? htoken hv
          rw [htoken] at hkind
          cases token with
          | list items => exact Value.hasDisplay_list_iff.mp hdisplay shown hkind
          | _ => exact List.mem_singleton.mp hkind ▸ hdisplay

theorem hasDisplay_of_mem_opened {v item : Value} (h : item ∈ v.opened) (hv : v.HasDisplay) :
    item.HasDisplay := by
  cases v with
  | table fields =>
      simp only [Value.opened] at h
      split at h
      · split at h
        · rename_i items hpush
          exact Value.hasDisplay_list_iff.mp (hasDisplay_of_field? hpush hv) item h
        · cases h
      · cases h
  | _ => cases h

theorem not_showsLongNumber_of_mem_nodesOfItems (items : List Value) : ∀ group index,
    (∀ v ∈ items, v.HasDisplay) → ∀ node ∈ nodesOfItems group index items, ¬ node.ShowsLongNumber := by
  induction items using items_induction (P := fun v => ∀ location : Location,
    v.HasDisplay → ∀ node ∈ nodesOf location v, ¬ node.ShowsLongNumber) with
  | item v ih location hv node hnode =>
      rcases List.mem_cons.mp hnode with rfl | hbelow
      · rintro ⟨shown, hdisplays, hlong⟩
        exact hlong (hasDisplay_of_displays hdisplays hv)
      · exact ih location.pushed 0 (fun item hitem => hasDisplay_of_mem_opened hitem hv) node hbelow
  | nil =>
      intro group index _
      simp [nodesOfItems]
  | cons v rest ihItem ihRest =>
      intro group index hall
      obtain ⟨hv, hrest⟩ := List.forall_mem_cons.mp hall
      rw [nodesOfItems_cons]
      exact List.forall_mem_append.mpr ⟨ihItem _ hv, ihRest group (index + 1) hrest⟩

theorem not_showsLongNumber_of_mem_nodesOfMixed (items : List (Entry ⊕ Value)) (group : String) (index : Nat)
    (hall : ∀ v, .inr v ∈ items → v.HasDisplay) :
    ∀ node ∈ nodesOfMixed group index items, ¬ node.ShowsLongNumber := by
  induction items generalizing index with
  | nil => simp [nodesOfMixed]
  | cons head rest ih =>
      have hrest := ih (index + 1) fun v hv => hall v (List.mem_cons_of_mem _ hv)
      cases head with
      | inl entry => exact hrest
      | inr v =>
          have hone := not_showsLongNumber_of_mem_nodesOfItems [v] group index
            (by simpa using hall v List.mem_cons_self)
          rw [nodesOfItems_cons] at hone
          exact List.forall_mem_append.mpr ⟨(List.forall_mem_append.mp hone).1, hrest⟩

theorem GroupSource.HasDisplay.of_mem_items? {source : GroupSource} (h : source.HasDisplay)
    {items : List (Entry ⊕ Value)} (hitems : source.items? = some items) {v : Value} (hv : .inr v ∈ items) :
    v.HasDisplay := by
  cases source with
  | ready entries =>
      cases hitems
      simp at hv
  | mixed found =>
      cases hitems
      exact h v hv
  | value given =>
      cases given with
      | list found =>
          cases hitems
          exact Value.hasDisplay_list_iff.mp h v (by simpa using hv)
      | table fields =>
          cases hitems
          obtain ⟨field, _, heq⟩ := List.mem_map.mp hv
          cases heq
          rfl
      | _ => cases hitems

theorem not_showsLongNumber_of_mem_sourceNodes {table : List (String × GroupSource)}
    (h : ∀ source ∈ table, source.2.HasDisplay) : ∀ node ∈ sourceNodes table, ¬ node.ShowsLongNumber := by
  intro node hnode
  obtain ⟨⟨name, source⟩, hsource, hnode⟩ := List.mem_flatMap.mp hnode
  rcases List.mem_cons.mp hnode with rfl | hnode
  · exact id
  · refine not_showsLongNumber_of_mem_nodesOfMixed _ name 0 (fun v hv => ?_) node hnode
    cases hitems : source.items? with
    | none =>
        rw [hitems] at hv
        cases hv
    | some items =>
        rw [hitems] at hv
        exact (h _ hsource).of_mem_items? hitems hv

/-- Reading a table ends with a number that is too long, with reports on the malformed nodes, or with every group
and every item. -/
theorem readGroups_cases (table : List (String × GroupSource)) :
    (readGroups table = .error .numberTooLong ∧ ∃ node ∈ sourceNodes table, node.ShowsLongNumber) ∨
      (∀ node ∈ sourceNodes table, ¬ node.ShowsLongNumber) ∧ ∃ reports, ReportsOn (sourceNodes table) reports ∧
        (readGroups table = .error (.malformed reports) ∧ reports ≠ [] ∨
          reports = [] ∧ ∃ groups, readGroups table = .ok groups ∧ List.Forall₂ GroupReadsAs table groups) := by
  have hreads := readsNodes_readAllGroups table
  rw [readGroups]
  generalize readAllGroups table = outcome at hreads
  cases hreads with
  | tooLong hlong => exact .inl ⟨rfl, hlong⟩
  | @parts read hshown hreports hkept =>
      refine .inr ⟨hshown, read.reports, hreports, ?_⟩
      by_cases hnil : read.reports = []
      · exact .inr ⟨hnil, read.parts, if_pos (List.isEmpty_iff.mpr hnil), hkept hnil⟩
      · exact .inl ⟨if_neg (mt List.isEmpty_iff.mp hnil), hnil⟩

theorem forall₂_of_readGroups {table : List (String × GroupSource)} {groups : GroupTable}
    (h : readGroups table = .ok groups) : List.Forall₂ GroupReadsAs table groups := by
  rcases readGroups_cases table with ⟨hread, _⟩ | ⟨_, _, _, ⟨hread, _⟩ | ⟨_, _, hread, hkept⟩⟩
  · cases h.symm.trans hread
  · cases h.symm.trans hread
  · cases h.symm.trans hread
    exact hkept

/-- What comes of reading a table.  It fails for malformed nodes exactly if there is one, with one report for
each of them and no other, and otherwise keeps every group and every item.  It fails in no other way, unless a
node displays a whole number that is too long. -/
structure KeepsOrReports (table : List (String × GroupSource)) (outcome : Except ReadError GroupTable) :
    Prop where
  tooLong_iff : outcome = .error .numberTooLong ↔ ∃ node ∈ sourceNodes table, node.ShowsLongNumber
  not_tooLong : (∀ source ∈ table, source.2.HasDisplay) → outcome ≠ .error .numberTooLong
  malformed_iff : (∃ reports, outcome = .error (.malformed reports)) ↔
    outcome ≠ .error .numberTooLong ∧ ∃ node ∈ sourceNodes table, ∃ fault, node.Malformed fault
  of_malformed : ∀ reports, outcome = .error (.malformed reports) →
    ReportsOn (sourceNodes table) reports ∧ ∀ r ∈ reports, r.fault.code = "G005"
  of_ok : ∀ groups, outcome = .ok groups → List.Forall₂ GroupReadsAs table groups

/-- Reading drops nothing in silence. -/
theorem readGroups_keeps_or_reports (table : List (String × GroupSource)) :
    KeepsOrReports table (readGroups table) := by
  have hdisplay : (∀ source ∈ table, source.2.HasDisplay) →
      ∀ node ∈ sourceNodes table, ¬ node.ShowsLongNumber :=
    not_showsLongNumber_of_mem_sourceNodes
  rcases readGroups_cases table with
    ⟨hread, hlong⟩ | ⟨hquiet, reports, hreports, ⟨hread, hsome⟩ | ⟨rfl, groups, hread, hkept⟩⟩
  · rw [hread]
    constructor
    · exact iff_of_true rfl hlong
    · intro hall
      obtain ⟨node, hnode, hlong⟩ := hlong
      exact absurd hlong (hdisplay hall node hnode)
    · exact iff_of_false (by simp) fun h => h.1 rfl
    · nofun
    · nofun
  · rw [hread]
    have hmalformed : ∃ node ∈ sourceNodes table, ∃ fault, node.Malformed fault := by
      simpa [hsome] using hreports.eq_nil_iff
    constructor
    · exact iff_of_false nofun fun hlong => hlong.elim fun node h => hquiet node h.1 h.2
    · exact fun _ => nofun
    · exact iff_of_true ⟨reports, rfl⟩ ⟨nofun, hmalformed⟩
    · rintro _ ⟨⟩
      exact ⟨hreports, hreports.code_eq⟩
    · nofun
  · rw [hread]
    constructor
    · exact iff_of_false nofun fun hlong => hlong.elim fun node h => hquiet node h.1 h.2
    · exact fun _ => nofun
    · refine iff_of_false (by simp) ?_
      rintro ⟨_, node, hnode, fault, hmalformed⟩
      exact hreports.eq_nil_iff.mp rfl node hnode fault hmalformed
    · nofun
    · rintro _ ⟨⟩
      exact hkept

namespace ReadingWitness

/-- A rule with two kinds that opens a list in place, and a group given by its keys alone. -/
def sound : List (String × GroupSource) :=
  [("start", .value (.list [.table [("token", .list [.str "a", .bool true]), ("regex", .str "(x)(y)"),
    ("push", .list [.table [("include", .str "start")]]), ("next", .null)]])), ("rest", .value (.table []))]

def soundGroups : GroupTable :=
  [("start", [.rule ["a", "True"] (.text "(x)(y)") (.inline [.includeGroup "start"]) none]), ("rest", [])]

/-- An item that is no table, a rule whose pattern is a number, in a list that a rule opens, and a text in the
place of a group. -/
def malformed : List (String × GroupSource) :=
  [("start", .value (.list [.int 1,
    .table [("regex", .str "x"), ("push", .list [.table [("token", .str "a"), ("regex", .int 2)]])]])),
    ("rest", .value (.str "a"))]

def malformedReports : List Report :=
  [.atEntry (.entryNotTable "int") "start" 0, .atEntry (.patternNotText "int") "start[1].push" 0,
    ⟨.groupNotList "rest", some ⟨"rest", none⟩⟩]

/-- A number that has one digit too many, in the place of a name. -/
def longNumber : Value := .int (Int.ofNat (Nat.pow 10 4300))

def oversized : List (String × GroupSource) :=
  [("start", .value (.list [.table [("include", longNumber)]]))]

theorem readGroups_sound : readGroups sound = .ok soundGroups := by
  with_unfolding_all rfl

theorem readGroups_malformed : readGroups malformed = .error (.malformed malformedReports) := by
  with_unfolding_all rfl

theorem sound_is_kept_and_malformed_is_reported :
    readGroups sound = .ok soundGroups ∧ List.Forall₂ GroupReadsAs sound soundGroups ∧
      readGroups malformed = .error (.malformed malformedReports) ∧
      ReportsOn (sourceNodes malformed) malformedReports ∧
      readGroups oversized = .error .numberTooLong := by
  refine ⟨readGroups_sound, ?_, readGroups_malformed, ?_, ?_⟩
  · exact (readGroups_keeps_or_reports sound).of_ok _ readGroups_sound
  · exact ((readGroups_keeps_or_reports malformed).of_malformed _ readGroups_malformed).1
  · have hlong : ¬ longNumber.HasDisplay := by decide +kernel
    have hdisplays : (Value.table [("include", longNumber)]).Displays longNumber := .include rfl
    refine (readGroups_keeps_or_reports oversized).tooLong_iff.mpr
      ⟨.item ⟨"start", some 0⟩ _, ?_, longNumber, hdisplays, hlong⟩
    simp [sourceNodes, oversized, nodesOfMixed, GroupSource.items?, nodesOf]

end ReadingWitness

end ModalHighlight
