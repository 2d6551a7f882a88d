import ModalHighlight.Proofs.Grammar.Expansion

/-!
Groups and the places where they are defined.  A place is a named group together with the entries that lead
from it through inline groups.  Its name is composed on the way, and names from different places can agree,
since the names of named groups may hold slashes and digits.  In a grammar that compiles they never do: there
is one mode for each place, built from the entries that stand there.  Where two names agree, some inline group
has the name of a named one, and the table is rejected for it.
-/

namespace ModalHighlight

/-- The entries that are defined at a place of a table: those of a named group, or those that an entry of the
place before writes in place. -/
inductive DefinedAt (table : GroupTable) (name : String) : List Nat → List Entry → Prop
  | named {entries : List Entry} (h : (name, entries) ∈ table) : DefinedAt table name [] entries
  | inline {way : List Nat} {entries inner : List Entry} {index : Nat}
      (h : DefinedAt table name way entries) (hwrites : WritesInline entries index inner) :
      DefinedAt table name (way ++ [index]) inner

/-- The name of a place. -/
def placeName (name : String) (way : List Nat) : String :=
  way.foldl inlineName name

theorem placeName_append (name : String) (way : List Nat) (index : Nat) :
    placeName name (way ++ [index]) = inlineName (placeName name way) index := by
  rw [placeName, List.foldl_append]
  rfl

/-- Two places of a table have one name. -/
def HasNameCollision (table : GroupTable) : Prop :=
  ∃ a b way way' entries entries', DefinedAt table a way entries ∧ DefinedAt table b way' entries' ∧
    placeName a way = placeName b way' ∧ (a, way) ≠ (b, way')

section

variable {table : GroupTable} {a b : String} {way way' : List Nat} {entries entries' : List Entry}

/-- What is defined at a place is one of the groups of the table. -/
theorem DefinedAt.mem_allGroups (h : DefinedAt table a way entries) :
    (placeName a way, entries) ∈ allGroups table := by
  induction h with
  | named hmem => exact mem_allGroups_of_mem hmem
  | inline _ hwrites ih =>
      rw [placeName_append]
      exact mem_allGroups_of_writesInline ih hwrites

/-- The inline groups of a named group are defined at places below it. -/
theorem exists_definedAt_of_mem_inlineGroups {group found : String × List Entry}
    (hgroup : group ∈ table) (hfound : found ∈ inlineGroups group.1 0 group.2) :
    ∃ way, DefinedAt table group.1 way found.2 ∧ found.1 = placeName group.1 way := by
  -- An inline group has a longer name than the group that writes it.
  induction hlength : found.1.toList.length using Nat.strongRecOn generalizing found with
  | ind n ih =>
      rcases exists_writesInline hfound with ⟨i, hwrites, hname⟩ | ⟨parent, hparent, i, hwrites, hname⟩
      · refine ⟨[] ++ [i], .inline (.named hgroup) hwrites, ?_⟩
        rw [hname, Nat.zero_add]
        rfl
      · have hshorter : parent.1.toList.length < n := by
          rw [← hlength, hname]
          exact length_lt_inlineName parent.1 i
        obtain ⟨way, hdefined, hparentName⟩ := ih _ hshorter hparent rfl
        exact ⟨way ++ [i], hdefined.inline hwrites, by rw [hname, hparentName, placeName_append]⟩

/-- The groups of a table are what is defined at its places. -/
theorem mem_allGroups_iff {name : String} : (name, entries) ∈ allGroups table ↔
    ∃ a way, DefinedAt table a way entries ∧ name = placeName a way := by
  constructor
  · intro hmem
    simp only [allGroups, List.mem_flatMap, List.mem_append, List.mem_singleton] at hmem
    obtain ⟨group, hgroup, hinside | hself⟩ := hmem
    · exact ⟨group.1, exists_definedAt_of_mem_inlineGroups hgroup hinside⟩
    · obtain ⟨rfl, rfl⟩ := Prod.mk.inj hself
      exact ⟨group.1, [], .named hgroup, rfl⟩
  · rintro ⟨a, way, hdefined, rfl⟩
    exact hdefined.mem_allGroups

/-- The name of an inline group is that of no named group. -/
theorem NoNameClash.placeName_ne (hclash : NoNameClash table) {index : Nat} {inner : List Entry}
    (h : DefinedAt table a way entries) (hwrites : WritesInline entries index inner)
    (hb : (b, entries') ∈ table) : placeName a (way ++ [index]) ≠ b := by
  rw [placeName_append]
  intro hname
  apply hclash _ h.mem_allGroups index inner hwrites
  rw [hname]
  exact List.mem_map_of_mem (f := Prod.fst) hb

/-- Without a clash the name of a place tells the place. -/
theorem NoNameClash.place_eq (hclash : NoNameClash table) (h : DefinedAt table a way entries)
    (h' : DefinedAt table b way' entries') (hname : placeName a way = placeName b way') :
    a = b ∧ way = way' := by
  induction h generalizing way' entries' with
  | named hmem =>
      cases h' with
      | named => exact ⟨hname, rfl⟩
      | inline hparent hwrites => exact absurd hname.symm (hclash.placeName_ne hparent hwrites hmem)
  | inline hparent hwrites ih =>
      cases h' with
      | named hmem => exact absurd hname (hclash.placeName_ne hparent hwrites hmem)
      | inline hparent' _ =>
          rw [placeName_append, placeName_append] at hname
          obtain ⟨houter, rfl⟩ := inlineName_injective hname
          obtain ⟨rfl, rfl⟩ := ih hparent' houter
          exact ⟨rfl, rfl⟩

theorem NoNameClash.not_hasNameCollision (hclash : NoNameClash table) : ¬ HasNameCollision table := by
  rintro ⟨a, b, way, way', entries, entries', h, h', hname, hne⟩
  obtain ⟨rfl, rfl⟩ := hclash.place_eq h h' hname
  exact hne rfl

end

mutual

/-- How many groups a push writes in place, at any depth. -/
def Push.inlineCount : Push → Nat
  | .inline entries => inlineCount entries + 1
  | _ => 0

def Entry.inlineCount : Entry → Nat
  | .rule _ _ push _ => push.inlineCount
  | _ => 0

/-- How many groups are written in place among entries, at any depth. -/
def inlineCount : List Entry → Nat
  | [] => 0
  | entry :: rest => entry.inlineCount + inlineCount rest

end

theorem length_inlineGroups (group : String) (index : Nat) (entries : List Entry) :
    (inlineGroups group index entries).length = inlineCount entries := by
  induction entries using entries_induction generalizing group index with
  | nil => rfl
  | plain entry rest hplain ih =>
      have hnone : entry.inlineCount = 0 := by
        match entry with
        | .rule _ _ .nothing _ | .rule _ _ (.group _) _ | .includeGroup _ | .defaultKind _ => rfl
      rw [inlineGroups_plain hplain, ih, inlineCount, hnone, Nat.zero_add]
  | inline kinds pattern inner next rest ihInner ihRest =>
      rw [inlineGroups_inline, List.length_append, List.length_append, ihInner, ihRest]
      rfl

theorem inlineCount_append (entries more : List Entry) :
    inlineCount (entries ++ more) = inlineCount entries + inlineCount more := by
  induction entries with
  | nil => exact (Nat.zero_add _).symm
  | cons entry rest ih => rw [List.cons_append, inlineCount, ih, inlineCount, Nat.add_assoc]

theorem length_allGroups (table : GroupTable) :
    (allGroups table).length = table.length + inlineCount (table.flatMap (·.2)) := by
  induction table with
  | nil => rfl
  | cons group rest ih =>
      rw [allGroups, List.flatMap_cons, List.length_append, List.length_append, length_inlineGroups,
        List.length_singleton, List.length_cons, List.flatMap_cons, inlineCount_append, ← allGroups, ih]
      omega

/-- A rule among the entries of a group is among the rules that they expand to. -/
theorem Expands.exists_form {table : GroupTable} {group : String} {index i : Nat} {entries : List Entry}
    {rules : List CompiledRule} (h : Expands table group index entries rules) {kinds : List String}
    {pattern : PatternSource} {push : Push} {next : Option String}
    (hentry : entries[i]? = some (.rule kinds pattern push next)) :
    ∃ r ∈ rules, CompiledForm group (index + i) kinds pattern push next r := by
  have hcount : ∀ n, index + 1 + n = index + (n + 1) := by omega
  induction h generalizing i with
  | nil => simp at hentry
  | rule hform _ ih =>
      match i with
      | 0 =>
          cases hentry
          exact ⟨_, List.mem_cons_self, hform⟩
      | n + 1 =>
          obtain ⟨r, hr, hfound⟩ := ih hentry (by omega)
          exact ⟨r, List.mem_cons_of_mem _ hr, hcount n ▸ hfound⟩
  | default _ ih =>
      match i with
      | 0 => cases hentry
      | n + 1 =>
          obtain ⟨r, hr, hfound⟩ := ih hentry (by omega)
          exact ⟨r, hr, hcount n ▸ hfound⟩
  | inner _ _ _ _ ih =>
      match i with
      | 0 => cases hentry
      | n + 1 =>
          obtain ⟨r, hr, hfound⟩ := ih hentry (by omega)
          exact ⟨r, List.mem_append_right _ hr, hcount n ▸ hfound⟩

/-- The modes of a grammar are the places of a table, each under a name of its own.  A rule that writes a group
in place opens the mode of that place. -/
structure NamedApart (table : GroupTable) (g : CompiledGrammar) : Prop where
  place_eq : ∀ a way entries b way' entries', DefinedAt table a way entries →
    DefinedAt table b way' entries' → placeName a way = placeName b way' →
      a = b ∧ way = way' ∧ entries = entries'
  nodup_names : (g.modes.map (·.name)).Nodup
  length_modes : g.modes.length = table.length + inlineCount (table.flatMap (·.2))
  exists_place : ∀ mode ∈ g.modes, ∃ a way entries, DefinedAt table a way entries ∧
    mode.Inlines table (placeName a way) entries
  exists_mode : ∀ a way entries, DefinedAt table a way entries →
    ∃ mode, g.mode? (placeName a way) = some mode ∧ mode.Inlines table (placeName a way) entries
  opens : ∀ a way entries index kinds pattern inner next, DefinedAt table a way entries →
    entries[index]? = some (.rule kinds pattern (.inline inner) next) →
      ∃ mode r opened, g.mode? (placeName a way) = some mode ∧ r ∈ mode.rules ∧ r.kinds = kinds ∧
        pattern.compile = .ok r.pattern ∧ r.transition = .push (placeName a (way ++ [index])) ∧
        g.mode? (placeName a (way ++ [index])) = some opened ∧
        opened.Inlines table (placeName a (way ++ [index])) inner

theorem Transition.eq_push_of_push? {t : Transition} {name : String} (h : t.push? = some name) :
    t = .push name := by
  cases t <;> cases h
  rfl

theorem mode?_of_mem {g : CompiledGrammar} (hnodup : (g.modes.map (·.name)).Nodup) {mode : Mode}
    (hmode : mode ∈ g.modes) : g.mode? mode.name = some mode := by
  obtain ⟨before, after, hmodes⟩ := List.append_of_mem hmode
  rw [hmodes, List.map_append, List.nodup_append] at hnodup
  rw [CompiledGrammar.mode?, hmodes]
  refine List.find?_eq_some_iff_append.mpr ⟨by simp, before, after, rfl, fun other hother => ?_⟩
  simpa using hnodup.2.2 other.name (List.mem_map_of_mem hother) mode.name (by simp)

theorem namedApart_of_compileGroups {table : GroupTable} (hnames : (table.map (·.1)).Nodup)
    {fallback : Kind} {g : CompiledGrammar} (h : compileGroups table fallback = .ok g) :
    NamedApart table g := by
  have hclash := noNameClash_of_compileGroups h
  have hgroups : (groupNames table).Nodup := hclash.nodup_allGroups hnames
  obtain ⟨hmodes, hinlines⟩ := inlines_of_compileGroups hnames h
  have hnodup : (g.modes.map (·.name)).Nodup := hmodes ▸ hgroups
  constructor
  · intro a way entries b way' entries' hplace hplace' hname
    obtain ⟨rfl, rfl⟩ := hclash.place_eq hplace hplace' hname
    exact ⟨rfl, rfl, entries_eq_of_mem_allGroups hgroups hplace.mem_allGroups hplace'.mem_allGroups⟩
  · exact hnodup
  · rw [← length_allGroups, ← List.length_map (f := (·.name)), hmodes, groupNames, List.length_map]
  · intro mode hmode
    have hname : mode.name ∈ groupNames table := hmodes ▸ List.mem_map_of_mem hmode
    obtain ⟨⟨name, entries⟩, hgroup, hfst⟩ := List.mem_map.mp hname
    obtain ⟨found, hfound, hinlined⟩ := hinlines name entries hgroup
    have hsame : found = mode := by
      rw [show name = mode.name from hfst, mode?_of_mem hnodup hmode] at hfound
      exact (Option.some.inj hfound).symm
    obtain ⟨a, way, hplace, rfl⟩ := mem_allGroups_iff.mp hgroup
    exact ⟨a, way, entries, hplace, hsame ▸ hinlined⟩
  · exact fun a way entries hplace => hinlines _ _ hplace.mem_allGroups
  · intro a way entries index kinds pattern inner next hplace hentry
    have hwrites : WritesInline entries index inner := by
      rw [WritesInline, hentry]
      rfl
    obtain ⟨mode, hmode, hinlined⟩ := hinlines _ _ hplace.mem_allGroups
    obtain ⟨opened, hopened, hopenedInlined⟩ := hinlines _ _ (hplace.inline hwrites).mem_allGroups
    obtain ⟨r, hr, hform⟩ := ((hinlined.rules_iff _).mpr rfl).exists_form hentry
    refine ⟨mode, r, opened, hmode, hr, hform.kinds_eq, hform.pattern_eq, ?_, hopened, hopenedInlined⟩
    apply Transition.eq_push_of_push?
    rw [hform.push_eq, placeName_append, Nat.zero_add]
    rfl

/-- A table with a collision is rejected for a name clash, if no pattern ends the compilation. -/
theorem exists_nameClash_of_hasNameCollision {table : GroupTable} (hcollision : HasNameCollision table)
    (hquiet : firstFailure? ((hoist table).1.map (·.1)) (hoist table).1 = none) (fallback : Kind) :
    ∃ reports, compileGroups table fallback = .error (.rejected reports) ∧
      ∃ r ∈ reports, ∃ name, r.fault = .nameClash name := by
  have hclashes : (hoist table).2 ≠ [] := fun hnil =>
    (noNameClash_of_hoist hnil).not_hasNameCollision hcollision
  obtain ⟨r, hr⟩ := List.exists_mem_of_ne_nil _ hclashes
  rw [compileGroups_of_hoist]
  simp only [hquiet, List.isEmpty_iff, List.append_eq_nil_iff, hclashes, false_and, if_false]
  refine ⟨_, rfl, r, ?_, exists_nameClash_of_mem_hoist hr⟩
  simp only [List.append_assoc]
  exact List.mem_append_left _ hr

/-- A table that cannot be read is rejected for malformed parts alone. -/
theorem compileSources_of_unreadable {sources : List (String × GroupSource)} {reports : List Report}
    (hread : readTable sources = .error (.malformed reports)) (fallback : Kind) :
    compileSources sources fallback = .error (.unreadable reports) ∧ reports ≠ [] ∧
      ∀ r ∈ reports, r.fault.code = "G005" := by
  unfold readTable at hread
  split at hread
  · cases hread
  · rename_i hready
    refine ⟨by simp only [compileSources, hready, hread], ?_⟩
    rcases readGroups_cases sources with ⟨h, _⟩ | ⟨_, _, hreports, ⟨h, hsome⟩ | ⟨_, _, h, _⟩⟩
    · cases hread.symm.trans h
    · cases hread.symm.trans h
      exact ⟨hsome, hreports.code_eq⟩
    · cases hread.symm.trans h

theorem compileSources_of_numberTooLong {sources : List (String × GroupSource)}
    (hread : readTable sources = .error .numberTooLong) (fallback : Kind) :
    compileSources sources fallback = .error .numberTooLong := by
  unfold readTable at hread
  split at hread
  · cases hread
  · rename_i hready
    simp only [compileSources, hready, hread]

/-- In a grammar that compiles from differently named groups, the groups have one mode each, and every rule
opens what it writes in place.  A table that cannot be read is rejected for malformed parts alone, unless a
number in it is too long.  A table in which two groups would get one name is rejected for a malformed rule,
unless a pattern stops the compilation: one that is refused for a reason other than its wording, in a rule with
nothing wrong before it. -/
theorem compileSources_keeps_groups_apart {sources : List (String × GroupSource)}
    (hnames : (sources.map (·.1)).Nodup) (fallback : Kind) :
    (∀ g, compileSources sources fallback = .ok g →
      ∃ table, readTable sources = .ok table ∧ NamedApart table g) ∧
    (∀ reports, readTable sources = .error (.malformed reports) →
      compileSources sources fallback = .error (.unreadable reports) ∧ reports ≠ [] ∧
        ∀ r ∈ reports, r.fault.code = "G005") ∧
    (readTable sources = .error .numberTooLong → compileSources sources fallback = .error .numberTooLong) ∧
    (∀ table, readTable sources = .ok table → HasNameCollision table →
      (∀ failure, firstFailure? ((hoist table).1.map (·.1)) (hoist table).1 = some failure →
        compileSources sources fallback = .error (.stopped failure)) ∧
      (firstFailure? ((hoist table).1.map (·.1)) (hoist table).1 = none →
        ∃ reports, compileSources sources fallback = .error (.rejected reports) ∧
          ∃ r ∈ reports, r.fault.code = "G005" ∧ ∃ name, r.fault = .nameClash name)) := by
  refine ⟨fun g h => ?_, fun reports hread => compileSources_of_unreadable hread fallback,
    fun hread => compileSources_of_numberTooLong hread fallback, ?_⟩
  · obtain ⟨table, hread⟩ := exists_readTable_of_compileSources h
    rw [compileSources_of_readTable hread] at h
    rw [← names_readTable hread] at hnames
    exact ⟨table, hread, namedApart_of_compileGroups hnames h⟩
  · intro table hread hcollision
    rw [compileSources_of_readTable hread]
    constructor
    · intro failure hfailure
      rw [compileGroups_of_hoist]
      simp only [hfailure]
    · intro hquiet
      obtain ⟨reports, hrejected, r, hr, name, hname⟩ :=
        exists_nameClash_of_hasNameCollision hcollision hquiet fallback
      exact ⟨reports, hrejected, r, hr, by rw [hname]; rfl, name, hname⟩

namespace PlacesWitness

/-- Groups written in place inside each other, beside named groups with slashes and digits in their names. -/
def nested : GroupTable :=
  [("start", [.rule ["a"] (.ready (.ofChar 'a')) (.inline [.defaultKind "b",
      .rule ["c"] (.ready (.ofChar 'a')) (.inline []) none]) none]),
    ("start/0/0", [.rule ["d"] (.ready (.ofChar 'a')) (.inline []) none])]

def nestedGrammar : CompiledGrammar :=
  ⟨[⟨"start/0/1", [], none⟩, ⟨"start/0", [⟨["c"], .ofChar 'a', .push "start/0/1"⟩], some "b"⟩,
    ⟨"start", [⟨["a"], .ofChar 'a', .push "start/0"⟩], none⟩, ⟨"start/0/0/0", [], none⟩,
    ⟨"start/0/0", [⟨["d"], .ofChar 'a', .push "start/0/0/0"⟩], none⟩], .name "text"⟩

/-- A named group with the name of a group that is written in place two levels down. -/
def colliding : GroupTable :=
  [("start", [.rule ["a"] (.ready (.ofChar 'a'))
      (.inline [.rule ["b"] (.ready (.ofChar 'a')) (.inline []) none]) none]),
    ("start/0/0", [])]

/-- A collision beside a pattern whose repetition count is not supported. -/
def stopping : GroupTable :=
  [("start", [.rule ["a"] (.text "a\x7b4294967295\x7d") (.inline []) none]), ("start/0", [])]

theorem hasNameCollision_colliding : HasNameCollision colliding :=
  ⟨"start", "start/0/0", [] ++ [0] ++ [0], [], [], [],
    .inline (.inline (.named List.mem_cons_self) rfl) rfl, .named (by simp [colliding]), by decide, by decide⟩

theorem hasNameCollision_stopping : HasNameCollision stopping :=
  ⟨"start", "start/0", [] ++ [0], [], [], [], .inline (.named List.mem_cons_self) rfl,
    .named (by simp [stopping]), by decide, by decide⟩

theorem nested_compiles_and_colliding_is_rejected :
    ((readySources nested).map (·.1)).Nodup ∧
      compileSources (readySources nested) (.name textKind) = .ok nestedGrammar ∧
      (∃ table, readTable (readySources nested) = .ok table ∧ NamedApart table nestedGrammar) ∧
      HasNameCollision colliding ∧
      (∃ reports, compileSources (readySources colliding) (.name textKind) = .error (.rejected reports) ∧
        ∃ r ∈ reports, r.fault.code = "G005" ∧ ∃ name, r.fault = .nameClash name) ∧
      HasNameCollision stopping ∧
      compileSources (readySources stopping) (.name textKind) = .error (.stopped .repetitionTooLarge) := by
  have hquiet : firstFailure? ((hoist colliding).1.map (·.1)) (hoist colliding).1 = none := by
    decide +kernel
  have hstops : firstFailure? ((hoist stopping).1.map (·.1)) (hoist stopping).1 =
      some .repetitionTooLarge := by
    decide +kernel
  refine ⟨by decide, rfl, ?_, hasNameCollision_colliding, ?_, hasNameCollision_stopping, ?_⟩
  · exact (compileSources_keeps_groups_apart (by decide) (.name textKind)).1 _ rfl
  · exact ((compileSources_keeps_groups_apart (by decide) (.name textKind)).2.2.2 colliding
      (readTable_ready colliding) hasNameCollision_colliding).2 hquiet
  · exact ((compileSources_keeps_groups_apart (by decide) (.name textKind)).2.2.2 stopping
      (readTable_ready stopping) hasNameCollision_stopping).1 _ hstops

end PlacesWitness

end ModalHighlight
