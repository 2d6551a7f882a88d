import ModalHighlight.Grammar.Hoist
import Mathlib.Data.List.Basic
import Mathlib.Data.List.Nodup

/-!
The names of inline groups.  An inline group is named after the group and the entry that hold it, so its
name tells the way to it: below one group no two inline groups share a name.  Below two named groups they
can, but only if some inline group has the name of a named one.  Without such a clash all names differ,
and naming keeps every group.
-/

namespace ModalHighlight

/-- The group that an entry writes in place. -/
def Entry.inline? : Entry → Option (List Entry)
  | .rule _ _ (.inline entries) _ => some entries
  | _ => none

/-- Entry `index` of a group writes a group in place. -/
def WritesInline (entries : List Entry) (index : Nat) (inner : List Entry) : Prop :=
  entries[index]?.bind Entry.inline? = some inner

/-- An induction over the entries of a group and of the groups written in place inside it. -/
theorem entries_induction {P : List Entry → Prop} (nil : P [])
    (plain : ∀ entry rest, entry.inline? = none → P rest → P (entry :: rest))
    (inline : ∀ kinds pattern inner next rest, P inner → P rest →
      P (.rule kinds pattern (.inline inner) next :: rest)) : ∀ entries, P entries
  | [] => nil
  | .rule kinds pattern (.inline inner) next :: rest =>
      inline kinds pattern inner next rest (entries_induction nil plain inline inner)
        (entries_induction nil plain inline rest)
  | .rule _ _ .nothing _ :: rest => plain _ rest rfl (entries_induction nil plain inline rest)
  | .rule _ _ (.group _) _ :: rest => plain _ rest rfl (entries_induction nil plain inline rest)
  | .includeGroup _ :: rest => plain _ rest rfl (entries_induction nil plain inline rest)
  | .defaultKind _ :: rest => plain _ rest rfl (entries_induction nil plain inline rest)

mutual

/-- The groups that a push writes in place, with their names: the inner ones first. -/
def inlineGroupsOfPush (group : String) (index : Nat) : Push → GroupTable
  | .inline entries =>
      inlineGroups (inlineName group index) 0 entries ++ [(inlineName group index, entries)]
  | _ => []

def inlineGroupsOfEntry (group : String) (index : Nat) : Entry → GroupTable
  | .rule _ _ push _ => inlineGroupsOfPush group index push
  | _ => []

/-- The groups written in place among the entries of a group, counted from an index on. -/
def inlineGroups (group : String) (index : Nat) : List Entry → GroupTable
  | [] => []
  | entry :: rest => inlineGroupsOfEntry group index entry ++ inlineGroups group (index + 1) rest

end

/-- All groups of a table, named and inline, in the order in which they are named. -/
def allGroups (table : GroupTable) : GroupTable :=
  table.flatMap fun (name, entries) => inlineGroups name 0 entries ++ [(name, entries)]

theorem inlineGroups_plain {entry : Entry} (h : entry.inline? = none) (group : String)
    (index : Nat) (rest : List Entry) :
    inlineGroups group index (entry :: rest) = inlineGroups group (index + 1) rest := by
  match entry with
  | .rule _ _ .nothing _ | .rule _ _ (.group _) _ | .includeGroup _ | .defaultKind _ => rfl

theorem inlineGroups_inline (kinds : List String) (pattern : PatternSource) (inner : List Entry)
    (next : Option String) (group : String) (index : Nat) (rest : List Entry) :
    inlineGroups group index (.rule kinds pattern (.inline inner) next :: rest) =
      inlineGroups (inlineName group index) 0 inner ++ [(inlineName group index, inner)] ++
        inlineGroups group (index + 1) rest := rfl

theorem writesInline_succ {entry : Entry} {rest : List Entry} {index : Nat} {inner : List Entry} :
    WritesInline (entry :: rest) (index + 1) inner ↔ WritesInline rest index inner := by
  simp [WritesInline]

/-- Every inline group is written in place by the group itself or by another inline group inside it. -/
theorem exists_writesInline {group : String} {index : Nat} {entries : List Entry}
    {found : String × List Entry} (h : found ∈ inlineGroups group index entries) :
    (∃ i, WritesInline entries i found.2 ∧ found.1 = inlineName group (index + i)) ∨
      ∃ parent ∈ inlineGroups group index entries,
        ∃ i, WritesInline parent.2 i found.2 ∧ found.1 = inlineName parent.1 i := by
  induction entries using entries_induction generalizing group index with
  | nil => cases h
  | plain entry rest hplain ih =>
      rw [inlineGroups_plain hplain] at h ⊢
      rcases ih h with ⟨i, hwrites, hname⟩ | hparent
      · exact Or.inl ⟨i + 1, writesInline_succ.mpr hwrites, by rw [hname]; congr 1; omega⟩
      · exact Or.inr hparent
  | inline kinds pattern inner next rest ihInner ihRest =>
      rw [inlineGroups_inline, List.append_assoc, List.mem_append, List.mem_append,
        List.mem_singleton] at h
      have hself : (inlineName group index, inner) ∈
          inlineGroups group index (.rule kinds pattern (.inline inner) next :: rest) := by
        simp [inlineGroups_inline]
      rcases h with hinner | rfl | hrest
      · rcases ihInner hinner with ⟨i, hwrites, hname⟩ | ⟨parent, hparent, hwrites⟩
        · exact Or.inr ⟨_, hself, i, hwrites, by rw [hname, Nat.zero_add]⟩
        · exact Or.inr ⟨parent, by simp [inlineGroups_inline, hparent], hwrites⟩
      · exact Or.inl ⟨0, rfl, rfl⟩
      · rcases ihRest hrest with ⟨i, hwrites, hname⟩ | ⟨parent, hparent, hwrites⟩
        · exact Or.inl ⟨i + 1, writesInline_succ.mpr hwrites, by rw [hname]; congr 1; omega⟩
        · exact Or.inr ⟨parent, by simp [inlineGroups_inline, hparent], hwrites⟩

theorem writesInline_zero {entry : Entry} {rest inner : List Entry} :
    WritesInline (entry :: rest) 0 inner ↔ entry.inline? = some inner := by
  simp [WritesInline]

/-- A group that is written in place is among the inline groups. -/
theorem WritesInline.mem_inlineGroups {group : String} {index i : Nat} {entries inner : List Entry}
    (h : WritesInline entries i inner) :
    (inlineName group (index + i), inner) ∈ inlineGroups group index entries := by
  induction entries using entries_induction generalizing index i with
  | nil => simp [WritesInline] at h
  | plain entry rest hplain ih =>
      rw [inlineGroups_plain hplain]
      cases i with
      | zero =>
          rw [writesInline_zero, hplain] at h
          cases h
      | succ i =>
          rw [show index + (i + 1) = index + 1 + i by omega]
          exact ih (writesInline_succ.mp h)
  | inline kinds pattern first next rest _ ihRest =>
      rw [inlineGroups_inline]
      cases i with
      | zero =>
          obtain rfl : first = inner := Option.some.inj (writesInline_zero.mp h)
          simp
      | succ i =>
          rw [show index + (i + 1) = index + 1 + i by omega]
          exact List.mem_append_right _ (ihRest (writesInline_succ.mp h))

theorem WritesInline.mem_inlineGroups_zero {entries inner : List Entry} {i : Nat}
    (h : WritesInline entries i inner) (group : String) :
    (inlineName group i, inner) ∈ inlineGroups group 0 entries := by
  rw [← Nat.zero_add i]
  exact h.mem_inlineGroups

/-- The groups that an inline group writes in place are inline groups too. -/
theorem mem_inlineGroups_of_parent {group : String} {index i : Nat} {entries inner : List Entry}
    {parent : String × List Entry} (hparent : parent ∈ inlineGroups group index entries)
    (h : WritesInline parent.2 i inner) :
    (inlineName parent.1 i, inner) ∈ inlineGroups group index entries := by
  induction entries using entries_induction generalizing group index with
  | nil => cases hparent
  | plain entry rest hplain ih =>
      rw [inlineGroups_plain hplain] at hparent ⊢
      exact ih hparent
  | inline kinds pattern first next rest ihInner ihRest =>
      rw [inlineGroups_inline, List.append_assoc, List.mem_append, List.mem_append,
        List.mem_singleton] at hparent ⊢
      rcases hparent with hinner | rfl | hrest
      · exact Or.inl (ihInner hinner)
      · exact Or.inl (h.mem_inlineGroups_zero (inlineName group index))
      · exact Or.inr (Or.inr (ihRest hrest))

theorem toList_inlineName (group : String) (index : Nat) :
    (inlineName group index).toList = group.toList ++ '/' :: Nat.toDigits 10 index := by
  simp [inlineName, Nat.toString_eq_repr, Nat.toList_repr]

theorem slash_notMem_toDigits (index : Nat) : '/' ∉ Nat.toDigits 10 index := by
  intro hmem
  have := Nat.isDigit_of_mem_toDigits (by decide) (by decide) hmem
  exact absurd this (by decide)

theorem toDigits_injective {i j : Nat} (h : Nat.toDigits 10 i = Nat.toDigits 10 j) : i = j := by
  rw [← Nat.ofDigitChars_ten_toDigits (n := i), h, Nat.ofDigitChars_ten_toDigits]

theorem length_lt_inlineName (group : String) (index : Nat) :
    group.toList.length < (inlineName group index).toList.length := by
  rw [toList_inlineName, List.length_append, List.length_cons]
  omega

theorem eq_of_append_slash {a b x y : List Char} (ha : '/' ∉ a) (hb : '/' ∉ b)
    (h : a ++ '/' :: x = b ++ '/' :: y) : a = b ∧ x = y := by
  induction a generalizing b with
  | nil =>
      cases b with
      | nil => simpa using h
      | cons c rest =>
          obtain ⟨rfl, _⟩ := List.cons.inj h
          exact absurd List.mem_cons_self hb
  | cons c rest ih =>
      cases b with
      | nil =>
          obtain ⟨rfl, _⟩ := List.cons.inj h
          exact absurd List.mem_cons_self ha
      | cons d rest' =>
          simp only [List.cons_append, List.cons.injEq] at h
          obtain ⟨rfl, hrest⟩ := h
          obtain ⟨rfl, hxy⟩ := ih (fun hmem => ha (List.mem_cons_of_mem _ hmem))
            (fun hmem => hb (List.mem_cons_of_mem _ hmem)) hrest
          exact ⟨rfl, hxy⟩

/-- The name of an inline group tells which group holds it, and at which entry. -/
theorem inlineName_injective {group group' : String} {i j : Nat}
    (h : inlineName group i = inlineName group' j) : group = group' ∧ i = j := by
  have hchars := congrArg (List.reverse ∘ String.toList) h
  simp only [Function.comp_apply, toList_inlineName, List.reverse_append, List.reverse_cons,
    List.append_assoc, List.singleton_append] at hchars
  obtain ⟨hdigits, hgroup⟩ := eq_of_append_slash
    (by simpa using slash_notMem_toDigits i) (by simpa using slash_notMem_toDigits j) hchars
  exact ⟨String.toList_inj.mp (List.reverse_injective hgroup),
    toDigits_injective (List.reverse_injective hdigits)⟩

/-- A name that entry `index` of a group gives rise to: that of its inline group, or of one inside it. -/
def IsWithin (group : String) (index : Nat) (name : String) : Prop :=
  ∃ rest, name.toList ++ ['/'] = (inlineName group index).toList ++ '/' :: rest

theorem isWithin_self (group : String) (index : Nat) :
    IsWithin group index (inlineName group index) :=
  ⟨[], rfl⟩

theorem IsWithin.outer {group : String} {index i : Nat} {name : String}
    (h : IsWithin (inlineName group index) i name) : IsWithin group index name := by
  obtain ⟨rest, hrest⟩ := h
  refine ⟨Nat.toDigits 10 i ++ '/' :: rest, ?_⟩
  rw [hrest, toList_inlineName (inlineName group index) i, List.append_assoc, List.cons_append]

theorem IsWithin.index_eq {group : String} {i j : Nat} {name : String}
    (hi : IsWithin group i name) (hj : IsWithin group j name) : i = j := by
  obtain ⟨rest, hrest⟩ := hi
  obtain ⟨rest', hrest'⟩ := hj
  rw [hrest, toList_inlineName, toList_inlineName, List.append_assoc, List.append_assoc,
    List.append_cancel_left_eq, List.cons_append, List.cons_append, List.cons.injEq] at hrest'
  exact toDigits_injective
    (eq_of_append_slash (slash_notMem_toDigits i) (slash_notMem_toDigits j) hrest'.2).1

theorem IsWithin.length_lt {group : String} {index : Nat} {name : String}
    (h : IsWithin group index name) : group.toList.length < name.toList.length := by
  obtain ⟨rest, hrest⟩ := h
  have hlength := congrArg List.length hrest
  have := length_lt_inlineName group index
  simp only [List.length_append, List.length_cons, List.length_nil] at hlength
  omega

/-- The inline groups of a group bear names that its entries give rise to. -/
theorem exists_isWithin {group : String} {index : Nat} {entries : List Entry}
    {found : String × List Entry} (h : found ∈ inlineGroups group index entries) :
    ∃ i, index ≤ i ∧ IsWithin group i found.1 := by
  induction entries using entries_induction generalizing group index with
  | nil => cases h
  | plain entry rest hplain ih =>
      rw [inlineGroups_plain hplain] at h
      obtain ⟨i, hi, hwithin⟩ := ih h
      exact ⟨i, by omega, hwithin⟩
  | inline kinds pattern inner next rest ihInner ihRest =>
      rw [inlineGroups_inline, List.append_assoc, List.mem_append, List.mem_append,
        List.mem_singleton] at h
      rcases h with hinner | rfl | hrest
      · obtain ⟨i, _, hwithin⟩ := ihInner hinner
        exact ⟨index, Nat.le_refl _, hwithin.outer⟩
      · exact ⟨index, Nat.le_refl _, isWithin_self group index⟩
      · obtain ⟨i, hi, hwithin⟩ := ihRest hrest
        exact ⟨i, by omega, hwithin⟩

/-- Below one group all inline groups have different names. -/
theorem nodup_inlineGroups (group : String) (index : Nat) (entries : List Entry) :
    ((inlineGroups group index entries).map (·.1)).Nodup := by
  induction entries using entries_induction generalizing group index with
  | nil => exact List.nodup_nil
  | plain entry rest hplain ih =>
      rw [inlineGroups_plain hplain]
      exact ih group (index + 1)
  | inline kinds pattern inner next rest ihInner ihRest =>
      rw [inlineGroups_inline, List.map_append, List.map_append, List.nodup_append,
        List.nodup_append]
      refine ⟨⟨ihInner _ _, List.nodup_singleton _, ?_⟩, ihRest _ _, ?_⟩
      · -- The groups inside the inline group have longer names than it.
        rintro name hname self hself rfl
        obtain ⟨found, hfound, rfl⟩ := List.mem_map.mp hname
        obtain ⟨i, _, hwithin⟩ := exists_isWithin hfound
        have := hwithin.length_lt
        simp only [List.map_cons, List.map_nil, List.mem_singleton] at hself
        rw [hself] at this
        exact Nat.lt_irrefl _ this
      · -- Those of later entries are told apart by the index.
        rintro name hname later hlater rfl
        obtain ⟨found, hfound, rfl⟩ := List.mem_map.mp hlater
        obtain ⟨i, hi, hwithin⟩ := exists_isWithin hfound
        have hindex : IsWithin group index found.1 := by
          rw [← List.map_append, List.mem_map] at hname
          obtain ⟨other, hother, heq⟩ := hname
          rw [← heq]
          rcases List.mem_append.mp hother with hinner | hself
          · obtain ⟨j, _, hj⟩ := exists_isWithin hinner
            exact hj.outer
          · rw [List.mem_singleton.mp hself]
            exact isWithin_self group index
        have := hindex.index_eq hwithin
        omega

/-- No group that is written in place somewhere in a table gets the name of a named group. -/
def NoNameClash (table : GroupTable) : Prop :=
  ∀ group ∈ allGroups table, ∀ i inner, WritesInline group.2 i inner →
    inlineName group.1 i ∉ table.map (·.1)

variable {table : GroupTable}

theorem mem_allGroups_of_mem {group : String × List Entry} (h : group ∈ table) :
    group ∈ allGroups table := by
  simp only [allGroups, List.mem_flatMap]
  exact ⟨group, h, by simp⟩

theorem mem_allGroups_of_mem_inlineGroups {group found : String × List Entry} (h : group ∈ table)
    (hfound : found ∈ inlineGroups group.1 0 group.2) : found ∈ allGroups table := by
  simp only [allGroups, List.mem_flatMap]
  exact ⟨group, h, by simp [hfound]⟩

/-- The inline groups of a table have no name of a named group. -/
theorem NoNameClash.notMem_names (h : NoNameClash table) {group found : String × List Entry}
    (hgroup : group ∈ table) (hfound : found ∈ inlineGroups group.1 0 group.2) :
    found.1 ∉ table.map (·.1) := by
  rcases exists_writesInline hfound with ⟨i, hwrites, hname⟩ | ⟨parent, hparent, i, hwrites, hname⟩
  · rw [hname, Nat.zero_add]
    exact h group (mem_allGroups_of_mem hgroup) i _ hwrites
  · rw [hname]
    exact h parent (mem_allGroups_of_mem_inlineGroups hgroup hparent) i _ hwrites

/-- Among the groups of a table are all that one of them writes in place. -/
theorem mem_allGroups_of_writesInline {group : String × List Entry} (hgroup : group ∈ allGroups table)
    {i : Nat} {inner : List Entry} (h : WritesInline group.2 i inner) :
    (inlineName group.1 i, inner) ∈ allGroups table := by
  simp only [allGroups, List.mem_flatMap, List.mem_append, List.mem_singleton] at hgroup
  obtain ⟨outer, houter, hinside | rfl⟩ := hgroup
  · exact mem_allGroups_of_mem_inlineGroups houter (mem_inlineGroups_of_parent hinside h)
  · exact mem_allGroups_of_mem_inlineGroups houter (h.mem_inlineGroups_zero outer.1)

/-- A clash shows in the names of the inline groups. -/
theorem noNameClash_iff : NoNameClash table ↔
    ∀ group ∈ table, ∀ found ∈ inlineGroups group.1 0 group.2, found.1 ∉ table.map (·.1) := by
  refine ⟨fun h group hgroup found hfound => h.notMem_names hgroup hfound, ?_⟩
  intro h group hgroup i inner hwrites
  simp only [allGroups, List.mem_flatMap, List.mem_append, List.mem_singleton] at hgroup
  obtain ⟨outer, houter, hinside | rfl⟩ := hgroup
  · exact h outer houter _ (mem_inlineGroups_of_parent hinside hwrites)
  · exact h outer houter _ (hwrites.mem_inlineGroups_zero outer.1)

instance (table : GroupTable) : Decidable (NoNameClash table) :=
  decidable_of_iff _ noNameClash_iff.symm

/-- Two named groups have no name of an inline group in common: the groups that hold the two would have
one name too, down to a named group. -/
theorem NoNameClash.disjoint_inlineGroups (h : NoNameClash table)
    {left right : String × List Entry} (hleft : left ∈ table) (hright : right ∈ table)
    (hne : left.1 ≠ right.1) {a b : String × List Entry}
    (ha : a ∈ inlineGroups left.1 0 left.2) (hb : b ∈ inlineGroups right.1 0 right.2) :
    a.1 ≠ b.1 := by
  induction hlength : a.1.toList.length using Nat.strongRecOn generalizing a b with
  | ind n ih =>
      intro heq
      rcases exists_writesInline ha with ⟨i, _, hname⟩ | ⟨outer, houter, i, _, hname⟩
      · rcases exists_writesInline hb with ⟨j, _, hname'⟩ | ⟨outer', houter', j, _, hname'⟩
        · rw [hname, hname'] at heq
          exact hne (inlineName_injective heq).1
        · rw [hname, hname'] at heq
          apply h.notMem_names hright houter'
          rw [← (inlineName_injective heq).1]
          exact List.mem_map_of_mem hleft
      · rcases exists_writesInline hb with ⟨j, _, hname'⟩ | ⟨outer', houter', j, _, hname'⟩
        · rw [hname, hname'] at heq
          apply h.notMem_names hleft houter
          rw [(inlineName_injective heq).1]
          exact List.mem_map_of_mem hright
        · have hshorter : outer.1.toList.length < n := by
            rw [← hlength, hname]
            exact length_lt_inlineName outer.1 i
          rw [hname, hname'] at heq
          exact ih _ hshorter houter houter' rfl (inlineName_injective heq).1

/-- Without a clash all groups of a table, named and inline, have different names. -/
theorem NoNameClash.nodup_allGroups (h : NoNameClash table)
    (hnames : (table.map (·.1)).Nodup) : ((allGroups table).map (·.1)).Nodup := by
  rw [allGroups, List.map_flatMap, List.nodup_flatMap]
  constructor
  · rintro ⟨name, entries⟩ hmem
    rw [List.map_append, List.nodup_append]
    refine ⟨nodup_inlineGroups name 0 entries, List.nodup_singleton _, ?_⟩
    rintro inner hinner self hself rfl
    obtain ⟨found, hfound, rfl⟩ := List.mem_map.mp hinner
    obtain ⟨i, _, hwithin⟩ := exists_isWithin hfound
    have := hwithin.length_lt
    simp only [List.map_cons, List.map_nil, List.mem_singleton] at hself
    rw [hself] at this
    exact Nat.lt_irrefl _ this
  · refine (List.pairwise_map.mp hnames).imp_of_mem ?_
    intro left right hleft hright hne name hname hname'
    simp only [List.map_append, List.map_cons, List.map_nil, List.mem_append,
      List.mem_singleton] at hname hname'
    rcases hname with hinner | rfl
    · obtain ⟨a, ha, rfl⟩ := List.mem_map.mp hinner
      rcases hname' with hinner' | hself
      · obtain ⟨b, hb, heq⟩ := List.mem_map.mp hinner'
        exact h.disjoint_inlineGroups hleft hright hne ha hb heq.symm
      · exact h.notMem_names hleft ha (hself ▸ List.mem_map_of_mem hright)
    · rcases hname' with hinner' | hself
      · obtain ⟨b, hb, heq⟩ := List.mem_map.mp hinner'
        exact h.notMem_names hright hb (heq ▸ List.mem_map_of_mem hleft)
      · exact hne hself

/-- The name that a push goes by. -/
def Push.target? (group : String) (index : Nat) : Push → Option String
  | .nothing => none
  | .group name => some name
  | .inline _ => some (inlineName group index)

/-- An entry of a group with the name of its inline group in place of the group. -/
def Entry.flat (group : String) (index : Nat) : Entry → FlatEntry
  | .rule kinds pattern push next => .rule ⟨kinds, pattern, push.target? group index, next⟩
  | .includeGroup name => .includeGroup name
  | .defaultKind kind => .defaultKind kind

def flatEntries (group : String) (index : Nat) (entries : List Entry) : List FlatEntry :=
  (entries.zipIdx index).map fun (entry, i) => entry.flat group i

def flatGroup (group : String × List Entry) : String × List FlatEntry :=
  (group.1, flatEntries group.1 0 group.2)

section

variable (named : List String)

theorem hoistEntries_plain {entry : Entry} (h : entry.inline? = none) (group : String)
    (index : Nat) (rest : List Entry) :
    hoistEntries named group index (entry :: rest) =
      ⟨entry.flat group index :: (hoistEntries named group (index + 1) rest).result,
        (hoistEntries named group (index + 1) rest).groups,
        (hoistEntries named group (index + 1) rest).reports⟩ := by
  match entry with
  | .rule _ _ .nothing _ | .rule _ _ (.group _) _ | .includeGroup _ | .defaultKind _ => rfl

theorem hoistEntries_result (group : String) (index : Nat) (entries : List Entry) :
    (hoistEntries named group index entries).result = flatEntries group index entries := by
  induction entries using entries_induction generalizing index with
  | nil => rfl
  | plain entry rest hplain ih =>
      rw [hoistEntries_plain named hplain, ih]
      rfl
  | inline kinds pattern inner next rest _ ihRest =>
      exact congrArg (List.cons _) (ihRest (index + 1))

theorem hoistEntries_groups (group : String) (index : Nat) (entries : List Entry) :
    (hoistEntries named group index entries).groups =
      (inlineGroups group index entries).map flatGroup := by
  induction entries using entries_induction generalizing group index with
  | nil => rfl
  | plain entry rest hplain ih => rw [hoistEntries_plain named hplain, inlineGroups_plain hplain, ih]
  | inline kinds pattern inner next rest ihInner ihRest =>
      rw [inlineGroups_inline, List.map_append, List.map_append, ← ihInner, ← ihRest, hoistEntries,
        hoistEntry, hoistPush, hoistEntries_result]
      rfl

/-- Only an inline group with the name of a named group is reported. -/
theorem hoistEntries_reports_eq_nil {group : String} {index : Nat} {entries : List Entry}
    (h : ∀ found ∈ inlineGroups group index entries, found.1 ∉ named) :
    (hoistEntries named group index entries).reports = [] := by
  induction entries using entries_induction generalizing group index with
  | nil => rfl
  | plain entry rest hplain ih =>
      rw [inlineGroups_plain hplain] at h
      rw [hoistEntries_plain named hplain]
      exact ih h
  | inline kinds pattern inner next rest ihInner ihRest =>
      rw [inlineGroups_inline] at h
      have hname : inlineName group index ∉ named := h (inlineName group index, inner) (by simp)
      have hinner : (hoistEntries named (inlineName group index) 0 inner).reports = [] :=
        ihInner fun found hfound => h found (by simp [hfound])
      have hrest : (hoistEntries named group (index + 1) rest).reports = [] :=
        ihRest fun found hfound => h found (by simp [hfound])
      simp [hoistEntries, hoistEntry, hoistPush, hname, hinner, hrest]

/-- Every inline group with the name of a named group is reported. -/
theorem notMem_of_hoistEntries_reports {group : String} {index : Nat} {entries : List Entry}
    (h : (hoistEntries named group index entries).reports = []) {found : String × List Entry}
    (hfound : found ∈ inlineGroups group index entries) : found.1 ∉ named := by
  induction entries using entries_induction generalizing group index with
  | nil => cases hfound
  | plain entry rest hplain ih =>
      rw [hoistEntries_plain named hplain] at h
      rw [inlineGroups_plain hplain] at hfound
      exact ih h hfound
  | inline kinds pattern inner next rest ihInner ihRest =>
      simp only [hoistEntries, hoistEntry, hoistPush, List.append_eq_nil_iff] at h
      obtain ⟨⟨hclash, hinner⟩, hrest⟩ := h
      rw [inlineGroups_inline, List.append_assoc, List.mem_append, List.mem_append,
        List.mem_singleton] at hfound
      rcases hfound with hfound | rfl | hfound
      · exact ihInner hinner hfound
      · intro hmem
        rw [if_pos hmem] at hclash
        cases hclash
      · exact ihRest hrest hfound

theorem exists_nameClash_of_mem_hoistEntries {group : String} {index : Nat} {entries : List Entry}
    {r : Report} (h : r ∈ (hoistEntries named group index entries).reports) :
    ∃ name, r.fault = .nameClash name := by
  induction entries using entries_induction generalizing group index with
  | nil => cases h
  | plain entry rest hplain ih =>
      rw [hoistEntries_plain named hplain] at h
      exact ih h
  | inline kinds pattern inner next rest ihInner ihRest =>
      simp only [hoistEntries, hoistEntry, hoistPush, List.mem_append] at h
      rcases h with (hclash | hinner) | hrest
      · split at hclash
        · exact ⟨_, congrArg Report.fault (List.mem_singleton.mp hclash)⟩
        · cases hclash
      · exact ihInner hinner
      · exact ihRest hrest

end

theorem exists_nameClash_of_mem_hoist {r : Report} (h : r ∈ (hoist table).2) :
    ∃ name, r.fault = .nameClash name := by
  simp only [hoist, hoistGroup, List.flatMap_map, List.mem_flatMap] at h
  obtain ⟨group, _, hr⟩ := h
  exact exists_nameClash_of_mem_hoistEntries _ hr

theorem setField_of_notMem {α : Type} {key : String} {fields : List (String × α)}
    (h : key ∉ fields.map (·.1)) (value : α) : setField key value fields = fields ++ [(key, value)] := by
  induction fields with
  | nil => rfl
  | cons head rest ih =>
      simp only [List.map_cons, List.mem_cons, not_or] at h
      rw [setField, if_neg (Ne.symm h.1), ih h.2, List.cons_append]

theorem foldl_setField_of_nodup {α : Type} {fields known : List (String × α)}
    (h : ((known ++ fields).map (·.1)).Nodup) :
    fields.foldl (fun known (name, value) => setField name value known) known = known ++ fields := by
  induction fields generalizing known with
  | nil => simp
  | cons head rest ih =>
      obtain ⟨key, value⟩ := head
      have hnew : key ∉ known.map (·.1) := by
        rw [List.map_append, List.nodup_append] at h
        exact fun hmem => h.2.2 key hmem key (by simp) rfl
      have hset : setField key value known = known ++ [(key, value)] := setField_of_notMem hnew value
      simp only [List.foldl_cons, hset]
      rw [ih (by simpa using h), List.append_assoc, List.singleton_append]

theorem nodup_keys_foldl_setField {α : Type} {fields known : List (String × α)}
    (h : (known.map (·.1)).Nodup) :
    ((fields.foldl (fun known (name, value) => setField name value known) known).map (·.1)).Nodup := by
  induction fields generalizing known with
  | nil => exact h
  | cons head rest ih =>
      obtain ⟨key, value⟩ := head
      refine ih ?_
      rw [keys_setField]
      split
      · exact h
      · rename_i hnew
        rw [← List.concat_eq_append]
        exact h.concat hnew

/-- After naming no two groups share a name, whether or not names clashed. -/
theorem nodup_names_hoist (table : GroupTable) : ((hoist table).1.map (·.1)).Nodup :=
  nodup_keys_foldl_setField List.nodup_nil

/-- Where no names clash, naming gives all groups in order, and nothing to report. -/
theorem NoNameClash.hoist_eq (h : NoNameClash table) (hnames : (table.map (·.1)).Nodup) :
    hoist table = ((allGroups table).map flatGroup, []) := by
  have hgroups : table.flatMap (fun (name, entries) =>
      (hoistGroup (table.map (·.1)) name entries).1) = (allGroups table).map flatGroup := by
    simp only [allGroups, List.map_flatMap, hoistGroup, hoistEntries_groups,
      hoistEntries_result, List.map_append, List.map_cons, List.map_nil]
    rfl
  have hreports : table.flatMap (fun (name, entries) =>
      (hoistGroup (table.map (·.1)) name entries).2) = [] := by
    rw [List.flatMap_eq_nil_iff]
    rintro ⟨name, entries⟩ hmem
    exact hoistEntries_reports_eq_nil _ fun found hfound => h.notMem_names hmem hfound
  have hnodup : (((allGroups table).map flatGroup).map (·.1)).Nodup := by
    rw [List.map_map]
    exact h.nodup_allGroups hnames
  simp only [hoist, List.flatMap_map]
  rw [hgroups, hreports, foldl_setField_of_nodup (by simpa using hnodup), List.nil_append]

/-- Where naming has nothing to report, no names clash. -/
theorem noNameClash_of_hoist (h : (hoist table).2 = []) : NoNameClash table := by
  rw [noNameClash_iff]
  rintro ⟨name, entries⟩ hgroup found hfound
  simp only [hoist, hoistGroup, List.flatMap_map, List.flatMap_eq_nil_iff] at h
  exact notMem_of_hoistEntries_reports _ (h (name, entries) hgroup) hfound

end ModalHighlight
