import ModalHighlight.Proofs.Grammar.Includes

/-!
Cycles of includes.  A walk that meets its own path has found a cycle, and the path spells it out.  If no
walk met its path within a component of the include graph, the groups of the component were finished after
those of them that they include, and such an order leaves no room for a cycle.  So a cycle is reported in
every component that has one.
-/

namespace ModalHighlight

/-- Distinct groups of which each includes the next, and the last the first. -/
def IsIncludeCycle (table : CheckedTable) (cycle : List String) : Prop :=
  ∃ first rest, cycle = first :: rest ∧ cycle.Nodup ∧
    (cycle ++ [first]).IsChain (IncludeEdge table)

/-- An order in which every group comes after those that edges lead to from it. -/
def InEdgeOrder (edge : String → String → Prop) (groups : List String) : Prop :=
  ∀ before group after, groups = before ++ group :: after →
    ∀ target, edge group target → target ∈ before

/-- The groups that a group leads to and that lead to it. -/
def InComponent (edge : String → String → Prop) (group name : String) : Prop :=
  Relation.ReflTransGen edge group name ∧ Relation.ReflTransGen edge name group

variable {table : CheckedTable} {path : List String} {group : String}

theorem transGen_of_isChain {α : Type} {R : α → α → Prop} {a b : α} {between : List α}
    (h : (a :: between ++ [b]).IsChain R) : Relation.TransGen R a b := by
  induction between generalizing a with
  | nil =>
      rw [List.cons_append, List.nil_append, List.isChain_cons_cons] at h
      exact .single h.1
  | cons next rest ih =>
      rw [List.cons_append, List.cons_append, List.isChain_cons_cons] at h
      exact .head h.1 (ih h.2)

theorem IsIncludeCycle.transGen {cycle : List String} (h : IsIncludeCycle table cycle) :
    ∃ group, Relation.TransGen (IncludeEdge table) group group := by
  obtain ⟨first, rest, rfl, _, hchain⟩ := h
  exact ⟨first, transGen_of_isChain hchain⟩

/-- A path goes on along an edge from its last group. -/
theorem isChain_snoc {edge : String → String → Prop} {target : String}
    (hchain : (path ++ [group]).IsChain edge) (hedge : edge group target) :
    ((path ++ [group]) ++ [target]).IsChain edge := by
  refine List.isChain_append.mpr ⟨hchain, .singleton target, ?_⟩
  intro last hlast next hnext
  rw [List.getLast?_concat, Option.mem_some_iff] at hlast
  cases hnext
  exact hlast ▸ hedge

/-- Where a walk meets its path, the rest of the path is a cycle. -/
theorem isIncludeCycle_dropWhile {target : String} (hnodup : path.Nodup)
    (hchain : path.IsChain (IncludeEdge table)) (hmem : target ∈ path)
    (hlast : ∀ last ∈ path.getLast?, IncludeEdge table last target) :
    IsIncludeCycle table (path.dropWhile (· != target)) := by
  induction path with
  | nil => simp at hmem
  | cons head rest ih =>
      by_cases hhead : head = target
      · subst hhead
        have hwhole : (head :: rest).dropWhile (· != head) = head :: rest := by simp
        rw [hwhole]
        refine ⟨head, rest, rfl, hnodup, List.isChain_append.mpr ⟨hchain, .singleton _, ?_⟩⟩
        intro last hlastMem next hnext
        cases hnext
        exact hlast last hlastMem
      · have hskip : (head :: rest).dropWhile (· != target) = rest.dropWhile (· != target) := by
          simp [hhead]
        have hrest : target ∈ rest := by
          rcases List.mem_cons.mp hmem with heq | hrest
          · exact absurd heq.symm hhead
          · exact hrest
        rw [hskip]
        refine ih (List.nodup_cons.mp hnodup).2 hchain.tail hrest ?_
        intro last hlastMem
        apply hlast
        cases rest with
        | nil => simp at hrest
        | cons next more => simpa using hlastMem

theorem head?_dropWhile_ne {target : String} (hmem : target ∈ path) :
    (path.dropWhile (· != target)).head? = some target := by
  induction path with
  | nil => simp at hmem
  | cons head rest ih =>
      by_cases hhead : head = target
      · simp [hhead]
      · have hrest : target ∈ rest := by
          rcases List.mem_cons.mp hmem with heq | hrest
          · exact absurd heq.symm hhead
          · exact hrest
        simpa [hhead] using ih hrest

theorem mem_cycles_reportCycle {s : Flattening} {target : String} {index : Nat}
    {cycle : List String} (h : cycle ∈ (s.reportCycle path target group index).cycles) :
    cycle ∈ s.cycles ∨ cycle = path.dropWhile (· != target) := by
  unfold Flattening.reportCycle at h
  dsimp only at h
  split at h
  · exact Or.inl h
  · rcases List.mem_cons.mp h with heq | hold
    · exact Or.inr heq
    · exact Or.inl hold

section

variable {entries : List (CheckedEntry × Nat)} {found out : List CompiledRule} {s t : Flattening}

/-- A walk along a path of includes reports nothing but cycles of includes. -/
theorem Walk.isIncludeCycle (h : Walk table path group entries found s out t)
    (hentries : ∀ entry ∈ entries, entry.1 ∈ entriesOf table group)
    (hnodup : (path ++ [group]).Nodup) (hchain : (path ++ [group]).IsChain (IncludeEdge table))
    (hs : ∀ cycle ∈ s.cycles, IsIncludeCycle table cycle) :
    ∀ cycle ∈ t.cycles, IsIncludeCycle table cycle := by
  induction h with
  | done => exact hs
  | rule _ ih => exact ih (List.forall_mem_cons.mp hentries).2 hnodup hchain hs
  | faulty _ ih => exact ih (List.forall_mem_cons.mp hentries).2 hnodup hchain hs
  | default _ ih => exact ih (List.forall_mem_cons.mp hentries).2 hnodup hchain hs
  | unknown _ _ ih =>
      exact ih (List.forall_mem_cons.mp hentries).2 hnodup hchain hs
  | known _ _ _ _ ih =>
      exact ih (List.forall_mem_cons.mp hentries).2 hnodup hchain hs
  | cycle htarget hpath _ ih =>
      refine ih (List.forall_mem_cons.mp hentries).2 hnodup hchain ?_
      intro cycle hcycle
      rcases mem_cycles_reportCycle hcycle with hold | rfl
      · exact hs cycle hold
      · refine isIncludeCycle_dropWhile hnodup hchain hpath ?_
        intro last hlast
        rw [List.getLast?_concat, Option.mem_some_iff] at hlast
        exact hlast ▸ ⟨hentries _ List.mem_cons_self, htarget⟩
  | descend htarget hpath _ _ _ ihInner ihRest =>
      have hedge : IncludeEdge table _ _ := ⟨hentries _ List.mem_cons_self, htarget⟩
      refine ihRest (List.forall_mem_cons.mp hentries).2 hnodup hchain ?_
      exact ihInner (fun e he => fst_mem_of_mem_zipIdx he) (nodup_snoc hnodup hpath)
        (isChain_snoc hchain hedge) hs

theorem isIncludeCycle_of_mem_flattenAll :
    ∀ cycle ∈ (flattenAll table).cycles, IsIncludeCycle table cycle := by
  apply flattenAll_induction (P := fun _ s => ∀ cycle ∈ s.cycles, IsIncludeCycle table cycle)
  · intro cycle hcycle
    cases hcycle
  · intro before group s rules t _ hs hvisit
    cases hvisit with
    | known => exact hs
    | walk _ hwalk =>
        exact hwalk.isIncludeCycle (fun e he => fst_mem_of_mem_zipIdx he)
          (List.nodup_singleton group) (.singleton group) hs

theorem sameMembers_iff {a b : List String} :
    Flattening.sameMembers a b = true ↔ ∀ name, name ∈ a ↔ name ∈ b := by
  simp only [Flattening.sameMembers, Bool.and_eq_true, List.all_eq_true, List.contains_iff_mem]
  constructor
  · rintro ⟨hleft, hright⟩ name
    exact ⟨hleft name, hright name⟩
  · intro hsame
    exact ⟨fun name => (hsame name).mp, fun name => (hsame name).mpr⟩

/-- No two cycles that were met go through the same groups. -/
def Flattening.DistinctCycles (s : Flattening) : Prop :=
  s.cycles.Pairwise fun cycle other => ¬ ∀ name, name ∈ cycle ↔ name ∈ other

theorem Flattening.DistinctCycles.reportCycle {target : String} {index : Nat}
    (h : s.DistinctCycles) : (s.reportCycle path target group index).DistinctCycles := by
  unfold Flattening.reportCycle
  dsimp only
  split
  · exact h
  · rename_i hnew
    refine List.pairwise_cons.mpr ⟨fun other hother hsame => hnew ?_, h⟩
    exact List.any_eq_true.mpr ⟨other, hother, sameMembers_iff.mpr hsame⟩

theorem distinctCycles_flattenAll : (flattenAll table).DistinctCycles := by
  have hkept : Flattening.Kept Flattening.DistinctCycles :=
    { report := id
      reportCycle := fun _ hs => hs.reportCycle
      finish := id }
  exact flattenAll_preserves hkept List.Pairwise.nil

theorem reachable_of_mem_dropWhile {target name : String}
    (hchain : (path ++ [group]).IsChain (IncludeEdge table)) (hmem : target ∈ path ++ [group])
    (hname : name ∈ (path ++ [group]).dropWhile (· != target)) :
    Relation.ReflTransGen (IncludeEdge table) target name ∧
      Relation.ReflTransGen (IncludeEdge table) name group := by
  have hpairwise : (path ++ [group]).Pairwise (Relation.ReflTransGen (IncludeEdge table)) :=
    List.isChain_iff_pairwise.mp (hchain.imp fun _ _ => Relation.ReflTransGen.single)
  have hsuffix : (path ++ [group]).dropWhile (· != target) <:+ path ++ [group] :=
    List.dropWhile_suffix _
  constructor
  · obtain ⟨rest, hrest⟩ := List.head?_eq_some_iff.mp (head?_dropWhile_ne hmem)
    have hfrom := hpairwise.sublist hsuffix.sublist
    rw [hrest] at hfrom hname
    rcases List.mem_cons.mp hname with rfl | hname
    · exact .refl
    · exact (List.pairwise_cons.mp hfrom).1 name hname
  · rcases List.mem_append.mp (hsuffix.mem hname) with hpath | hlast
    · exact (List.pairwise_append.mp hpairwise).2.2 name hpath group (List.mem_singleton_self group)
    · rw [List.mem_singleton.mp hlast]

/-- Some groups are convex if whatever lies on a way between two of them is one of them. -/
def IsConvex (table : CheckedTable) (inside : String → Prop) : Prop :=
  ∀ a b name, inside a → inside b → Relation.ReflTransGen (IncludeEdge table) a name →
    Relation.ReflTransGen (IncludeEdge table) name b → inside name

/-- An include between two of some groups. -/
def EdgeInside (table : CheckedTable) (inside : String → Prop) (group target : String) : Prop :=
  inside group ∧ inside target ∧ IncludeEdge table group target

/-- No cycle was met that lies among some groups. -/
def Flattening.Misses (s : Flattening) (inside : String → Prop) : Prop :=
  ∀ cycle ∈ s.cycles, ∃ name ∈ cycle, ¬ inside name

theorem cycles_suffix_reportCycle (s : Flattening) (path : List String) (target group : String)
    (index : Nat) : s.cycles <:+ (s.reportCycle path target group index).cycles := by
  unfold Flattening.reportCycle
  dsimp only
  split
  · exact List.suffix_rfl
  · exact List.suffix_cons _ _

/-- A walk forgets no cycle. -/
theorem Walk.cycles_suffix (h : Walk table path group entries found s out t) :
    s.cycles <:+ t.cycles := by
  have hkept : Flattening.Kept fun u => s.cycles <:+ u.cycles :=
    { report := id
      reportCycle := fun _ hu => hu.trans (cycles_suffix_reportCycle _ _ _ _ _)
      finish := id }
  exact h.preserves hkept List.suffix_rfl

theorem Walk.misses (h : Walk table path group entries found s out t) {inside : String → Prop}
    (hmisses : t.Misses inside) : s.Misses inside :=
  fun cycle hcycle => hmisses cycle (h.cycles_suffix.mem hcycle)

theorem exists_sameMembers_reportCycle (s : Flattening) (path : List String)
    (target group : String) (index : Nat) :
    ∃ cycle ∈ (s.reportCycle path target group index).cycles,
      ∀ name, name ∈ path.dropWhile (· != target) ↔ name ∈ cycle := by
  unfold Flattening.reportCycle
  dsimp only
  split
  · rename_i hany
    obtain ⟨cycle, hcycle, hsame⟩ := List.any_eq_true.mp hany
    exact ⟨cycle, hcycle, sameMembers_iff.mp hsame⟩
  · exact ⟨_, List.mem_cons_self, fun name => Iff.rfl⟩

theorem cycles_reportCycle_ne_nil (s : Flattening) (path : List String) (target group : String)
    (index : Nat) : (s.reportCycle path target group index).cycles ≠ [] := by
  obtain ⟨cycle, hcycle, _⟩ := exists_sameMembers_reportCycle s path target group index
  exact List.ne_nil_of_mem hcycle

/-- An include that leads back to the path closes a cycle, and if both its ends are among convex groups,
so is the whole cycle. -/
theorem not_misses_reportCycle {inside : String → Prop} (hconvex : IsConvex table inside)
    (hchain : (path ++ [group]).IsChain (IncludeEdge table)) {target : String} {index : Nat}
    (hpath : target ∈ path ++ [group]) (hgroup : inside group) (htarget : inside target) :
    ¬ (s.reportCycle (path ++ [group]) target group index).Misses inside := by
  intro hmisses
  obtain ⟨cycle, hcycle, hsame⟩ :=
    exists_sameMembers_reportCycle s (path ++ [group]) target group index
  obtain ⟨name, hname, hout⟩ := hmisses cycle hcycle
  obtain ⟨hfrom, hto⟩ := reachable_of_mem_dropWhile hchain hpath ((hsame name).mpr hname)
  exact hout (hconvex target group name htarget hgroup hfrom hto)

theorem InEdgeOrder.append {edge : String → String → Prop} {groups : List String}
    (h : InEdgeOrder edge groups) (hgroup : ∀ target, edge group target → target ∈ groups) :
    InEdgeOrder edge (groups ++ [group]) := by
  intro before name after heq target hedge
  rcases List.eq_nil_or_concat after with rfl | ⟨after', last, rfl⟩
  · have hsplit : groups ++ [group] = before ++ [name] := heq
    obtain ⟨rfl, hname⟩ := List.append_inj' hsplit rfl
    cases hname
    exact hgroup target hedge
  · have hsplit : groups ++ [group] = (before ++ name :: after') ++ [last] := by
      simpa using heq
    obtain ⟨hgroups, _⟩ := List.append_inj' hsplit rfl
    exact h before name after' hgroups target hedge

section

variable {inside : String → Prop}

/-- A group may be finished once the groups that its entries include are, as far as they are among those
that count. -/
theorem InEdgeOrder.finish {rules : List CompiledRule}
    (h : InEdgeOrder (EdgeInside table inside) s.groups)
    (htargets : ∀ entry ∈ (entriesOf table group).zipIdx, ∀ target,
      EdgeInside table inside group target → entry.1 = .includeGroup target → target ∈ s.groups) :
    InEdgeOrder (EdgeInside table inside) (s.finish group rules).groups := by
  rw [Flattening.groups_finish]
  apply h.append
  intro target hedge
  obtain ⟨i, hi⟩ := List.mem_iff_getElem?.mp hedge.2.2.1
  exact htargets _ (List.mk_mem_zipIdx_iff_getElem?.mpr hi) target hedge rfl

/-- A walk that met no cycle among convex groups has finished those of them that its entries include, and
kept the order of the finished groups. -/
theorem Walk.inEdgeOrder (h : Walk table path group entries found s out t)
    (hconvex : IsConvex table inside)
    (hentries : ∀ entry ∈ entries, entry.1 ∈ entriesOf table group)
    (hchain : (path ++ [group]).IsChain (IncludeEdge table)) (hmisses : t.Misses inside) :
    (∀ entry ∈ entries, ∀ target, EdgeInside table inside group target →
        entry.1 = .includeGroup target → target ∈ t.groups) ∧
      (InEdgeOrder (EdgeInside table inside) s.groups →
        InEdgeOrder (EdgeInside table inside) t.groups) := by
  induction h with
  | done => exact ⟨by simp, id⟩
  | rule _ ih =>
      obtain ⟨htargets, horder⟩ := ih (List.forall_mem_cons.mp hentries).2 hchain hmisses
      exact ⟨by simpa using htargets, horder⟩
  | faulty _ ih =>
      obtain ⟨htargets, horder⟩ := ih (List.forall_mem_cons.mp hentries).2 hchain hmisses
      exact ⟨by simpa using htargets, horder⟩
  | default _ ih =>
      obtain ⟨htargets, horder⟩ := ih (List.forall_mem_cons.mp hentries).2 hchain hmisses
      exact ⟨by simpa using htargets, horder⟩
  | unknown htarget _ ih =>
      obtain ⟨htargets, horder⟩ := ih (List.forall_mem_cons.mp hentries).2 hchain hmisses
      refine ⟨List.forall_mem_cons.mpr ⟨?_, htargets⟩, horder⟩
      rintro name hedge ⟨⟩
      exact absurd hedge.2.2.2 htarget
  | cycle _ hpath hrest ih =>
      obtain ⟨htargets, horder⟩ := ih (List.forall_mem_cons.mp hentries).2 hchain hmisses
      refine ⟨List.forall_mem_cons.mpr ⟨?_, htargets⟩, fun hbefore => horder (by simpa using hbefore)⟩
      rintro name ⟨hgroup, hname, _⟩ ⟨⟩
      exact absurd (hrest.misses hmisses) (not_misses_reportCycle hconvex hchain hpath hgroup hname)
  | known _ _ hfinished hrest ih =>
      obtain ⟨htargets, horder⟩ := ih (List.forall_mem_cons.mp hentries).2 hchain hmisses
      refine ⟨List.forall_mem_cons.mpr ⟨?_, htargets⟩, horder⟩
      rintro name _ ⟨⟩
      exact hrest.groups_prefix.subset
        (List.mem_map_of_mem (f := Prod.fst) (mem_of_lookup_eq_some hfinished))
  | descend htarget _ _ _ hrest ihInner ihRest =>
      have hedge : IncludeEdge table _ _ := ⟨hentries _ List.mem_cons_self, htarget⟩
      obtain ⟨htargets, horder⟩ := ihRest (List.forall_mem_cons.mp hentries).2 hchain hmisses
      obtain ⟨hinnerTargets, hinnerOrder⟩ := ihInner (fun e he => fst_mem_of_mem_zipIdx he)
        (isChain_snoc hchain hedge) (hrest.misses hmisses)
      refine ⟨List.forall_mem_cons.mpr ⟨?_, htargets⟩, fun hbefore => horder ?_⟩
      · rintro name _ ⟨⟩
        exact hrest.groups_prefix.subset (by simp)
      · exact (hinnerOrder hbefore).finish hinnerTargets

theorem inEdgeOrder_flattenAll (hconvex : IsConvex table inside)
    (hmisses : (flattenAll table).Misses inside) :
    InEdgeOrder (EdgeInside table inside) (flattenAll table).groups := by
  have hall : (flattenAll table).Misses inside →
      InEdgeOrder (EdgeInside table inside) (flattenAll table).groups := by
    apply flattenAll_induction (P := fun _ s => s.Misses inside →
      InEdgeOrder (EdgeInside table inside) s.groups)
    · rintro - before name after heq
      simp [Flattening.groups] at heq
    · intro before group s rules t _ hs hvisit ht
      cases hvisit with
      | known => exact hs ht
      | walk _ hwalk =>
          obtain ⟨htargets, horder⟩ := hwalk.inEdgeOrder hconvex
            (fun e he => fst_mem_of_mem_zipIdx he) (.singleton group) ht
          exact (horder (hs (hwalk.misses ht))).finish htargets
  exact hall hmisses

end

/-- In such an order everything that a group leads to comes before it. -/
theorem InEdgeOrder.mem_of_transGen {edge : String → String → Prop} {groups : List String}
    (h : InEdgeOrder edge groups) {target : String} (hreach : Relation.TransGen edge group target) :
    ∀ before after, groups = before ++ group :: after → target ∈ before := by
  induction hreach with
  | single hedge => exact fun before after heq => h before group after heq _ hedge
  | tail _ hedge ih =>
      intro before after heq
      obtain ⟨earlier, later, rfl⟩ := List.append_of_mem (ih before after heq)
      have := h earlier _ (later ++ group :: after) (by simpa using heq) _ hedge
      exact List.mem_append_left _ this

theorem InEdgeOrder.acyclic {edge : String → String → Prop} {groups : List String}
    (h : InEdgeOrder edge groups) (hnodup : groups.Nodup) (hmem : group ∈ groups) :
    ¬ Relation.TransGen edge group group := by
  intro hcycle
  obtain ⟨before, after, heq⟩ := List.append_of_mem hmem
  have hbefore := h.mem_of_transGen hcycle before after heq
  rw [heq, List.nodup_append] at hnodup
  exact hnodup.2.2 group hbefore group List.mem_cons_self rfl

theorem mem_names_of_includeEdge {target : String} (h : IncludeEdge table group target) :
    group ∈ table.names := by
  by_contra hgroup
  have hnone := lookup_eq_none_iff_notMem_keys.mpr hgroup
  simp [IncludeEdge, entriesOf, hnone] at h

theorem isConvex_component (group : String) : IsConvex table (InComponent (IncludeEdge table) group) :=
  fun _ _ _ ha hb hfrom hto => ⟨ha.1.trans hfrom, hto.trans hb.2⟩

/-- A way from a component back into it never leaves it. -/
theorem transGen_inside_component {a b : String} (h : Relation.TransGen (IncludeEdge table) a b)
    (hfrom : Relation.ReflTransGen (IncludeEdge table) group a)
    (hto : Relation.ReflTransGen (IncludeEdge table) b group) :
    Relation.TransGen (EdgeInside table (InComponent (IncludeEdge table) group)) a b := by
  induction h with
  | single hedge => exact .single ⟨⟨hfrom, .head hedge hto⟩, ⟨hfrom.tail hedge, hto⟩, hedge⟩
  | tail hreach hedge ih =>
      have hmiddle := hfrom.trans hreach.to_reflTransGen
      exact (ih (.head hedge hto)).tail
        ⟨⟨hmiddle, .head hedge hto⟩, ⟨hmiddle.tail hedge, hto⟩, hedge⟩

/-- Some walk meets a cycle in every component that has one. -/
theorem exists_cycle_in_component (hnames : table.names.Nodup)
    (hcycle : Relation.TransGen (IncludeEdge table) group group) :
    ∃ cycle ∈ (flattenAll table).cycles, ∀ name ∈ cycle,
      InComponent (IncludeEdge table) group name := by
  by_contra hnone
  have hmisses : (flattenAll table).Misses (InComponent (IncludeEdge table) group) := by
    simpa [Flattening.Misses] using hnone
  have hgroup : group ∈ table.names := by
    obtain ⟨_, hedge, _⟩ := Relation.TransGen.head'_iff.mp hcycle
    exact mem_names_of_includeEdge hedge
  have hperm := perm_groups_flattenAll hnames
  exact (inEdgeOrder_flattenAll (isConvex_component group) hmisses).acyclic
    (hperm.nodup_iff.mpr hnames) (hperm.mem_iff.mpr hgroup)
    (transGen_inside_component hcycle .refl .refl)

/-- A cycle is met by some walk exactly when the include graph has one. -/
theorem cycles_flattenAll_eq_nil_iff (hnames : table.names.Nodup) :
    (flattenAll table).cycles = [] ↔
      ¬ ∃ group, Relation.TransGen (IncludeEdge table) group group := by
  constructor
  · rintro hnone ⟨group, hcycle⟩
    obtain ⟨cycle, hmem, _⟩ := exists_cycle_in_component hnames hcycle
    simp [hnone] at hmem
  · intro hacyclic
    apply List.eq_nil_iff_forall_not_mem.mpr
    intro cycle hcycle
    exact hacyclic (isIncludeCycle_of_mem_flattenAll cycle hcycle).transGen

/-- The list of groups that a report on a cycle names. -/
def Report.cycle? (r : Report) : Option (List String) :=
  match r.fault with
  | .circularInclude cycle => some cycle
  | _ => none

/-- A cycle is shown with its first group at its end again. -/
def closedCycle (cycle : List String) : List String :=
  cycle ++ cycle.head?.toList

/-- The reports on cycles are those on the cycles that were met, in the order in which they were. -/
def Flattening.ReportsCycles (s : Flattening) : Prop :=
  s.reports.filterMap Report.cycle? = s.cycles.reverse.map closedCycle

theorem Flattening.ReportsCycles.reportCycle {target : String} {index : Nat}
    (h : s.ReportsCycles) (hmem : target ∈ path) :
    (s.reportCycle path target group index).ReportsCycles := by
  unfold Flattening.reportCycle
  dsimp only
  split
  · exact h
  · unfold Flattening.ReportsCycles at h ⊢
    simp [Flattening.report, Report.atEntry, Report.cycle?, closedCycle, h,
      head?_dropWhile_ne hmem]

theorem Flattening.ReportsCycles.report {r : Report} (h : s.ReportsCycles) (hr : r.cycle? = none) :
    (s.report r).ReportsCycles := by
  unfold Flattening.ReportsCycles at h ⊢
  simp [Flattening.report, hr, h]

theorem reportsCycles_flattenAll : (flattenAll table).ReportsCycles := by
  have hkept : Flattening.Kept Flattening.ReportsCycles :=
    { report := fun hs => hs.report rfl
      reportCycle := fun hpath hs => hs.reportCycle hpath
      finish := id }
  exact flattenAll_preserves hkept rfl

theorem Report.isCircular_iff {r : Report} : r.isCircular ↔ ∃ cycle, r.cycle? = some cycle := by
  obtain ⟨fault, location⟩ := r
  cases fault <;> simp [Report.isCircular, Report.cycle?]

/-- A cycle is reported exactly when the include graph has one. -/
theorem exists_isCircular_iff (hnames : table.names.Nodup) :
    (∃ r ∈ (flattenAll table).reports, r.isCircular) ↔
      ∃ group, Relation.TransGen (IncludeEdge table) group group := by
  rw [← not_iff_not, ← cycles_flattenAll_eq_nil_iff hnames]
  have hreports : (flattenAll table).reports.filterMap Report.cycle? =
      (flattenAll table).cycles.reverse.map closedCycle := reportsCycles_flattenAll
  constructor
  · intro hnone
    have hnil : (flattenAll table).reports.filterMap Report.cycle? = [] := by
      rw [List.filterMap_eq_nil_iff]
      intro r hr
      cases hcycle : r.cycle? with
      | none => rfl
      | some cycle => exact absurd ⟨r, hr, Report.isCircular_iff.mpr ⟨cycle, hcycle⟩⟩ hnone
    simpa [hreports] using hnil
  · rintro hnil ⟨r, hr, hcircular⟩
    obtain ⟨cycle, hcycle⟩ := Report.isCircular_iff.mp hcircular
    rw [hnil, List.reverse_nil, List.map_nil, List.filterMap_eq_nil_iff] at hreports
    simp [hreports r hr] at hcycle

end

end ModalHighlight
