import ModalHighlight.Pattern.Words
import Mathlib.Data.List.Sort
import Mathlib.Data.List.TakeWhile
import Mathlib.Data.Char

/-!
The arrangement of words in a tree.  Whatever the words share and however the tree uses it, the tree holds each
of them as often as the list does, and none is tried after a shorter word that it goes on from.  Each form of tree keeps this for the words
that are put into it, and the recursion takes one form or another depending on how the words in order begin and
end.
-/

namespace ModalHighlight.Pattern

namespace Word

theorem le_cons_cons {a b : Char} {u v : Word} :
    le (a :: u) (b :: v) = true ↔ a < b ∨ a = b ∧ le u v = true := by
  simp [le]

theorem le_refl (u : Word) : le u u = true := by
  induction u with
  | nil => rfl
  | cons a u ih => exact le_cons_cons.mpr (.inr ⟨rfl, ih⟩)

theorem le_total (u v : Word) : le u v = true ∨ le v u = true := by
  induction u generalizing v with
  | nil => exact .inl rfl
  | cons a u ih =>
      cases v with
      | nil => exact .inr rfl
      | cons b v =>
          simp only [le_cons_cons]
          rcases lt_trichotomy a b with hlt | rfl | hlt
          · exact .inl (.inl hlt)
          · exact (ih v).imp (fun h => .inr ⟨rfl, h⟩) fun h => .inr ⟨rfl, h⟩
          · exact .inr (.inl hlt)

theorem le_trans {u v w : Word} (huv : le u v = true) (hvw : le v w = true) : le u w = true := by
  induction u generalizing v w with
  | nil => rfl
  | cons a u ih =>
      cases v with
      | nil => cases huv
      | cons b v =>
          cases w with
          | nil => cases hvw
          | cons c w =>
              rw [le_cons_cons] at huv hvw ⊢
              rcases huv with hab | ⟨rfl, huv⟩
              · rcases hvw with hbc | ⟨rfl, _⟩
                · exact .inl (hab.trans hbc)
                · exact .inl hab
              · exact hvw.imp_right fun ⟨hac, hvw⟩ => ⟨hac, ih huv hvw⟩

theorem le_append_left {s u v : Word} : le (s ++ u) (s ++ v) = le u v := by
  induction s with
  | nil => rfl
  | cons a s ih => simp [le, ih]

end Word

/-- Words stand in order. -/
def Sorted (words : List Word) : Prop :=
  words.Pairwise fun u v => Word.le u v = true

theorem insertWord_eq_orderedInsert (w : Word) (words : List Word) :
    insertWord w words = words.orderedInsert (fun u v => Word.le u v = true) w := by
  induction words with
  | nil => rfl
  | cons v rest ih => rw [insertWord, List.orderedInsert_cons, ih]

theorem sortWords_eq_insertionSort (words : List Word) :
    sortWords words = words.insertionSort fun u v => Word.le u v = true := by
  induction words with
  | nil => rfl
  | cons w rest ih =>
      rw [List.insertionSort_cons, ← ih, ← insertWord_eq_orderedInsert]
      rfl

theorem sortWords_perm (words : List Word) : (sortWords words).Perm words := by
  rw [sortWords_eq_insertionSort]
  exact List.perm_insertionSort _ words

theorem sorted_sortWords (words : List Word) : Sorted (sortWords words) := by
  have htotal : Std.Total fun u v => Word.le u v = true := ⟨Word.le_total⟩
  have htrans : IsTrans Word fun u v => Word.le u v = true := ⟨fun _ _ _ => Word.le_trans⟩
  rw [sortWords_eq_insertionSort]
  exact List.pairwise_insertionSort _ words

theorem commonStart_prefix_left (u v : Word) : commonStart u v <+: u := by
  induction u generalizing v with
  | nil => exact List.prefix_rfl
  | cons a u ih =>
      cases v with
      | nil => exact List.nil_prefix
      | cons b v =>
          rw [commonStart]
          split
          · exact (List.prefix_cons_inj a).mpr (ih v)
          · exact List.nil_prefix

theorem commonStart_prefix_right (u v : Word) : commonStart u v <+: v := by
  induction u generalizing v with
  | nil => exact List.nil_prefix
  | cons a u ih =>
      cases v with
      | nil => exact List.prefix_rfl
      | cons b v =>
          rw [commonStart]
          split
          · rename_i hab
            exact hab ▸ (List.prefix_cons_inj a).mpr (ih v)
          · exact List.nil_prefix

theorem sharedStart_cons_cons (u v : Word) (rest : List Word) :
    sharedStart (u :: v :: rest) = commonStart u (sharedStart (v :: rest)) := rfl

theorem sharedStart_prefix_of_mem {words : List Word} {w : Word} (h : w ∈ words) : sharedStart words <+: w := by
  induction words with
  | nil => cases h
  | cons u rest ih =>
      cases rest with
      | nil => exact List.mem_singleton.mp h ▸ List.prefix_rfl
      | cons v rest =>
          rw [sharedStart_cons_cons]
          rcases List.mem_cons.mp h with rfl | h
          · exact commonStart_prefix_left _ _
          · exact (commonStart_prefix_right _ _).trans (ih h)

theorem sharedEnding_suffix_of_mem {words : List Word} {w : Word} (h : w ∈ words) : sharedEnding words <:+ w := by
  have hbegins : sharedStart (words.map List.reverse) <+: w.reverse :=
    sharedStart_prefix_of_mem (List.mem_map_of_mem h)
  rw [sharedEnding, ← List.reverse_prefix, List.reverse_reverse]
  exact hbegins

/-- Words that begin with the same character share a start. -/
theorem head?_sharedStart {a : Char} {words : List Word} (hne : words ≠ [])
    (h : ∀ w ∈ words, w.head? = some a) : (sharedStart words).head? = some a := by
  induction words with
  | nil => exact absurd rfl hne
  | cons u rest ih =>
      obtain ⟨hu, hrest⟩ := List.forall_mem_cons.mp h
      cases rest with
      | nil => exact hu
      | cons v rest =>
          have hshared := ih (List.cons_ne_nil _ _) hrest
          rw [sharedStart_cons_cons]
          obtain ⟨u', rfl⟩ := List.head?_eq_some_iff.mp hu
          obtain ⟨v', hv'⟩ := List.head?_eq_some_iff.mp hshared
          rw [hv', commonStart, if_pos rfl, List.head?_cons]

namespace WordTree

/-- The words of a tree, in the order in which its pattern tries them. -/
def words : WordTree → List Word
  | .none => []
  | word w => [w]
  | orEmpty longer => longer.words ++ [[]]
  | orChars longer chars => longer.words ++ chars.map ([·])
  | after start rest => rest.words.map (start ++ ·)
  | before rest ending => rest.words.map (· ++ ending)
  | either first second => first.words ++ second.words

/-- Every part of a tree holds a word.  Only beside single characters may there be no others. -/
def Full : WordTree → Prop
  | .none => False
  | word _ => True
  | orEmpty longer => longer.Full
  | orChars longer chars => chars ≠ [] ∧ (longer = .none ∨ longer.Full)
  | after _ rest => rest.Full
  | before rest _ => rest.Full
  | either first second => first.Full ∧ second.Full

/-- A word that goes on from one tried before it is that word again. -/
def LongestFirst (words : List Word) : Prop :=
  words.Pairwise fun u v => u <+: v → u = v

/-- A tree holds given words, each as often as it is given, and tries longer ones first. -/
structure Arranges (t : WordTree) (words : List Word) : Prop where
  full : t.Full
  perm : t.words.Perm words
  longestFirst : LongestFirst t.words

variable {t first second : WordTree} {ws us vs : List Word}

theorem Arranges.of_perm (h : t.Arranges us) (hperm : us.Perm vs) : t.Arranges vs :=
  ⟨h.full, h.perm.trans hperm, h.longestFirst⟩

theorem arranges_word (w : Word) : (word w).Arranges [w] :=
  ⟨trivial, .refl _, List.pairwise_singleton _ _⟩

theorem Arranges.orEmpty (h : t.Arranges ws) : (orEmpty t).Arranges ([] :: ws) where
  full := h.full
  perm := (h.perm.append_right _).trans (List.perm_append_singleton [] ws)
  longestFirst := by
    refine List.pairwise_append.mpr ⟨h.longestFirst, List.pairwise_singleton _ _, ?_⟩
    intro u hu v hv hbegins
    cases List.mem_singleton.mp hv
    exact List.prefix_nil.mp hbegins

/-- Single characters come after all words that are longer. -/
theorem arranges_orChars {chars : List Char} (hfull : t = .none ∨ t.Full) (hperm : t.words.Perm ws)
    (hlongest : LongestFirst t.words) (hlong : ∀ w ∈ ws, 1 < w.length) (hne : chars ≠ []) :
    (orChars t chars).Arranges (ws ++ chars.map ([·])) where
  full := ⟨hne, hfull⟩
  perm := hperm.append_right _
  longestFirst := by
    refine List.pairwise_append.mpr ⟨hlongest, ?_, ?_⟩
    · refine List.pairwise_map.mpr (List.pairwise_of_forall fun a b hbegins => ?_)
      rw [(List.cons_prefix_cons.mp hbegins).1]
    · intro u hu v hv hbegins
      obtain ⟨c, _, rfl⟩ := List.mem_map.mp hv
      have hlength := hlong u (hperm.mem_iff.mp hu)
      exact absurd hbegins.length_le (Nat.not_le.mpr hlength)

theorem Arranges.after (h : t.Arranges ws) (start : Word) :
    (after start t).Arranges (ws.map (start ++ ·)) where
  full := h.full
  perm := h.perm.map _
  longestFirst := List.pairwise_map.mpr (h.longestFirst.imp fun hsame hbegins =>
    congrArg (start ++ ·) (hsame ((List.prefix_append_right_inj start).mp hbegins)))

/-- With the same ending, a word goes on from another only if it does so without. -/
theorem Arranges.before (h : t.Arranges ws) (ending : Word) :
    (before t ending).Arranges (ws.map (· ++ ending)) where
  full := h.full
  perm := h.perm.map _
  longestFirst := by
    refine List.pairwise_map.mpr (h.longestFirst.imp fun {u v} hsame hbegins =>
      congrArg (· ++ ending) (hsame ?_))
    have hlength : u.length ≤ v.length := by
      simpa using hbegins.length_le
    exact List.prefix_of_prefix_length_le ((List.prefix_append u ending).trans hbegins)
      (List.prefix_append v ending) hlength

theorem Arranges.either (hfirst : first.Arranges us) (hsecond : second.Arranges vs)
    (hnot : ∀ u ∈ us, ∀ v ∈ vs, ¬ u <+: v) : (either first second).Arranges (us ++ vs) where
  full := ⟨hfirst.full, hsecond.full⟩
  perm := hfirst.perm.append hsecond.perm
  longestFirst := List.pairwise_append.mpr ⟨hfirst.longestFirst, hsecond.longestFirst,
    fun u hu v hv hbegins =>
      absurd hbegins (hnot u (hfirst.perm.mem_iff.mp hu) v (hsecond.perm.mem_iff.mp hv))⟩

end WordTree

/-- What the number of steps is counted by. -/
def size (words : List Word) : Nat :=
  words.flatten.length + words.length

/-- The rest of a list of words that begins behind those with the same first character holds no other such word,
if the words are in order. -/
theorem head?_ne_of_mem_dropWhile {a : Char} {words : List Word} (hsorted : Sorted words)
    (hfirst : ∀ w ∈ words, ∃ b u, w = b :: u ∧ a ≤ b) :
    ∀ w ∈ words.dropWhile (fun w => w.head? == some a), w.head? ≠ some a := by
  induction words with
  | nil => intro w hw; cases hw
  | cons v rest ih =>
      obtain ⟨hv, hrest⟩ := List.pairwise_cons.mp hsorted
      obtain ⟨⟨b, u, rfl, hab⟩, hmore⟩ := List.forall_mem_cons.mp hfirst
      rw [List.dropWhile_cons]
      split
      · exact ih hrest hmore
      · rename_i hne
        have hlt : a < b := lt_of_le_of_ne hab fun heq => hne (by simp [heq])
        intro w hw
        rcases List.mem_cons.mp hw with rfl | hw
        · simp [hlt.ne']
        · obtain ⟨c, u', rfl, _⟩ := hmore w hw
          have hbc : b ≤ c := (Word.le_cons_cons.mp (hv _ hw)).elim le_of_lt fun h => le_of_eq h.1
          simp [(hlt.trans_le hbc).ne']

theorem size_append (us vs : List Word) : size (us ++ vs) = size us + size vs := by
  simp only [size, List.flatten_append, List.length_append]
  omega

theorem size_pos {words : List Word} (h : words ≠ []) : 0 < size words :=
  Nat.lt_of_lt_of_le (List.length_pos_iff.mpr h) (Nat.le_add_left _ _)

theorem size_eq_of_perm {us vs : List Word} (h : us.Perm vs) : size us = size vs := by
  simp only [size, h.flatten.length_eq, h.length_eq]

theorem size_map {f : Word → Word} {k : Nat} (h : ∀ w, (f w).length = w.length + k) (words : List Word) :
    size (words.map f) = size words + k * words.length := by
  induction words with
  | nil => rfl
  | cons w rest ih =>
      simp only [size, List.map_cons, List.flatten_cons, List.length_append, List.length_cons, h,
        Nat.mul_add] at ih ⊢
      omega

theorem eq_map_drop {start : Word} {words : List Word} (h : ∀ w ∈ words, start <+: w) :
    words = (words.map (·.drop start.length)).map (start ++ ·) := by
  rw [List.map_map]
  exact ((List.map_congr_left fun w hw => List.prefix_iff_eq_append.mp (h w hw)).trans (List.map_id words)).symm

theorem eq_map_take {ending : Word} {words : List Word} (h : ∀ w ∈ words, ending <:+ w) :
    words = (words.map fun w => w.take (w.length - ending.length)).map (· ++ ending) := by
  rw [List.map_map]
  exact ((List.map_congr_left fun w hw => List.suffix_iff_eq_append.mp (h w hw)).trans (List.map_id words)).symm

theorem eq_map_singleton_flatten {words : List Word} (h : ∀ w ∈ words, w.length = 1) :
    words = words.flatten.map ([·]) := by
  induction words with
  | nil => rfl
  | cons w rest ih =>
      obtain ⟨hw, hrest⟩ := List.forall_mem_cons.mp h
      obtain ⟨c, rfl⟩ := List.length_eq_one_iff.mp hw
      rw [List.flatten_cons, List.map_append, ← ih hrest]
      rfl

theorem arrange_nil (n : Nat) : arrange n [] = .none := by
  cases n <;> rfl

open WordTree

section

variable {n : Nat} {words : List Word}

/-- All lists of words in order that are small enough are arranged. -/
def ArrangesBelow (n : Nat) : Prop :=
  ∀ words : List Word, words ≠ [] → Sorted words → size words < n → (arrange n words).Arranges words

/-- Beside single characters there may be no words left to arrange. -/
theorem arranges_others (ih : ArrangesBelow n) (hsorted : Sorted words) (hsize : size words < n) :
    (arrange n words = .none ∨ (arrange n words).Full) ∧
      (arrange n words).words.Perm words ∧ LongestFirst (arrange n words).words := by
  by_cases hnil : words = []
  · rw [hnil, arrange_nil]
    exact ⟨.inl rfl, .refl _, .nil⟩
  · obtain ⟨hfull, hperm, hlongest⟩ := ih words hnil hsorted hsize
    exact ⟨.inr hfull, hperm, hlongest⟩

/-- Words of one character are taken out together. -/
theorem arranges_singles (ih : ArrangesBelow n) (hne : [] ∉ words) (hsorted : Sorted words)
    (hsize : size words < n + 1) (hsingle : 1 < (words.filter (·.length = 1)).length) :
    (orChars (arrange n (words.filter (·.length ≠ 1)))
      (words.filter (·.length = 1)).flatten).Arranges words := by
  have hsplit : (words.filter (·.length ≠ 1) ++ words.filter (·.length = 1)).Perm words := by
    simpa using List.perm_append_comm.trans (List.filter_append_perm (·.length = 1) words)
  have hone : ∀ w ∈ words.filter (·.length = 1), w.length = 1 := by simp
  have hlong : ∀ w ∈ words.filter (·.length ≠ 1), 1 < w.length := by
    intro w hw
    obtain ⟨hmem, hlength⟩ := List.mem_filter.mp hw
    have hpos : 0 < w.length := List.length_pos_iff.mpr fun hnil => hne (hnil ▸ hmem)
    have hother : w.length ≠ 1 := by simpa using hlength
    omega
  generalize hothers : words.filter (·.length ≠ 1) = others at hsplit hlong
  generalize words.filter (·.length = 1) = singles at hsingle hsplit hone
  have hchars := eq_map_singleton_flatten hone
  have hsmaller : size others < n := by
    have hwhole := (size_append others singles).symm.trans (size_eq_of_perm hsplit)
    have hsome : singles ≠ [] := List.length_pos_iff.mp (Nat.zero_lt_of_lt hsingle)
    have hpos := size_pos hsome
    omega
  have hnonempty : singles.flatten ≠ [] := by
    intro hnil
    rw [hchars, hnil] at hsingle
    cases hsingle
  have hsub : others.Sublist words := hothers ▸ List.filter_sublist
  obtain ⟨hfull, hperm, hlongest⟩ := arranges_others ih (hsorted.sublist hsub) hsmaller
  refine (arranges_orChars hfull hperm hlongest hlong hnonempty).of_perm ?_
  rwa [← hchars]

/-- A shared start is put before what follows it. -/
theorem arranges_tails (ih : ArrangesBelow n) (hne : words ≠ []) (hsorted : Sorted words)
    (hsize : size words < n + 1) (hstart : sharedStart words ≠ []) :
    (after (sharedStart words)
      (arrange n (words.map (·.drop (sharedStart words).length)))).Arranges words := by
  have hbegins : ∀ w ∈ words, sharedStart words <+: w := fun w hw => sharedStart_prefix_of_mem hw
  generalize sharedStart words = start at hstart hbegins ⊢
  have hwords := eq_map_drop hbegins
  generalize words.map (·.drop start.length) = tails at hwords ⊢
  subst hwords
  have htails : tails ≠ [] := mt List.map_eq_nil_iff.mpr hne
  have hsmaller : size tails < n := by
    have hmap := size_map (f := (start ++ ·)) (k := start.length)
      (fun w => by rw [List.length_append, Nat.add_comm]) tails
    have hpos := Nat.mul_pos (List.length_pos_iff.mpr hstart) (List.length_pos_iff.mpr htails)
    omega
  refine (ih tails htails ?_ hsmaller).after start
  exact (List.pairwise_map.mp hsorted).imp fun h => Word.le_append_left ▸ h

/-- A shared ending is put behind what precedes it, which has to be put in order again. -/
theorem arranges_heads (ih : ArrangesBelow n) (hne : words ≠ []) (hsize : size words < n + 1)
    (hending : sharedEnding words ≠ []) :
    (before (arrange n (sortWords (words.map fun w => w.take (w.length - (sharedEnding words).length))))
      (sharedEnding words)).Arranges words := by
  have hends : ∀ w ∈ words, sharedEnding words <:+ w := fun w hw => sharedEnding_suffix_of_mem hw
  generalize sharedEnding words = ending at hending hends ⊢
  have hwords := eq_map_take hends
  generalize (words.map fun w => w.take (w.length - ending.length)) = heads at hwords ⊢
  subst hwords
  have hheads : heads ≠ [] := mt List.map_eq_nil_iff.mpr hne
  have hperm := sortWords_perm heads
  have hsmaller : size (sortWords heads) < n := by
    have hmap := size_map (f := (· ++ ending)) (k := ending.length)
      (fun w => List.length_append) heads
    have hpos := Nat.mul_pos (List.length_pos_iff.mpr hending) (List.length_pos_iff.mpr hheads)
    have hsame := size_eq_of_perm hperm
    omega
  have hsorted : sortWords heads ≠ [] := fun hnil => hheads (List.nil_perm.mp (hnil ▸ hperm))
  exact ((ih (sortWords heads) hsorted (sorted_sortWords heads) hsmaller).before ending).of_perm (hperm.map _)

/-- Words that share no start are parted by their first character. -/
theorem arranges_parts (ih : ArrangesBelow n) {a : Char} {u : Word} {more : List Word}
    (hwords : words = (a :: u) :: more) (hsorted : Sorted words) (hne : [] ∉ words) (hsize : size words < n + 1) (hstart : sharedStart words = []) :
    (either (arrange n (words.takeWhile fun w => w.head? == some a))
      (arrange n (words.dropWhile fun w => w.head? == some a))).Arranges words := by
  have hsplit := List.takeWhile_append_dropWhile (p := fun w : Word => w.head? == some a) (l := words)
  have halike : ∀ w ∈ words.takeWhile (fun w => w.head? == some a), w.head? = some a :=
    fun w hw => by simpa using List.mem_takeWhile_imp hw
  have hfirst : ∀ w ∈ words, ∃ b v, w = b :: v ∧ a ≤ b := by
    subst hwords
    intro w hw
    obtain ⟨b, v, rfl⟩ := List.exists_cons_of_ne_nil fun hnil => hne (hnil ▸ hw)
    refine ⟨b, v, rfl, ?_⟩
    rcases List.mem_cons.mp hw with heq | hw
    · exact le_of_eq (List.cons.inj heq).1.symm
    · exact (Word.le_cons_cons.mp ((List.pairwise_cons.mp hsorted).1 _ hw)).elim le_of_lt
        fun h => le_of_eq h.1
  have hother := head?_ne_of_mem_dropWhile hsorted hfirst
  have htake : words.takeWhile (fun w => w.head? == some a) ≠ [] := by
    simp [hwords]
  have hdrop : words.dropWhile (fun w => w.head? == some a) ≠ [] := by
    intro hnil
    rw [hnil, List.append_nil] at hsplit
    have hshared := head?_sharedStart (by simp [hwords]) fun w hw => halike w (hsplit.symm ▸ hw)
    rw [hstart] at hshared
    cases hshared
  have hsizes : size (words.takeWhile fun w => w.head? == some a) +
      size (words.dropWhile fun w => w.head? == some a) = size words := by
    rw [← size_append, hsplit]
  have htakePos := size_pos htake
  have hdropPos := size_pos hdrop
  have harranges := (ih _ htake (hsorted.sublist (List.takeWhile_sublist _)) (by omega)).either
    (ih _ hdrop (hsorted.sublist (List.dropWhile_sublist _)) (by omega)) (fun v hv w hw hbegins => ?_)
  · rwa [hsplit] at harranges
  · obtain ⟨v', rfl⟩ := List.head?_eq_some_iff.mp (halike v hv)
    obtain ⟨w', rfl⟩ := hbegins
    exact hother _ hw rfl

/-- The tree of words in order holds these words, and tries longer ones first. -/
theorem arranges_arrange (hne : words ≠ []) (hsorted : Sorted words) (hsize : size words < n) :
    (arrange n words).Arranges words := by
  induction n generalizing words with
  | zero => cases hsize
  | succ n ih =>
      have hbelow : ArrangesBelow n := fun _ hne hsorted hsize => ih hne hsorted hsize
      match words with
      | [w] => exact arranges_word w
      | [] :: second :: more =>
          refine (ih (List.cons_ne_nil _ _) (List.pairwise_cons.mp hsorted).2 ?_).orEmpty
          exact Nat.lt_of_succ_lt_succ hsize
      | (a :: u) :: second :: more =>
          have hnil : [] ∉ (a :: u) :: second :: more := by
            intro hmem
            rcases List.mem_cons.mp hmem with heq | hmem
            · cases heq
            · exact Bool.false_ne_true ((List.pairwise_cons.mp hsorted).1 _ hmem)
          simp only [arrange]
          split
          · rename_i hsingles
            exact arranges_singles hbelow hnil hsorted hsize hsingles.2
          · split
            · rename_i hstart
              exact arranges_tails hbelow hne hsorted hsize hstart
            · rename_i hstart
              split
              · rename_i hending
                exact arranges_heads hbelow hne hsize hending
              · exact arranges_parts hbelow rfl hsorted hnil hsize (not_not.mp hstart)

/-- The tree of a list of words holds each of them, and tries longer ones first. -/
theorem arranges_ofWords {items : List String} (hne : items ≠ []) :
    (ofWords items).Arranges (items.map String.toList) := by
  have hperm := sortWords_perm (items.map String.toList)
  have hsorted : sortWords (items.map String.toList) ≠ [] :=
    fun hnil => hne (List.map_eq_nil_iff.mp (List.nil_perm.mp (hnil ▸ hperm)))
  exact (arranges_arrange hsorted (sorted_sortWords _) (Nat.lt_succ_self _)).of_perm hperm

end

end ModalHighlight.Pattern
