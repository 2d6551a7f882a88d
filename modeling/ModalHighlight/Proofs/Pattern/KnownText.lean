import ModalHighlight.Proofs.Pattern.Ways

/-!
Matches in known text.  A node takes some characters before others if it reaches the end of these characters
wherever they stand before the others, and refuses characters if it fails wherever they stand.  What follows is
always part of the text that is known, so what is taken one after another can be put together.
-/

namespace ModalHighlight.Pattern

/-- The last character is part of a word. -/
def EndsInWord (chars : List Char) : Prop :=
  ∃ c ∈ chars.getLast?, Text.isWord c.toNat = true

theorem EndsInWord.append {chars : List Char} (h : EndsInWord chars) (before : List Char) :
    EndsInWord (before ++ chars) := by
  obtain ⟨c, hc, hword⟩ := h
  exact ⟨c, by rw [List.getLast?_append, hc]; rfl, hword⟩

namespace Node

/-- The node reaches the end of the characters, wherever they stand before the rest of a text. -/
def TakesBefore (node : Node) (chars rest : List Char) : Prop :=
  ∀ (text : Array Char) pos, text.toList.drop pos = chars ++ rest → node.Reaches text pos (pos + chars.length)

/-- The node fails wherever a text ends with the characters. -/
def Refuses (node : Node) (chars : List Char) : Prop :=
  ∀ (text : Array Char) pos, text.toList.drop pos = chars → node.Fails text pos

variable {node first second others body : Node} {test : CharTest} {c : Char} {chars more rest : List Char}
  {min : Nat} {max : Option Nat}

theorem TakesBefore.char (h : test.holds c.toNat = true) : (Node.char test).TakesBefore [c] rest := by
  intro text pos hdrop
  refine .char ?_
  rw [testAt_of_getElem? (getElem?_eq_head? hdrop), h]

theorem TakesBefore.cat (hfirst : first.TakesBefore chars (more ++ rest)) (hsecond : second.TakesBefore more rest) :
    (Node.cat first second).TakesBefore (chars ++ more) rest := by
  intro text pos hdrop
  rw [List.append_assoc] at hdrop
  have hmore : text.toList.drop (pos + chars.length) = more ++ rest := by
    rw [← List.drop_drop, hdrop, List.drop_left]
  rw [List.length_append, ← Nat.add_assoc]
  exact (hfirst text pos hdrop).cat (hsecond text _ hmore)

theorem TakesBefore.alt_first (h : first.TakesBefore chars rest) :
    (Node.alt first others).TakesBefore chars rest :=
  fun text pos hdrop => (h text pos hdrop).alt_first

theorem TakesBefore.alt_others (hfirst : first.Refuses (chars ++ rest)) (hothers : others.TakesBefore chars rest) :
    (Node.alt first others).TakesBefore chars rest :=
  fun text pos hdrop => .alt_others (hfirst text pos hdrop) (hothers text pos hdrop)

theorem TakesBefore.option (h : body.TakesBefore chars rest) :
    (Node.repeatNode body 0 (some 1) .greedy).TakesBefore chars rest :=
  fun text pos hdrop => (h text pos hdrop).option

theorem TakesBefore.option_none (h : body.Refuses rest) :
    (Node.repeatNode body 0 (some 1) .greedy).TakesBefore [] rest :=
  fun text pos hdrop => .option_none (h text pos hdrop)

/-- A greedy repetition takes all characters up to one that it does not know. -/
theorem TakesBefore.repeatChar (hchars : ∀ c ∈ chars, test.holds c.toNat = true)
    (hrest : ∀ c ∈ rest.head?, test.holds c.toNat = false) (hmin : min ≤ chars.length)
    (hmax : ∀ m ∈ max, chars.length ≤ m) : (Node.repeatChar test min max .greedy).TakesBefore chars rest := by
  intro text pos hdrop
  refine .repeatChar (countWhile_of_drop hdrop hchars hrest ?_) hmin
  have hroom : chars.length ≤ text.size - pos := by
    have hlength := congrArg List.length hdrop
    rw [List.length_drop, Array.length_toList, List.length_append] at hlength
    omega
  cases max with
  | none => exact hroom
  | some m => exact Nat.le_min.mpr ⟨hmax m rfl, hroom⟩

/-- A word ends before a character that is not part of it. -/
theorem TakesBefore.wordEnd (h : node.TakesBefore chars rest) (hlast : EndsInWord chars)
    (hrest : ∀ c ∈ rest.head?, Text.isWord c.toNat = false) :
    (Node.cat node (.anchor (.wordBoundary false))).TakesBefore chars rest := by
  intro text pos hdrop
  obtain ⟨c, hc, hword⟩ := hlast
  obtain ⟨before, rfl⟩ := List.getLast?_eq_some_iff.mp hc
  refine (h text pos hdrop).cat (.anchor ?_)
  rw [List.append_assoc] at hdrop
  have hbefore : text.toList.drop (pos + before.length) = c :: rest := by
    rw [← List.drop_drop, hdrop, List.drop_left]
    rfl
  have hafter : text.toList.drop (pos + before.length + 1) = rest := by
    rw [← List.drop_drop, hbefore]
    rfl
  have hnext : rest.head?.any (fun c => Text.isWord c.toNat) = false := by
    cases hhead : rest.head? with
    | none => rfl
    | some c => exact hrest c hhead
  have hthere := wordAt_of_drop hbefore
  rw [List.head?_cons, Option.any_some, hword] at hthere
  rw [List.length_append, List.length_singleton, ← Nat.add_assoc]
  simp [Anchor.holds, atWordBoundary, hthere, wordAt_of_drop hafter, hnext]

theorem Refuses.never : Node.never.Refuses chars := fun _ _ _ => .never

theorem Refuses.char (h : ∀ c ∈ chars.head?, test.holds c.toNat = false) : (Node.char test).Refuses chars :=
  fun _ _ hdrop => .char (testAt_eq_false_of_drop hdrop h)

theorem Refuses.cat_first (h : first.Refuses chars) : (Node.cat first second).Refuses chars :=
  fun text pos hdrop => (h text pos hdrop).cat_first

theorem Refuses.alt (hfirst : first.Refuses chars) (hothers : others.Refuses chars) :
    (Node.alt first others).Refuses chars :=
  fun text pos hdrop => (hfirst text pos hdrop).alt (hothers text pos hdrop)

theorem Refuses.cat_char (h : second.Refuses chars.tail) : (Node.cat (.char test) second).Refuses chars := by
  intro text pos hdrop
  refine .cat_char (h text (pos + 1) ?_)
  rw [← hdrop, List.tail_drop]

/-- Behind a repetition a node fails if it does so wherever the repetition can end. -/
theorem Refuses.cat_repeatChar (hrest : ∀ c ∈ rest.head?, test.holds c.toNat = false)
    (h : ∀ i ≤ chars.length, min ≤ i → second.Refuses ((chars ++ rest).drop i)) :
    (Node.cat (.repeatChar test min max .greedy) second).Refuses (chars ++ rest) := by
  intro text pos hdrop
  refine .cat_repeatChar fun i hi hmini => ?_
  refine h i (Nat.le_trans hi (countWhile_le_of_drop hdrop hrest _)) hmini text (pos + i) ?_
  rw [← List.drop_drop, hdrop]

end Node

end ModalHighlight.Pattern
