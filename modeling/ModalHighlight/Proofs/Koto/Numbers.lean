import ModalHighlight.Proofs.Koto.Rules
import ModalHighlight.Proofs.Koto.Strings
import ModalHighlight.Proofs.Pattern.KnownText

/-!
Numbers.  Every numeral, with or without a minus sign, is one token, in lines of numerals with blanks between
them.  A numeral has the form of one of the rules of numbers; this rule takes the numeral as a whole, as it
stands before a blank or the end of the line, and the rules before it refuse what stands there.
-/

namespace ModalHighlight.Koto

open Pattern

def decimalChars : List Char := "0123456789".toList

/-- Digits of a kind, at least one. -/
structure Digits (allowed : List Char) where
  chars : List Char
  ne_nil : chars ≠ []
  subset : chars ⊆ allowed

/-- A base that is told by a letter. -/
inductive Radix
  | hexadecimal
  | octal
  | binary
deriving Repr, DecidableEq

def Radix.letter : Radix → Char
  | hexadecimal => 'x'
  | octal => 'o'
  | binary => 'b'

/-- The digits of a base. -/
def Radix.digitChars : Radix → List Char
  | hexadecimal => "0123456789abcdefABCDEF".toList
  | octal => "01234567".toList
  | binary => "01".toList

/-- An exponent, with or without a sign. -/
structure Exponent where
  sign : List Char
  sign_mem : sign ∈ [[], ['+'], ['-']]
  digits : Digits decimalChars

def Exponent.chars (e : Exponent) : List Char :=
  'e' :: (e.sign ++ e.digits.chars)

/-- A numeral without a minus sign. -/
inductive Numeral
  | prefixed (radix : Radix) (digits : Digits radix.digitChars)
  | integer (whole : Digits decimalChars)
  | fraction (whole part : Digits decimalChars) (exponent : Option Exponent)
  | power (whole : Digits decimalChars) (exponent : Exponent)

def Numeral.chars : Numeral → List Char
  | prefixed radix digits => '0' :: radix.letter :: digits.chars
  | integer whole => whole.chars
  | fraction whole part exponent =>
      whole.chars ++ '.' :: (part.chars ++ (exponent.map Exponent.chars).getD [])
  | power whole exponent => whole.chars ++ exponent.chars

/-- A numeral with or without a minus sign. -/
structure Literal where
  negative : Bool
  numeral : Numeral

def Literal.minus (l : Literal) : List Char :=
  if l.negative then ['-'] else []

def Literal.chars (l : Literal) : List Char :=
  l.minus ++ l.numeral.chars

/-- Literals with single blanks between them. -/
def spaced (literals : List Literal) : List Char :=
  List.intercalate [' '] (literals.map Literal.chars)

/-- The parts of such a text: the literals, and the blanks between them. -/
def literalParts (literals : List Literal) : List (String × List Char) :=
  (literals.map fun l => (TokenKind.number, l.chars)).intersperse (textKind, [' '])

/-- What follows a numeral: nothing, or a blank. -/
def EndsNumber (rest : List Char) : Prop :=
  ∀ c ∈ rest.head?, c = ' '

/-- The class of the digits of a base. -/
def Radix.items : Radix → List ClassItem
  | .hexadecimal => [.range 48 57, .range 97 102, .range 65 70]
  | .octal => [.range 48 55]
  | .binary => [.code 48, .code 49]

theorem holds_of_mem_digitChars {radix : Radix} :
    ∀ c ∈ radix.digitChars, (CharTest.oneOf radix.items .exact false).holds c.toNat = true := by
  cases radix <;> exact List.all_eq_true.mp (by decide)

theorem holds_of_mem_decimalChars :
    ∀ c ∈ decimalChars, (CharTest.oneOf decimalItems .exact false).holds c.toNat = true :=
  List.all_eq_true.mp (by decide)

theorem isWord_of_mem_digitChars {radix : Radix} : ∀ c ∈ radix.digitChars, Text.isWord c.toNat = true := by
  cases radix <;> exact List.all_eq_true.mp (by decide)

theorem isWord_of_mem_decimalChars : ∀ c ∈ decimalChars, Text.isWord c.toNat = true :=
  List.all_eq_true.mp (by decide)

section

variable {allowed : List Char} {items : List ClassItem} {ds : Digits allowed} {chars rest : List Char}

theorem EndsNumber.holds_eq_false (h : EndsNumber rest) {test : CharTest} (htest : test.holds ' '.toNat = false) :
    ∀ c ∈ rest.head?, test.holds c.toNat = false := by
  intro c hc
  rw [h c hc, htest]

theorem Digits.exists_cons (ds : Digits allowed) : ∃ c more, ds.chars = c :: more ∧ c ∈ allowed := by
  obtain ⟨c, more, hchars⟩ := List.exists_cons_of_ne_nil ds.ne_nil
  exact ⟨c, more, hchars, ds.subset (hchars ▸ List.mem_cons_self)⟩

theorem Digits.endsInWord (ds : Digits allowed) (hword : ∀ c ∈ allowed, Text.isWord c.toNat = true) :
    EndsInWord ds.chars :=
  ⟨ds.chars.getLast ds.ne_nil, List.getLast?_eq_some_getLast ds.ne_nil,
    hword _ (ds.subset (List.getLast_mem ds.ne_nil))⟩

theorem Digits.takesBefore (ds : Digits allowed)
    (hallowed : ∀ c ∈ allowed, (CharTest.oneOf items .exact false).holds c.toNat = true)
    (hrest : ∀ c ∈ rest.head?, (CharTest.oneOf items .exact false).holds c.toNat = false) :
    (digits items).TakesBefore ds.chars rest :=
  .repeatChar (fun c hc => hallowed c (ds.subset hc)) hrest (List.length_pos_iff.mpr ds.ne_nil) (by simp)

theorem takesBefore_ofChar (c : Char) : (Node.ofChar c).TakesBefore [c] rest :=
  .char (by simp [CharTest.holds, CharTest.sameCode, CaseRule.isCased])

theorem refuses_ofChar {c : Char} (h : ∀ d ∈ chars.head?, d ≠ c) : (Node.ofChar c).Refuses chars :=
  .char fun d hd => by simp [CharTest.holds, CharTest.sameCode, CaseRule.isCased, Char.toNat_inj, h d hd]

theorem Digits.head?_append (ds : Digits allowed) : ∀ c ∈ (ds.chars ++ rest).head?, c ∈ allowed := by
  obtain ⟨c, more, hchars, hc⟩ := ds.exists_cons
  simpa [hchars] using hc

theorem Exponent.takesBefore (e : Exponent)
    (hrest : ∀ c ∈ rest.head?, (CharTest.oneOf decimalItems .exact false).holds c.toNat = false) :
    exponentNode.TakesBefore e.chars rest := by
  have hsign : ∀ c ∈ e.sign, (CharTest.oneOf [.code 45, .code 43] .exact false).holds c.toNat = true := by
    have hall : ∀ sign ∈ [[], ['+'], ['-']],
        (sign.all fun c => (CharTest.oneOf [.code 45, .code 43] .exact false).holds c.toNat) = true := by decide
    exact List.all_eq_true.mp (hall e.sign e.sign_mem)
  have hlength : e.sign.length ≤ 1 := by
    have hall : ∀ sign ∈ [[], ['+'], ['-']], sign.length ≤ 1 := by decide
    exact hall e.sign e.sign_mem
  have hdigit : ∀ c ∈ decimalChars, (!(CharTest.oneOf [.code 45, .code 43] .exact false).holds c.toNat) = true :=
    List.all_eq_true.mp (by decide)
  exact (takesBefore_ofChar 'e').cat
    ((Node.TakesBefore.repeatChar hsign (fun c hc => by simpa using hdigit c (e.digits.head?_append c hc)) (Nat.zero_le _)
      (by simpa using hlength)).cat (e.digits.takesBefore holds_of_mem_decimalChars hrest))

theorem Exponent.endsInWord (e : Exponent) : EndsInWord e.chars :=
  ((e.digits.endsInWord isWord_of_mem_decimalChars).append e.sign).append ['e']

theorem EndsNumber.decimal (h : EndsNumber rest) :
    ∀ c ∈ rest.head?, (CharTest.oneOf decimalItems .exact false).holds c.toNat = false :=
  h.holds_eq_false (by decide)

theorem takesBefore_fraction (part : Digits decimalChars) (exponent : Option Exponent) (hrest : EndsNumber rest) :
    fractionNode.TakesBefore ('.' :: (part.chars ++ (exponent.map Exponent.chars).getD [])) rest := by
  cases exponent with
  | none =>
      have hnone : exponentNode.Refuses rest :=
        .cat_first (refuses_ofChar fun c hc => by rw [hrest c hc]; decide)
      have hpart := part.takesBefore holds_of_mem_decimalChars hrest.decimal
      exact (takesBefore_ofChar '.').cat (hpart.cat (.option_none hnone))
  | some e =>
      have hpart : (digits decimalItems).TakesBefore part.chars (e.chars ++ rest) :=
        part.takesBefore holds_of_mem_decimalChars (by simp [Exponent.chars]; decide)
      exact (takesBefore_ofChar '.').cat (hpart.cat (.option (e.takesBefore hrest.decimal)))

theorem endsInWord_fraction (part : Digits decimalChars) (exponent : Option Exponent) :
    EndsInWord ('.' :: (part.chars ++ (exponent.map Exponent.chars).getD [])) := by
  cases exponent with
  | none =>
      have hpart := (part.endsInWord isWord_of_mem_decimalChars).append ['.']
      rwa [← List.append_nil part.chars] at hpart
  | some e => exact (e.endsInWord.append part.chars).append ['.']

/-- The node of the rule for a numeral. -/
def Numeral.node : Numeral → Node
  | prefixed radix _ => prefixedNode radix.letter radix.items
  | integer _ => integerNode
  | fraction _ _ _ | power _ _ => fractionalNode

/-- The node takes the numeral before a blank or the end of a line. -/
theorem Numeral.takesBefore (n : Numeral) (hrest : EndsNumber rest) : n.node.TakesBefore n.chars rest := by
  have hword : ∀ c ∈ rest.head?, Text.isWord c.toNat = false := fun c hc => by rw [hrest c hc]; decide
  cases n with
  | prefixed radix ds =>
      have hblank : (CharTest.oneOf radix.items .exact false).holds ' '.toNat = false := by
        cases radix <;> decide
      have hdigits := ds.takesBefore holds_of_mem_digitChars (hrest.holds_eq_false hblank)
      exact (takesBefore_ofChar '0').cat ((takesBefore_ofChar radix.letter).cat
        (hdigits.wordEnd (ds.endsInWord isWord_of_mem_digitChars) hword))
  | integer whole =>
      exact (whole.takesBefore holds_of_mem_decimalChars hrest.decimal).wordEnd
        (whole.endsInWord isWord_of_mem_decimalChars) hword
  | fraction whole part exponent =>
      have hwhole : (digits decimalItems).TakesBefore whole.chars
          ('.' :: (part.chars ++ (exponent.map Exponent.chars).getD []) ++ rest) :=
        whole.takesBefore holds_of_mem_decimalChars (by simp; decide)
      exact hwhole.cat ((Node.TakesBefore.alt_first (takesBefore_fraction part exponent hrest)).wordEnd
        (endsInWord_fraction part exponent) hword)
  | power whole exponent =>
      have hwhole : (digits decimalItems).TakesBefore whole.chars (exponent.chars ++ rest) :=
        whole.takesBefore holds_of_mem_decimalChars (by simp [Exponent.chars]; decide)
      have hfraction : fractionNode.Refuses (exponent.chars ++ rest) :=
        .cat_first (refuses_ofChar (by simp [Exponent.chars]))
      exact hwhole.cat ((Node.TakesBefore.alt_others hfraction
        (.alt_first (exponent.takesBefore hrest.decimal))).wordEnd exponent.endsInWord hword)

/-- Behind some of the digits stand others, or what follows them. -/
theorem Digits.head?_drop (ds : Digits allowed) {i : Nat} (hi : i ≤ ds.chars.length) :
    ∀ c ∈ ((ds.chars ++ rest).drop i).head?, c ∈ allowed ∨ c ∈ rest.head? := by
  intro c hc
  rw [List.drop_append_of_le_length hi] at hc
  cases hdrop : ds.chars.drop i with
  | nil =>
      rw [hdrop] at hc
      exact Or.inr hc
  | cons d more =>
      rw [hdrop, List.cons_append, List.head?_cons, Option.mem_some_iff] at hc
      have hmem : c ∈ ds.chars.drop i := by
        rw [hdrop, hc]
        exact List.mem_cons_self
      exact Or.inl (ds.subset (List.mem_of_mem_drop hmem))

theorem prefixedNode_refuses {letter : Char} (h : ∀ c ∈ (chars.drop 1).head?, c ≠ letter) :
    (prefixedNode letter items).Refuses chars :=
  .cat_char (.cat_first (refuses_ofChar (by rwa [List.drop_one] at h)))

/-- The nodes of other bases refuse decimal digits. -/
theorem Digits.refused_by_prefixed (whole : Digits decimalChars) (radix : Radix)
    (hrest : ∀ c ∈ rest.head?, c ∈ ['.', 'e', ' ']) :
    (prefixedNode radix.letter radix.items).Refuses (whole.chars ++ rest) := by
  refine prefixedNode_refuses fun c hc => ?_
  have hletter : radix.letter ∉ decimalChars ++ ['.', 'e', ' '] := by cases radix <;> decide
  have hmem : c ∈ decimalChars ++ ['.', 'e', ' '] :=
    List.mem_append.mpr ((whole.head?_drop (List.length_pos_iff.mpr whole.ne_nil) c hc).imp_right (hrest c))
  exact fun heq => hletter (heq ▸ hmem)

/-- Digits alone have neither a fraction nor an exponent. -/
theorem Digits.refused_by_fractional (whole : Digits decimalChars) (hrest : EndsNumber rest) :
    fractionalNode.Refuses (whole.chars ++ rest) := by
  refine .cat_repeatChar hrest.decimal fun i hi _ => ?_
  have hhead : ∀ c ∈ ((whole.chars ++ rest).drop i).head?, c ∈ decimalChars ++ [' '] := fun c hc =>
    List.mem_append.mpr ((whole.head?_drop hi c hc).imp_right fun h => List.mem_singleton.mpr (hrest c h))
  have hsigns : '.' ∉ decimalChars ++ [' '] ∧ 'e' ∉ decimalChars ++ [' '] := by decide
  exact .cat_first (.alt (.cat_first (refuses_ofChar fun c hc heq => hsigns.1 (heq ▸ hhead c hc)))
    (.alt (.cat_first (refuses_ofChar fun c hc heq => hsigns.2 (heq ▸ hhead c hc))) .never))

/-- The node of one base refuses the digits of another. -/
theorem refused_by_other {radix other : Radix} (hne : radix ≠ other) :
    (prefixedNode other.letter other.items).Refuses ('0' :: radix.letter :: chars) := by
  have hletter : radix.letter ≠ other.letter := by
    cases radix <;> cases other <;> first | exact absurd rfl hne | decide
  exact prefixedNode_refuses (by simpa using hletter)

/-- The forms of the other bases come first. -/
theorem exists_radix_of_mem_take :
    ∀ form ∈ numberForms.take 3, ∃ radix : Radix, form.2 = prefixedNode radix.letter radix.items :=
  List.forall_mem_cons.mpr ⟨⟨.hexadecimal, rfl⟩, List.forall_mem_cons.mpr ⟨⟨.octal, rfl⟩,
    List.forall_mem_singleton.mpr ⟨.binary, rfl⟩⟩⟩

/-- The place of a numeral's form among the forms. -/
def Numeral.place : Numeral → Nat
  | prefixed .hexadecimal _ => 0
  | prefixed .octal _ => 1
  | prefixed .binary _ => 2
  | fraction _ _ _ | power _ _ => 3
  | integer _ => 4

theorem Numeral.exists_form (n : Numeral) : ∃ text after, numberForms.drop n.place = (text, n.node) :: after := by
  cases n with
  | prefixed radix ds => cases radix <;> exact ⟨_, _, rfl⟩
  | _ => exact ⟨_, _, rfl⟩

/-- The forms before that of a numeral refuse it. -/
theorem Numeral.refused_before (n : Numeral) (hrest : EndsNumber rest) :
    ∀ form ∈ numberForms.take n.place, form.2.Refuses (n.chars ++ rest) := by
  have hdecimal : ∀ (whole : Digits decimalChars) more, (∀ c ∈ more.head?, c ∈ ['.', 'e', ' ']) →
      ∀ form ∈ numberForms.take 3, form.2.Refuses (whole.chars ++ more) := by
    intro whole more hmore form hform
    obtain ⟨radix, hnode⟩ := exists_radix_of_mem_take form hform
    exact hnode ▸ whole.refused_by_prefixed radix hmore
  cases n with
  | prefixed radix ds =>
      have hother : ∀ other, radix ≠ other →
          (prefixedNode other.letter other.items).Refuses ((prefixed radix ds).chars ++ rest) :=
        fun other hne => refused_by_other hne
      cases radix with
      | hexadecimal => exact List.forall_mem_nil _
      | octal => exact List.forall_mem_singleton.mpr (hother .hexadecimal (by decide))
      | binary =>
          exact List.forall_mem_cons.mpr ⟨hother .hexadecimal (by decide),
            List.forall_mem_singleton.mpr (hother .octal (by decide))⟩
  | integer whole =>
      have hblank : ∀ c ∈ rest.head?, c ∈ ['.', 'e', ' '] := fun c hc => by rw [hrest c hc]; decide
      exact List.forall_mem_append.mpr ⟨hdecimal whole rest hblank,
        List.forall_mem_singleton.mpr (whole.refused_by_fractional hrest)⟩
  | fraction whole part exponent =>
      rw [chars, List.append_assoc]
      exact hdecimal whole _ (by simp)
  | power whole exponent =>
      rw [chars, List.append_assoc]
      exact hdecimal whole _ (by simp [Exponent.chars])

end

/-- No word stands right before a position. -/
def Apart (text : Array Char) (pos : Nat) : Prop :=
  (decide (0 < pos) && wordAt text false (pos - 1)) = false

theorem apart_zero (text : Array Char) : Apart text 0 :=
  Bool.false_and _

theorem apart_succ {text : Array Char} {pos : Nat} (h : wordAt text false pos = false) : Apart text (pos + 1) :=
  Bool.and_eq_false_iff.mpr (Or.inr h)

/-- A literal stands at a position of a line, not right behind a word, before a blank or the end of the line. -/
structure Literal.StandsAt (l : Literal) (text : Array Char) (pos : Nat) (rest : List Char) : Prop where
  drop_eq : text.toList.drop pos = l.chars ++ rest
  apart : Apart text pos
  ends : EndsNumber rest

theorem Numeral.exists_cons (n : Numeral) : ∃ c more, n.chars = c :: more ∧ c ∈ decimalChars := by
  cases n with
  | prefixed radix ds => exact ⟨_, _, rfl, by decide⟩
  | integer whole => exact whole.exists_cons
  | fraction whole part exponent =>
      obtain ⟨c, more, hchars, hc⟩ := whole.exists_cons
      exact ⟨c, _, by rw [chars, hchars]; rfl, hc⟩
  | power whole exponent =>
      obtain ⟨c, more, hchars, hc⟩ := whole.exists_cons
      exact ⟨c, _, by rw [chars, hchars]; rfl, hc⟩

theorem Literal.exists_cons (l : Literal) : ∃ c more, l.chars = c :: more ∧ c ∈ numberStart := by
  obtain ⟨c, more, hchars, hc⟩ := l.numeral.exists_cons
  rw [Literal.chars, Literal.minus, hchars]
  cases l.negative with
  | false => exact ⟨c, more, rfl, List.mem_cons_of_mem _ hc⟩
  | true => exact ⟨'-', c :: more, rfl, List.mem_cons_self⟩

theorem Literal.ne_nil (l : Literal) : l.chars ≠ [] := by
  obtain ⟨c, more, hchars, _⟩ := l.exists_cons
  exact hchars ▸ List.cons_ne_nil c more

theorem Numeral.not_minus (n : Numeral) {rest : List Char} :
    ∀ c ∈ (n.chars ++ rest).head?, (CharTest.code 45 .exact false).holds c.toNat = false := by
  obtain ⟨c, more, hchars, hc⟩ := n.exists_cons
  have hdigit : ∀ c ∈ decimalChars, (!(CharTest.code 45 .exact false).holds c.toNat) = true :=
    List.all_eq_true.mp (by decide)
  simpa [hchars] using hdigit c hc

section

variable {l : Literal} {text : Array Char} {pos : Nat} {rest : List Char} {number : Node}
  (h : l.StandsAt text pos rest)

include h

theorem Literal.StandsAt.drop_minus : text.toList.drop pos = l.minus ++ (l.numeral.chars ++ rest) := by
  rw [h.drop_eq, Literal.chars, List.append_assoc]

theorem Literal.StandsAt.drop_numeral :
    text.toList.drop (pos + l.minus.length) = l.numeral.chars ++ rest := by
  rw [← List.drop_drop, h.drop_minus, List.drop_left]

theorem Literal.StandsAt.wordAt_numeral : wordAt text false (pos + l.minus.length) = true := by
  obtain ⟨c, more, hchars, hc⟩ := l.numeral.exists_cons
  rw [wordAt_of_drop h.drop_numeral, hchars]
  exact isWord_of_mem_decimalChars c hc

theorem Literal.StandsAt.wordAt_minus (hnegative : l.negative = true) : wordAt text false pos = false := by
  have hdrop : text.toList.drop pos = '-' :: (l.numeral.chars ++ rest) := by
    rw [h.drop_minus, Literal.minus, hnegative]
    rfl
  have hsign : Text.isWord '-'.toNat = false := by decide
  rw [wordAt_of_drop hdrop]
  exact hsign

/-- A number starts at a boundary of words, with or without a minus sign before it. -/
theorem Literal.StandsAt.boundary : atWordBoundary text false (pos + l.minus.length) = true := by
  have hthere := h.wordAt_numeral
  have hbefore : Apart text (pos + l.minus.length) := by
    cases hnegative : l.negative with
    | false =>
        rw [Literal.minus, hnegative]
        exact h.apart
    | true =>
        rw [Literal.minus, hnegative]
        exact apart_succ (h.wordAt_minus hnegative)
  rw [atWordBoundary, hbefore, hthere]
  rfl

/-- The place before a minus sign is no boundary of words. -/
theorem Literal.StandsAt.no_boundary (hnegative : l.negative = true) : atWordBoundary text false pos = false := by
  rw [atWordBoundary, h.apart, h.wordAt_minus hnegative]
  rfl

theorem Literal.StandsAt.signed_reaches (hnumber : number.TakesBefore l.numeral.chars rest) :
    (signed number).Reaches text pos (pos + l.chars.length) := by
  have hminus : ∀ c ∈ l.minus, (CharTest.code 45 .exact false).holds c.toNat = true := by
    rw [Literal.minus]
    cases l.negative <;> exact List.all_eq_true.mp (by decide)
  have hlength : ∀ m ∈ some 1, l.minus.length ≤ m := by
    rw [Literal.minus]
    cases l.negative <;> simp
  have hsign := Node.TakesBefore.repeatChar hminus l.numeral.not_minus (Nat.zero_le _) hlength text pos
    h.drop_minus
  have hboundary : wordEnd.Reaches text (pos + l.minus.length) (pos + l.minus.length) := .anchor h.boundary
  rw [Literal.chars, List.length_append, ← Nat.add_assoc]
  exact hsign.cat (hboundary.cat (hnumber text _ h.drop_numeral))

theorem Literal.StandsAt.signed_fails (hnumber : number.Refuses (l.numeral.chars ++ rest)) :
    (signed number).Fails text pos := by
  refine .cat_repeatChar fun i hi _ => ?_
  have hle : i ≤ l.minus.length := Nat.le_trans hi (countWhile_le_of_drop h.drop_minus l.numeral.not_minus _)
  rcases Nat.lt_or_eq_of_le hle with hlt | rfl
  · cases hnegative : l.negative with
    | false => simp [Literal.minus, hnegative] at hlt
    | true =>
        rw [Literal.minus, hnegative] at hlt
        -- the number would have to start before the minus sign that is left out
        obtain rfl : i = 0 := Nat.lt_one_iff.mp hlt
        exact .anchor_cat (h.no_boundary hnegative)
  · exact .cat_anchor (hnumber text _ h.drop_numeral)

/-- The rule for the form of a literal takes it, since the rules of numbers before it fail. -/
theorem Literal.StandsAt.firstMatch_numberRules : ∃ r, firstMatch numberRules text pos =
    some (r, ⟨pos + l.chars.length, []⟩) ∧ r.kinds = [TokenKind.number] ∧ r.transition = .stay := by
  obtain ⟨pattern, after, hform⟩ := l.numeral.exists_form
  have hsplit : numberRules = (numberForms.take l.numeral.place).map numberRule ++
      numberRule (pattern, l.numeral.node) :: after.map numberRule := by
    rw [← List.map_cons, ← hform, ← List.map_append, List.take_append_drop]
    rfl
  have hbefore : firstMatch ((numberForms.take l.numeral.place).map numberRule) text pos = none := by
    refine List.findSome?_eq_none_iff.mpr fun r hr => ?_
    obtain ⟨form, hmem, rfl⟩ := List.mem_map.mp hr
    have hfails := h.signed_fails (l.numeral.refused_before h.ends form hmem)
    rw [matchAt_of_fails rfl hfails, Option.map_none]
  have hmatch : (numberRule (pattern, l.numeral.node)).pattern.matchAt text pos =
      some ⟨pos + l.chars.length, []⟩ :=
    matchAt_of_reaches rfl (h.signed_reaches (l.numeral.takesBefore h.ends))
  refine ⟨numberRule (pattern, l.numeral.node), ?_, rfl, rfl⟩
  rw [firstMatch] at hbefore ⊢
  rw [hsplit, List.findSome?_append, hbefore, Option.none_or, List.findSome?_cons, hmatch, Option.map_some]

end

/-- What stands behind a literal that others follow. -/
def behind : List Literal → List Char
  | [] => []
  | next :: more => ' ' :: spaced (next :: more)

theorem spaced_cons (l : Literal) (more : List Literal) : spaced (l :: more) = l.chars ++ behind more := by
  cases more with
  | nil => exact List.intercalate_singleton.trans (List.append_nil _).symm
  | cons next more =>
      rw [spaced, List.map_cons, List.map_cons, List.intercalate_cons_cons, List.append_assoc]
      rfl

theorem endsNumber_behind (more : List Literal) : EndsNumber (behind more) := by
  cases more <;> simp [EndsNumber, behind]

theorem standsAt_of_spaced {text : Array Char} {pos : Nat} {l : Literal} {more : List Literal}
    (hdrop : text.toList.drop pos = spaced (l :: more))
    (hapart : Apart text pos) : l.StandsAt text pos (behind more) :=
  ⟨hdrop.trans (spaced_cons l more), hapart, endsNumber_behind more⟩

theorem apart_of_blank {text : Array Char} {pos : Nat} {rest : List Char}
    (hdrop : text.toList.drop pos = ' ' :: rest) : Apart text (pos + 1) := by
  have hblank : Text.isWord ' '.toNat = false := by decide
  refine apart_succ ?_
  rw [wordAt_of_drop hdrop]
  exact hblank

section

variable {d : Dialect} {g : CompiledGrammar} {start : Mode} (hreads : d.Reads g start) {text : Array Char}
  {pos : Nat}

include hreads

theorem Dialect.Reads.firstMatch_number {l : Literal} {rest : List Char} (h : l.StandsAt text pos rest) :
    ∃ r, firstMatch start.rules text pos = some (r, ⟨pos + l.chars.length, []⟩) ∧
      r.kinds = [TokenKind.number] ∧ r.transition = .stay := by
  obtain ⟨r, hfirst, hr⟩ := h.firstMatch_numberRules
  obtain ⟨others, hothers⟩ := hreads.code.numbers
  obtain ⟨c, more, hchars, hc⟩ := l.exists_cons
  have hthere : text[pos]? = some c := by
    rw [getElem?_eq_head? h.drop_eq, hchars]
    rfl
  refine ⟨r, ?_, hr⟩
  have hfilter : firstMatch (rulesOnNumbers start.rules) text pos = firstMatch start.rules text pos := by
    refine firstMatch_filter fun other _ hnone => matchAt_of_canBegin_eq_false hthere ?_
    simpa using List.any_eq_false.mp hnone c hc
  rw [firstMatch] at hfirst
  rw [← hfilter, ← hothers, firstMatch, List.findSome?_append, hfirst, Option.some_or]

theorem Dialect.Reads.exists_matched {l : Literal} {rest : List Char} (h : l.StandsAt text pos rest) :
    ∃ matched found, piecesFrom g text pos .start = Except.map (prepend [.matched matched]) found := by
  obtain ⟨r, hfirst, hkinds, _⟩ := hreads.firstMatch_number h
  exact ⟨_, _, piecesFrom_of_firstMatch hreads.start_eq hfirst rfl hkinds l.ne_nil h.drop_eq rfl⟩

theorem Dialect.Reads.result_of_number {l : Literal} {rest : List Char} (h : l.StandsAt text pos rest)
    (tokens : List Token) :
    (piecesFrom g text pos .start).map (resultAfter tokens none) =
      (piecesFrom g text (pos + l.chars.length) .start).map (resultAfter
        (tokens ++ [⟨.name TokenKind.number, pos, pos + l.chars.length, String.ofList l.chars⟩]) none) := by
  obtain ⟨r, hfirst, hkinds, hstay⟩ := hreads.firstMatch_number h
  rw [result_of_firstMatch hreads.start_eq hfirst rfl hkinds l.ne_nil h.drop_eq rfl, hstay]
  rfl

/-- The tokens of literals from a position on. -/
theorem Dialect.Reads.result_of_spaced {literals : List Literal} (hdrop : text.toList.drop pos = spaced literals)
    (hapart : Apart text pos) (tokens : List Token) :
    (piecesFrom g text pos .start).map (resultAfter tokens none) =
      .ok ⟨tokens ++ tokensOfParts pos (literalParts literals), initialStack⟩ := by
  induction literals generalizing pos tokens with
  | nil =>
      rw [result_of_drop_eq_nil hdrop, literalParts, List.map_nil, List.intersperse_nil, tokensOfParts,
        List.append_nil]
      rfl
  | cons l more ih =>
      have hstands := standsAt_of_spaced hdrop hapart
      rw [hreads.result_of_number hstands]
      have hafter := drop_add hstands.drop_eq
      cases more with
      | nil => exact result_of_drop_eq_nil hafter _
      | cons next more =>
          have hblank : text.toList.drop (pos + l.chars.length) = [' '] ++ spaced (next :: more) := hafter
          have hnext := drop_add hblank
          have hapartNext : Apart text (pos + l.chars.length + 1) := apart_of_blank hblank
          obtain ⟨matched, found, hfound⟩ := hreads.exists_matched (standsAt_of_spaced hnext hapartNext)
          have hmiss : ∀ c ∈ [' '], ∀ r ∈ start.rules, r.pattern.canBegin c = false :=
            List.forall_mem_singleton.mpr hreads.code.blanks
          rw [result_of_singles hreads.start_eq hmiss hblank hfound, hreads.kind_eq]
          refine (ih hnext hapartNext _).trans ?_
          rw [List.append_assoc, List.append_assoc]
          rfl

end

/-- In every registered dialect a line of literals with single blanks between them has one token for each of
them, and one for each blank. -/
theorem scanLine_reads_numbers {d : Dialect} (hd : d ∈ Dialect.registered) (literals : List Literal) :
    ∃ g, (Dialect.ofName? d.name).map grammar = some (.ok g) ∧
      scanLine g (String.ofList (spaced literals)) initialStack =
        .ok ⟨tokensOfParts 0 (literalParts literals), initialStack⟩ := by
  obtain ⟨g, start, hreads⟩ := exists_reads hd
  refine ⟨g, by rw [Dialect.ofName?_name hd, Option.map_some, hreads.compiles], ?_⟩
  rw [scanLine_initialStack hreads.start_eq, String.toList_ofList]
  exact hreads.result_of_spaced rfl (apart_zero _) []

namespace NumbersWitness

/-- A number of another base, one with a fraction and an exponent, one with an exponent alone, and digits. -/
def sample : List Literal :=
  [⟨true, .prefixed .hexadecimal ⟨['F', 'f'], by decide, by decide⟩⟩,
    ⟨false, .fraction ⟨['2'], by decide, by decide⟩ ⟨['5'], by decide, by decide⟩
      (some ⟨['-'], by decide, ⟨['3'], by decide, by decide⟩⟩)⟩,
    ⟨true, .power ⟨['1', '0'], by decide, by decide⟩ ⟨[], by decide, ⟨['9'], by decide, by decide⟩⟩⟩,
    ⟨false, .integer ⟨['0', '7'], by decide, by decide⟩⟩]

theorem four_numbers_between_blanks :
    Dialect.legacy ∈ Dialect.registered ∧
      ∃ g, (Dialect.ofName? "legacy").map grammar = some (.ok g) ∧
        scanLine g "-0xFf 2.5e-3 -10e9 07" initialStack =
          .ok ⟨[⟨.name TokenKind.number, 0, 5, "-0xFf"⟩, ⟨.name textKind, 5, 6, " "⟩,
            ⟨.name TokenKind.number, 6, 12, "2.5e-3"⟩, ⟨.name textKind, 12, 13, " "⟩,
            ⟨.name TokenKind.number, 13, 18, "-10e9"⟩, ⟨.name textKind, 18, 19, " "⟩,
            ⟨.name TokenKind.number, 19, 21, "07"⟩], ["start"]⟩ := by
  have hd : Dialect.legacy ∈ Dialect.registered := by decide
  have hline : String.ofList (spaced sample) = "-0xFf 2.5e-3 -10e9 07" := by decide
  obtain ⟨g, hg, hscan⟩ := scanLine_reads_numbers hd sample
  rw [hline] at hscan
  exact ⟨hd, g, hg, hscan⟩

end NumbersWitness

end ModalHighlight.Koto
