/-!
ASCII digits and the numbers that they write.
-/

namespace ModalHighlight.Text

def isDecimalDigit (c : Char) : Bool := decide ('0' ≤ c ∧ c ≤ '9')

def isOctalDigit (c : Char) : Bool := decide ('0' ≤ c ∧ c ≤ '7')

def isHexDigit (c : Char) : Bool :=
  isDecimalDigit c || decide (('a' ≤ c ∧ c ≤ 'f') ∨ ('A' ≤ c ∧ c ≤ 'F'))

/-- The value of a hexadecimal digit. -/
def hexDigitValue (c : Char) : Nat :=
  if isDecimalDigit c then c.toNat - 48
  else if decide ('a' ≤ c) then c.toNat - 87
  else c.toNat - 55

/-- The number that digits write in a base. -/
def numberOf (base : Nat) (digits : List Char) : Nat :=
  digits.foldl (fun n c => n * base + hexDigitValue c) 0

theorem numberOf_snoc (base : Nat) (digits : List Char) (c : Char) :
    numberOf base (digits ++ [c]) = numberOf base digits * base + hexDigitValue c := by
  simp [numberOf]

theorem hexDigitValue_le_nine {c : Char} (h : isDecimalDigit c = true) : hexDigitValue c ≤ 9 := by
  rw [hexDigitValue, if_pos h]
  have hlast : c.toNat ≤ 57 := (of_decide_eq_true h).2
  exact Nat.sub_le_sub_right hlast 48

/-- As many decimal digits as `n` write a number below the power of ten. -/
theorem numberOf_lt {digits : List Char} (hdigits : ∀ c ∈ digits, isDecimalDigit c = true) {n : Nat}
    (hlength : digits.length ≤ n) : numberOf 10 digits < Nat.pow 10 n := by
  induction n generalizing digits with
  | zero =>
      rw [List.eq_nil_of_length_eq_zero (Nat.le_zero.mp hlength)]
      exact Nat.one_pos
  | succ n ih =>
      rcases List.eq_nil_or_concat digits with rfl | ⟨before, c, rfl⟩
      · exact Nat.pow_pos (by decide)
      · rw [List.concat_eq_append] at hdigits hlength ⊢
        rw [List.length_append, List.length_singleton] at hlength
        have hbefore := ih (fun d hd => hdigits d (List.mem_append_left _ hd))
          (Nat.le_of_succ_le_succ hlength)
        have hlast := hexDigitValue_le_nine (hdigits c (by simp))
        rw [numberOf_snoc]
        simp only [Nat.pow_eq, Nat.pow_succ] at hbefore ⊢
        omega

end ModalHighlight.Text
