import ModalHighlight.Data.Json
import Mathlib.Data.List.Infix

/-!
Whole numbers in JSON documents.  They are read as long as they have no more digits than can be displayed
again, so every value of a document has a display.  A longer number is the only thing, apart from a fault, that
keeps a document from being read.
-/

namespace ModalHighlight

namespace Value

theorem areDisplayable_iff {items : List Value} :
    areDisplayable items = true ↔ ∀ item ∈ items, item.isDisplayable = true := by
  induction items with
  | nil => simp [areDisplayable]
  | cons item rest ih => simp [areDisplayable, ih]

theorem haveDisplayable_iff {fields : List (String × Value)} :
    haveDisplayable fields = true ↔ ∀ field ∈ fields, field.2.isDisplayable = true := by
  induction fields with
  | nil => simp [haveDisplayable]
  | cons field rest ih =>
      obtain ⟨key, value⟩ := field
      simp [haveDisplayable, ih]

/-- A value can be displayed. -/
def HasDisplay (value : Value) : Prop :=
  value.isDisplayable = true

instance (value : Value) : Decidable value.HasDisplay :=
  inferInstanceAs (Decidable (_ = true))

theorem hasDisplay_list_iff {items : List Value} :
    HasDisplay (list items) ↔ ∀ item ∈ items, HasDisplay item := by
  rw [HasDisplay, isDisplayable, areDisplayable_iff]
  rfl

theorem hasDisplay_table_iff {fields : List (String × Value)} :
    HasDisplay (table fields) ↔ ∀ field ∈ fields, HasDisplay field.2 := by
  rw [HasDisplay, isDisplayable, haveDisplayable_iff]
  rfl

end Value

/-- A field that is set comes to the fields that were there. -/
theorem mem_setField {α : Type} {key : String} {value : α} {fields : List (String × α)}
    {field : String × α} (h : field ∈ setField key value fields) :
    field = (key, value) ∨ field ∈ fields := by
  induction fields with
  | nil => exact Or.inl (List.mem_singleton.mp h)
  | cons head rest ih =>
      obtain ⟨k, v⟩ := head
      rw [setField] at h
      split at h
      · rename_i hkey
        rcases List.mem_cons.mp h with rfl | hrest
        · exact Or.inl (by rw [hkey])
        · exact Or.inr (List.mem_cons_of_mem _ hrest)
      · rcases List.mem_cons.mp h with rfl | hrest
        · exact Or.inr List.mem_cons_self
        · exact (ih hrest).imp_right (List.mem_cons_of_mem _)

namespace Data.Json

open Text

/-- A text holds more digits in a row than a whole number may have. -/
def HasLongNumber (chars : List Char) : Prop :=
  ∃ digits, digits <:+: chars ∧ (∀ c ∈ digits, isDecimalDigit c = true) ∧
    Value.digitLimit < digits.length

/-- What reading the front of a text comes to: something with a property and an end of the text, a fault, or
a number that is too long. -/
def Settles {α : Type} (good : α → Prop) (chars : List Char) : Reads α → Prop
  | .ok (found, r) => good found ∧ r.chars <:+ chars
  | .error .numberTooLong => HasLongNumber chars
  | .error (.fault _ _) => True

theorem HasLongNumber.of_suffix {chars tail : List Char} (h : HasLongNumber tail)
    (hsuffix : tail <:+ chars) : HasLongNumber chars := by
  obtain ⟨digits, hinfix, hdigits, hlong⟩ := h
  exact ⟨digits, hinfix.trans hsuffix.isInfix, hdigits, hlong⟩

theorem Settles.of_suffix {α : Type} {good : α → Prop} {chars tail : List Char} {read : Reads α}
    (h : Settles good tail read) (hsuffix : tail <:+ chars) : Settles good chars read := by
  match read, h with
  | .ok _, h => exact ⟨h.1, h.2.trans hsuffix⟩
  | .error .numberTooLong, h => exact HasLongNumber.of_suffix h hsuffix
  | .error (.fault _ _), _ => trivial

/-- What goes wrong in reading a part goes wrong in reading the whole. -/
theorem Settles.error {α β : Type} {good : α → Prop} {good' : β → Prop} {chars : List Char}
    {e : Failure} (h : Settles good chars (.error e)) : Settles good' chars (.error e) := by
  cases e with
  | fault cause offset => trivial
  | numberTooLong => exact h

theorem drop_suffix (r : Rest) (n : Nat) : (r.drop n).chars <:+ r.chars :=
  List.drop_suffix n r.chars

theorem skip_suffix (r : Rest) : (skip r).chars <:+ r.chars :=
  drop_suffix r _

theorem drop_skip_suffix (r : Rest) (n : Nat) : (skip (r.drop n)).chars <:+ r.chars :=
  (skip_suffix _).trans (drop_suffix r n)

theorem lowSurrogate?_ne_numberTooLong (chars : List Char) (offset : Nat) :
    lowSurrogate? chars offset ≠ .error .numberTooLong := by
  unfold lowSurrogate?
  split
  · split
    · simp
    · split <;> simp
  · simp

theorem readEscape_ne_numberTooLong (start : Nat) (chars : List Char) (offset : Nat) :
    readEscape start chars offset ≠ .error .numberTooLong := by
  unfold readEscape
  split <;> try simp
  split
  · simp
  split
  · simp
  split
  · split
    · rename_i e hlow
      rintro ⟨⟩
      exact lowSurrogate?_ne_numberTooLong _ _ hlow
    · simp
    · simp
  · simp

theorem settles_readString (start : Nat) (chars : List Char) (offset : Nat) (found : List Char) :
    Settles (fun _ => True) chars (readString start chars offset found) := by
  fun_induction readString start chars offset found with
  | case1 => trivial
  | case2 offset found c rest hquote => exact ⟨trivial, List.suffix_cons c rest⟩
  | case3 offset found c rest _ _ e hescape =>
      match e, hescape with
      | .fault _ _, _ => trivial
      | .numberTooLong, hescape => exact absurd hescape (readEscape_ne_numberTooLong _ _ _)
  | case4 offset found c rest _ _ meant length _ ih =>
      exact ih.of_suffix ((List.drop_suffix length rest).trans (List.suffix_cons c rest))
  | case5 => trivial
  | case6 offset found c rest _ _ _ ih => exact ih.of_suffix (List.suffix_cons c rest)

theorem hasDisplay_int {digits : List Char} (hdigits : ∀ c ∈ digits, isDecimalDigit c = true)
    (hlength : digits.length ≤ Value.digitLimit) (negative : Bool) :
    Value.HasDisplay (.int (if negative then -(numberOf 10 digits : Int) else numberOf 10 digits)) := by
  have hvalue := numberOf_lt hdigits hlength
  cases negative <;>
    simp only [Value.HasDisplay, Value.isDisplayable, decide_eq_true_eq, if_true, Int.natAbs_neg,
      Int.natAbs_natCast] <;>
    exact hvalue

theorem settles_readNumber (r : Rest) :
    Settles Value.HasDisplay r.chars (readNumber r) := by
  unfold readNumber
  split
  rename_i negative body hsign
  have hbody : body <:+ r.chars := by
    split at hsign
    · rename_i rest hchars
      cases hsign
      exact hchars ▸ List.suffix_cons _ _
    · cases hsign
      exact List.suffix_refl _
  extract_lets whole
  have hwhole : whole <+: body ∧ ∀ c ∈ whole, isDecimalDigit c = true := by
    unfold whole
    split
    · exact ⟨by simp, List.forall_mem_singleton.mpr rfl⟩
    · exact ⟨List.takeWhile_prefix _, fun c hc => List.all_eq_true.mp List.all_takeWhile c hc⟩
  split
  · trivial
  split
  · split
    · rename_i hlong
      exact ⟨whole, hwhole.1.isInfix.trans hbody.isInfix, hwhole.2, hlong⟩
    · rename_i hshort
      exact ⟨hasDisplay_int hwhole.2 (Nat.le_of_not_lt hshort) negative, drop_suffix r _⟩
  · exact ⟨rfl, drop_suffix r _⟩

theorem hasDisplay_of_word? {chars : List Char} {value : Value} {length : Nat}
    (h : word? chars = some (value, length)) : Value.HasDisplay value := by
  simp only [word?] at h
  repeat' split at h
  all_goals cases h
  all_goals rfl

section

variable (n : Nat)

def ValuesSettle : Prop :=
  ∀ r, Settles Value.HasDisplay r.chars (readValue n r)

def ItemsSettle : Prop :=
  ∀ r found, (∀ item ∈ found, Value.HasDisplay item) →
    Settles Value.HasDisplay r.chars (readItems n r found)

def FieldsSettle : Prop :=
  ∀ r found, (∀ field ∈ found, Value.HasDisplay field.2) →
    Settles Value.HasDisplay r.chars (readFields n r found)

end

section

variable {n : Nat}

theorem valuesSettle_succ (hitems : ItemsSettle n) (hfields : FieldsSettle n) :
    ValuesSettle (n + 1) := by
  intro r
  rw [readValue]
  split
  · trivial
  · rename_i rest hchars
    have hsuffix : rest <:+ r.chars := hchars ▸ List.suffix_cons _ _
    have hstring := (settles_readString r.offset rest (r.offset + 1) []).of_suffix hsuffix
    split
    · rename_i e heq
      exact (heq ▸ hstring).error
    · rename_i text after heq
      rw [heq] at hstring
      exact ⟨rfl, hstring.2⟩
  · rename_i rest hchars
    have hsuffix : rest <:+ r.chars := hchars ▸ List.suffix_cons _ _
    have hblanks := (skip_suffix ⟨rest, r.offset + 1⟩).trans hsuffix
    extract_lets first
    split
    · exact ⟨rfl, (drop_suffix _ 1).trans hblanks⟩
    · exact (hfields _ [] (by simp)).of_suffix hblanks
  · rename_i rest hchars
    have hsuffix : rest <:+ r.chars := hchars ▸ List.suffix_cons _ _
    have hblanks := (skip_suffix ⟨rest, r.offset + 1⟩).trans hsuffix
    extract_lets first
    split
    · exact ⟨rfl, (drop_suffix _ 1).trans hblanks⟩
    · exact (hitems _ [] (by simp)).of_suffix hblanks
  · split
    · rename_i value length hword
      exact ⟨hasDisplay_of_word? hword, drop_suffix r length⟩
    · exact settles_readNumber r

theorem itemsSettle_succ (hvalues : ValuesSettle n) (hitems : ItemsSettle n) :
    ItemsSettle (n + 1) := by
  intro r found hfound
  rw [readItems]
  have hitem := hvalues r
  split
  · rename_i e heq
    exact (heq ▸ hitem).error
  · rename_i item after heq
    rw [heq] at hitem
    have hmore : ∀ value ∈ item :: found, Value.HasDisplay value :=
      List.forall_mem_cons.mpr ⟨hitem.1, hfound⟩
    have hskip := (skip_suffix after).trans hitem.2
    extract_lets next
    split
    · refine ⟨Value.hasDisplay_list_iff.mpr fun value hvalue => ?_, (drop_suffix _ 1).trans hskip⟩
      exact hmore value (List.mem_reverse.mp hvalue)
    · exact (hitems _ _ hmore).of_suffix ((drop_skip_suffix _ 1).trans hskip)
    · trivial

theorem fieldsSettle_succ (hvalues : ValuesSettle n) (hfields : FieldsSettle n) :
    FieldsSettle (n + 1) := by
  intro r found hfound
  rw [readFields]
  split
  · rename_i rest hchars
    have hsuffix : rest <:+ r.chars := hchars ▸ List.suffix_cons _ _
    have hkey := (settles_readString r.offset rest (r.offset + 1) []).of_suffix hsuffix
    split
    · rename_i e heq
      exact (heq ▸ hkey).error
    · rename_i key afterKey heq
      rw [heq] at hkey
      have hcolon := (skip_suffix afterKey).trans hkey.2
      extract_lets colon
      split
      · have hvalue := (hvalues (skip (colon.drop 1))).of_suffix
          ((drop_skip_suffix _ 1).trans hcolon)
        split
        · rename_i e hread
          exact (hread ▸ hvalue).error
        · rename_i value after hread
          rw [hread] at hvalue
          have hmore : ∀ field ∈ setField key value found, Value.HasDisplay field.2 := by
            intro field hfield
            rcases mem_setField hfield with rfl | hmem
            · exact hvalue.1
            · exact hfound field hmem
          have hskip := (skip_suffix after).trans hvalue.2
          extract_lets fields next
          split
          · exact ⟨Value.hasDisplay_table_iff.mpr hmore, (drop_suffix _ 1).trans hskip⟩
          · exact (hfields _ _ hmore).of_suffix ((drop_skip_suffix _ 1).trans hskip)
          · trivial
      · trivial
  · trivial

end

/-- However long reading goes on, it comes to values with a display and to ends of the text. -/
theorem readers_settle (n : Nat) : ValuesSettle n ∧ ItemsSettle n ∧ FieldsSettle n := by
  induction n with
  | zero => exact ⟨fun _ => trivial, fun _ _ _ => trivial, fun _ _ _ => trivial⟩
  | succ n ih =>
      obtain ⟨hvalues, hitems, hfields⟩ := ih
      exact ⟨valuesSettle_succ hitems hfields, itemsSettle_succ hvalues hitems,
        fieldsSettle_succ hvalues hfields⟩

theorem settles_document (text : String) :
    Settles Value.HasDisplay text.toList
      (readValue (2 * text.toList.length + 2) (skip ⟨text.toList, 0⟩)) :=
  ((readers_settle _).1 _).of_suffix (skip_suffix _)

/-- Every value of a document that can be read has a display. -/
theorem hasDisplay_of_parse {text : String} {value : Value} (h : parse text = .ok value) :
    Value.HasDisplay value := by
  have hdocument := settles_document text
  simp only [parse] at h
  split at h
  · cases h
  · split at h
    · cases h
    · rename_i found after hread
      rw [hread] at hdocument
      split at h
      · cases h
        exact hdocument.1
      · cases h

/-- Apart from faults only a number that is too long keeps a document from being read. -/
theorem hasLongNumber_of_parse {text : String} (h : parse text = .error .numberTooLong) :
    HasLongNumber text.toList := by
  have hdocument := settles_document text
  simp only [parse] at h
  split at h
  · cases h
  · split at h
    · rename_i e hread
      rw [hread] at hdocument
      cases h
      exact hdocument
    · split at h <;> cases h

end Data.Json

end ModalHighlight
