/-!
Texts in segments between occurrences of one character.  Joining the segments again gives the text.
-/

namespace ModalHighlight.Text

/-- The segments of a text between occurrences of a character; the empty text has one empty segment. -/
def segments (separator : Char) : List Char → List (List Char)
  | [] => [[]]
  | c :: rest =>
      if c = separator then [] :: segments separator rest
      else
        match segments separator rest with
        | [] => [[c]]
        | first :: more => (c :: first) :: more

/-- The text with these segments. -/
def joinSegments (separator : Char) : List (List Char) → List Char
  | [] => []
  | [s] => s
  | s :: rest => s ++ separator :: joinSegments separator rest

theorem segments_ne_nil (separator : Char) (chars : List Char) : segments separator chars ≠ [] := by
  cases chars with
  | nil => simp [segments]
  | cons c rest =>
    simp only [segments]
    split
    · simp
    · split <;> simp

/-- Segmenting loses nothing. -/
theorem joinSegments_segments (separator : Char) (chars : List Char) :
    joinSegments separator (segments separator chars) = chars := by
  induction chars with
  | nil => rfl
  | cons c rest ih =>
    simp only [segments]
    split
    · next h =>
      cases hs : segments separator rest with
      | nil => exact absurd hs (segments_ne_nil separator rest)
      | cons first more =>
        rw [hs] at ih
        simp [joinSegments, ih, h]
    · next h =>
      cases hs : segments separator rest with
      | nil => exact absurd hs (segments_ne_nil separator rest)
      | cons first more =>
        rw [hs] at ih
        cases more with
        | nil => simpa [joinSegments] using ih
        | cons second others => simpa [joinSegments] using ih

theorem joinSegments_cons (separator : Char) (first : List Char) {more : List (List Char)} (h : more ≠ []) :
    joinSegments separator (first :: more) = first ++ separator :: joinSegments separator more := by
  cases more with
  | nil => exact absurd rfl h
  | cons second others => rfl

/-- Segments before others are joined with a separator between. -/
theorem joinSegments_append (separator : Char) {before after : List (List Char)} (hbefore : before ≠ [])
    (hafter : after ≠ []) :
    joinSegments separator (before ++ after) =
      joinSegments separator before ++ separator :: joinSegments separator after := by
  induction before with
  | nil => exact absurd rfl hbefore
  | cons first more ih =>
      rw [List.cons_append, joinSegments_cons separator first (by simp [hafter])]
      cases more with
      | nil => rfl
      | cons second others =>
          rw [ih (List.cons_ne_nil _ _), joinSegments_cons separator first (List.cons_ne_nil _ _)]
          simp

/-- A separator between two texts parts their segments. -/
theorem segments_append (separator : Char) (before after : List Char) :
    segments separator (before ++ separator :: after) =
      segments separator before ++ segments separator after := by
  induction before with
  | nil => simp [segments]
  | cons c rest ih =>
      rw [List.cons_append, segments, segments, ih]
      split
      · rfl
      · cases hrest : segments separator rest with
        | nil => exact absurd hrest (segments_ne_nil separator rest)
        | cons first more => rfl

/-- The first segments of a text are a start of it. -/
theorem joinSegments_take_prefix (separator : Char) (parts : List (List Char)) (count : Nat) :
    joinSegments separator (parts.take count) <+: joinSegments separator parts := by
  by_cases htake : parts.take count = []
  · rw [htake]
    exact List.nil_prefix
  by_cases hdrop : parts.drop count = []
  · have hwhole : parts.take count = parts := List.take_of_length_le (List.drop_eq_nil_iff.mp hdrop)
    exact ⟨[], by rw [List.append_nil, hwhole]⟩
  · have hjoin := joinSegments_append separator htake hdrop
    rw [List.take_append_drop] at hjoin
    rw [hjoin]
    exact List.prefix_append _ _

end ModalHighlight.Text
