import ModalHighlight.Style
import Mathlib.Data.List.Basic

/-!
Which entry of a style table decides on a kind.  The table is searched by the segments of the kind, from all of
them down to the first alone.  What the search looks up are just the keys that the kind starts with up to a dot
or its end, and fewer segments are a shorter start, so the longest of these keys decides.  What has been found
before is remembered, and that changes no answer.
-/

namespace ModalHighlight

open Text

/-- A key covers a kind: it is the kind, or the kind goes on behind it with a dot. -/
def Covers (key kind : String) : Prop :=
  kind = key ∨ ∃ rest, kind = key ++ "." ++ rest

/-- The start of a kind that its first segments make up. -/
def startOfKind (kind : String) (count : Nat) : String :=
  String.ofList (joinSegments '.' ((segments '.' kind.toList).take count))

theorem startOfKind_length (kind : String) :
    startOfKind kind (segments '.' kind.toList).length = kind := by
  rw [startOfKind, List.take_length, joinSegments_segments, String.ofList_toList]

theorem segments_toList_append (key rest : String) :
    segments '.' (key ++ "." ++ rest).toList = segments '.' key.toList ++ segments '.' rest.toList := by
  rw [← segments_append]
  simp

/-- The keys that cover a kind are those made up of its first segments. -/
theorem covers_iff {key kind : String} :
    Covers key kind ↔ ∃ count, 0 < count ∧ count ≤ (segments '.' kind.toList).length ∧
      key = startOfKind kind count := by
  have hpos : ∀ text : String, 0 < (segments '.' text.toList).length := fun text =>
    List.length_pos_iff.mpr (segments_ne_nil '.' text.toList)
  constructor
  · rintro (rfl | ⟨rest, rfl⟩)
    · exact ⟨_, hpos kind, Nat.le_refl _, (startOfKind_length kind).symm⟩
    · refine ⟨(segments '.' key.toList).length, hpos key, ?_, ?_⟩
      · rw [segments_toList_append, List.length_append]
        exact Nat.le_add_right _ _
      · rw [startOfKind, segments_toList_append, List.take_left, joinSegments_segments,
          String.ofList_toList]
  · rintro ⟨count, hcount, hle, rfl⟩
    rcases Nat.eq_or_lt_of_le hle with rfl | hlt
    · exact Or.inl (startOfKind_length kind).symm
    · right
      refine ⟨String.ofList (joinSegments '.' ((segments '.' kind.toList).drop count)), ?_⟩
      have htake : (segments '.' kind.toList).take count ≠ [] := by
        simp [segments_ne_nil]
        omega
      have hdrop : (segments '.' kind.toList).drop count ≠ [] := by
        simpa using hlt
      have hjoin := joinSegments_append '.' htake hdrop
      rw [List.take_append_drop, joinSegments_segments] at hjoin
      apply String.toList_inj.mp
      simpa [startOfKind] using hjoin

theorem Covers.toList_prefix {key kind : String} (h : Covers key kind) : key.toList <+: kind.toList := by
  rcases h with rfl | ⟨rest, rfl⟩
  · exact List.prefix_rfl
  · simp

/-- Keys that cover a kind and are equally long are the same. -/
theorem Covers.eq_of_length_eq {key other kind : String} (h : Covers key kind) (h' : Covers other kind)
    (hlength : key.length = other.length) : key = other := by
  refine String.toList_inj.mp (List.IsPrefix.eq_of_length ?_ hlength)
  exact List.prefix_of_prefix_length_le h.toList_prefix h'.toList_prefix (Nat.le_of_eq hlength)

/-- More segments make up a longer start. -/
theorem length_startOfKind_le (kind : String) {count more : Nat} (h : count ≤ more) :
    (startOfKind kind count).length ≤ (startOfKind kind more).length := by
  have hbegins := joinSegments_take_prefix '.' ((segments '.' kind.toList).take more) count
  rw [List.take_take, Nat.min_eq_left h] at hbegins
  simpa [startOfKind] using hbegins.length_le

section

variable {table : StyleTable} {kind : String}

/-- The search for an entry ends at the longest start that has one. -/
theorem longestEntry_eq_some {count : Nat} {t : TokenType}
    (h : longestEntry table (segments '.' kind.toList) count = some t) :
    ∃ found, 0 < found ∧ found ≤ count ∧ table.lookup (startOfKind kind found) = some t ∧
      ∀ longer ≤ count, found < longer → table.lookup (startOfKind kind longer) = none := by
  induction count with
  | zero => cases h
  | succ n ih =>
      rw [longestEntry] at h
      split at h
      · rename_i t' hlookup
        cases h
        exact ⟨n + 1, Nat.succ_pos n, Nat.le_refl _, hlookup, fun longer hle hlt => by omega⟩
      · rename_i hnone
        obtain ⟨found, hpos, hle, hlookup, hlonger⟩ := ih h
        refine ⟨found, hpos, Nat.le_succ_of_le hle, hlookup, fun longer hlonger' hlt => ?_⟩
        rcases Nat.le_succ_iff.mp hlonger' with hless | rfl
        · exact hlonger longer hless hlt
        · exact hnone

theorem longestEntry_eq_none {count : Nat}
    (h : longestEntry table (segments '.' kind.toList) count = none) {shorter : Nat}
    (hpos : 0 < shorter) (hle : shorter ≤ count) : table.lookup (startOfKind kind shorter) = none := by
  induction count with
  | zero => omega
  | succ n ih =>
      rw [longestEntry] at h
      split at h
      · cases h
      · rename_i hnone
        rcases Nat.le_succ_iff.mp hle with hless | rfl
        · exact ih h hless
        · exact hnone

end

namespace StyleMap

variable (m : StyleMap)

/-- The type that a table gives to a kind: that of the longest key that covers it, and the fallback where no key
does. -/
inductive Gives (kind : String) : TokenType → Prop
  | entry {key : String} {t : TokenType} (hlookup : m.table.lookup key = some t) (hcovers : Covers key kind)
      (hlongest : ∀ other, (m.table.lookup other).isSome → Covers other kind → other.length ≤ key.length) :
      Gives kind t
  | fallback (hnone : ∀ key, Covers key kind → m.table.lookup key = none) : Gives kind m.fallback

variable {m}

theorem gives_typeOf (kind : String) : m.Gives kind (m.typeOf kind) := by
  rw [typeOf]
  cases hentry : longestEntry m.table (segments '.' kind.toList) (segments '.' kind.toList).length with
  | none =>
      refine .fallback fun key hcovers => ?_
      obtain ⟨count, hpos, hle, rfl⟩ := covers_iff.mp hcovers
      exact longestEntry_eq_none hentry hpos hle
  | some t =>
      obtain ⟨found, hpos, hle, hlookup, hlonger⟩ := longestEntry_eq_some hentry
      refine .entry hlookup (covers_iff.mpr ⟨found, hpos, hle, rfl⟩) fun other hother hcovers => ?_
      obtain ⟨count, _, hcount, rfl⟩ := covers_iff.mp hcovers
      by_cases hlt : found < count
      · rw [hlonger count hcount hlt] at hother
        cases hother
      · exact length_startOfKind_le kind (Nat.not_lt.mp hlt)

/-- A kind has one type. -/
theorem Gives.unique {kind : String} {t t' : TokenType} (h : m.Gives kind t) (h' : m.Gives kind t') : t = t' := by
  cases h with
  | @entry key t hlookup hcovers hlongest =>
      cases h' with
      | @entry other t' hlookup' hcovers' hlongest' =>
          have hle := hlongest other (by rw [hlookup', Option.isSome_some]) hcovers'
          have hge := hlongest' key (by rw [hlookup, Option.isSome_some]) hcovers
          rw [hcovers.eq_of_length_eq hcovers' (Nat.le_antisymm hge hle)] at hlookup
          exact Option.some.inj (hlookup.symm.trans hlookup')
      | fallback hnone =>
          rw [hnone key hcovers] at hlookup
          cases hlookup
  | fallback hnone =>
      cases h' with
      | @entry other t' hlookup' hcovers' _ =>
          rw [hnone other hcovers'] at hlookup'
          cases hlookup'
      | fallback _ => rfl

/-- What is remembered is what the table gives. -/
def Memory.Holds (m : StyleMap) (memory : Memory) : Prop :=
  ∀ kind t, memory.lookup kind = some t → t = m.typeOf kind

theorem ask_of_holds {memory : Memory} (h : memory.Holds m) (kind : String) :
    (m.ask kind memory).1 = m.typeOf kind ∧ (m.ask kind memory).2.Holds m := by
  unfold ask
  split
  · rename_i t hlookup
    exact ⟨h kind t hlookup, h⟩
  · refine ⟨rfl, fun other t hlookup => ?_⟩
    rw [List.lookup_cons] at hlookup
    split at hlookup
    · rename_i hsame
      cases hlookup
      rw [beq_iff_eq.mp hsame]
    · exact h other t hlookup

theorem typesOf_of_holds {memory : Memory} (h : memory.Holds m) (kinds : List String) :
    m.typesOf kinds memory = kinds.map m.typeOf := by
  induction kinds generalizing memory with
  | nil => rfl
  | cons kind rest ih =>
      obtain ⟨hanswer, hmemory⟩ := ask_of_holds h kind
      change (m.ask kind memory).1 :: m.typesOf rest (m.ask kind memory).2 = _
      rw [hanswer, ih hmemory, List.map_cons]

/-- Each of several kinds, asked for one after another, gets the type that the longest key covering it has, or the
fallback if no key covers it, whatever is asked for before it and after it. -/
theorem typesOf_go_by_longest_key (m : StyleMap) (before : List String) (kind : String) (after : List String) :
    (m.typesOf (before ++ kind :: after) []).length = before.length + 1 + after.length ∧
      ∀ t, (m.typesOf (before ++ kind :: after) [])[before.length]? = some t ↔ m.Gives kind t := by
  have hanswers : m.typesOf (before ++ kind :: after) [] = (before ++ kind :: after).map m.typeOf :=
    typesOf_of_holds (by simp [Memory.Holds]) _
  have hanswer : ((before ++ kind :: after).map m.typeOf)[before.length]? = some (m.typeOf kind) := by
    simp
  rw [hanswers]
  refine ⟨by simp [Nat.add_assoc, Nat.add_comm 1], fun t => ?_⟩
  rw [hanswer, Option.some.injEq]
  constructor
  · rintro rfl
    exact gives_typeOf kind
  · exact (gives_typeOf kind).unique

/-- The empty key covers what begins with a dot, and the root of all types is remembered like any other. -/
example : StyleMap.typesOf ⟨[("", ⟨[]⟩), ("a.", ⟨["Name"]⟩)], TokenType.text⟩ [".b", "", "a", "a..b", ".b"] [] =
    [⟨[]⟩, ⟨[]⟩, TokenType.text, ⟨["Name"]⟩, ⟨[]⟩] := by
  decide +kernel

end StyleMap

end ModalHighlight
