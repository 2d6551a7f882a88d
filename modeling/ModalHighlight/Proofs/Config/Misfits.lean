import ModalHighlight.Config.Basic
import ModalHighlight.Proofs.Data.WholeNumbers

/-!
Configurations that do not fit.  A document gives a configuration with a registered dialect, or it is
complained about for naming another.  Where a section is no table, a dialect is of a type that names nothing,
or a grammar is no text, taking the document over breaks off without a complaint.
-/

namespace ModalHighlight

/-- The value is a list or a table. -/
def Value.IsCollection (value : Value) : Prop :=
  (∃ items, value = .list items) ∨ ∃ fields, value = .table fields

namespace Config

section

variable (fields : List (String × Value))

/-- The dialect that a section on highlighting asks for. -/
def dialectField : Value :=
  (Value.field? "dialect" fields).getD (.str Koto.Dialect.standard.name)

/-- A section on highlighting names a registered dialect, and its grammar, unless it counts as absent, is a
text. -/
structure HighlightFits (d : Koto.Dialect) : Prop where
  registered : d ∈ Koto.Dialect.registered
  dialect : dialectField fields = .str d.name
  grammar : ∀ value, Value.field? "grammar" fields = some value → value.isPresent = true →
    ∃ name, value = .str name

/-- The dialect of a document whose section on highlighting fits, or that has none. -/
inductive HasDialect : Koto.Dialect → Prop
  | standard (hmissing : Value.field? "highlight" fields = none) : HasDialect .standard
  | named {inner : List (String × Value)} {d : Koto.Dialect}
      (hsection : Value.field? "highlight" fields = some (.table inner)) (hfits : HighlightFits inner d) :
      HasDialect d

/-- What in a document does not fit, and the error that it leads to.  The section on highlighting comes before
that on output, and the dialect before the grammar. -/
inductive Misfit : ConfigError → Prop
  | highlight {value : Value} (hsection : Value.field? "highlight" fields = some value)
      (hvalue : ∀ inner, value ≠ .table inner) : Misfit (.sectionNotTable "highlight")
  | dialect {inner : List (String × Value)}
      (hsection : Value.field? "highlight" fields = some (.table inner))
      (hdialect : (dialectField inner).IsCollection) : Misfit .dialectNotName
  | number {inner : List (String × Value)} {n : Int}
      (hsection : Value.field? "highlight" fields = some (.table inner))
      (hdialect : dialectField inner = .int n) (hlong : ¬ Value.HasDisplay (.int n)) : Misfit .numberTooLong
  | grammar {inner : List (String × Value)} {d : Koto.Dialect} {value : Value}
      (hsection : Value.field? "highlight" fields = some (.table inner))
      (hregistered : d ∈ Koto.Dialect.registered) (hdialect : dialectField inner = .str d.name)
      (hgrammar : Value.field? "grammar" inner = some value) (hpresent : value.isPresent = true)
      (hvalue : ∀ name, value ≠ .str name) : Misfit .grammarNotPath
  | output {d : Koto.Dialect} {value : Value} (hdialect : HasDialect fields d)
      (hsection : Value.field? "output" fields = some value) (hvalue : ∀ inner, value ≠ .table inner) :
      Misfit (.sectionNotTable "output")

/-- A document asks for a dialect that is not registered, by a value that can be displayed. -/
structure AsksForUnknown (value : Value) : Prop where
  exists_section : ∃ inner, Value.field? "highlight" fields = some (.table inner) ∧
    dialectField inner = value
  not_isCollection : ¬ value.IsCollection
  hasDisplay : value.HasDisplay
  not_registered : ∀ d ∈ Koto.Dialect.registered, value ≠ .str d.name

end

/-- What comes of a document: a configuration, a complaint about its dialect, or an error about what does not
fit. -/
inductive Outcome (path : Path) (fields : List (String × Value)) : Except ConfigError Config → Prop
  | config {config : Config} (hdialect : HasDialect fields config.dialect) : Outcome path fields (.ok config)
  | complaint {value : Value} (hunknown : AsksForUnknown fields value) :
      Outcome path fields (.error (.complaint ⟨path, Koto.Dialect.unknownMessage value.quotedDisplay⟩))
  | misfit {e : ConfigError} (hmisfit : Misfit fields e) : Outcome path fields (.error e)

theorem section?_table {name : String} {fields inner : List (String × Value)}
    (h : Value.field? name fields = some (.table inner)) : section? name fields = .ok (some inner) := by
  rw [section?, h]

theorem section?_missing {name : String} {fields : List (String × Value)}
    (h : Value.field? name fields = none) : section? name fields = .ok none := by
  rw [section?, h]

theorem section?_other {name : String} {fields : List (String × Value)} {value : Value}
    (h : Value.field? name fields = some value)
    (hvalue : ∀ inner, value ≠ .table inner) : section? name fields = .error (.sectionNotTable name) := by
  rw [section?, h]
  cases value with
  | table inner => exact absurd rfl (hvalue inner)
  | _ => rfl

theorem mem_registered_of_ofName? {name : String} {d : Koto.Dialect}
    (h : Koto.Dialect.ofName? name = some d) : d ∈ Koto.Dialect.registered ∧ d.name = name :=
  ⟨List.mem_of_find?_eq_some h, by simpa using List.find?_some h⟩

theorem dialectOf_registered (path : Path) {d : Koto.Dialect} (h : d ∈ Koto.Dialect.registered) :
    dialectOf path (.str d.name) = .ok d := by
  simp only [dialectOf, Koto.Dialect.ofName?_name h]

theorem dialectOf_collection (path : Path) {value : Value} (h : value.IsCollection) :
    dialectOf path value = .error .dialectNotName := by
  rcases h with ⟨items, rfl⟩ | ⟨fields, rfl⟩ <;> rfl

theorem dialectOf_unknown (path : Path) {value : Value} (hcollection : ¬ value.IsCollection)
    (h : ∀ d ∈ Koto.Dialect.registered, value ≠ .str d.name) :
    dialectOf path value =
      if value.isDisplayable then
        .error (.complaint ⟨path, Koto.Dialect.unknownMessage value.quotedDisplay⟩)
      else .error .numberTooLong := by
  cases value with
  | list items => exact absurd (Or.inl ⟨items, rfl⟩) hcollection
  | table fields => exact absurd (Or.inr ⟨fields, rfl⟩) hcollection
  | str name =>
      cases hname : Koto.Dialect.ofName? name with
      | none => simp only [dialectOf, hname]
      | some d =>
          obtain ⟨hregistered, hd⟩ := mem_registered_of_ofName? hname
          exact absurd (hd ▸ rfl) (h d hregistered)
  | _ => rfl

theorem dialectOf_int_of_not_hasDisplay (path : Path) {n : Int} (h : ¬ Value.HasDisplay (.int n)) :
    dialectOf path (.int n) = .error .numberTooLong := by
  have hcollection : ¬ Value.IsCollection (.int n) := by
    rintro (⟨_, ⟨⟩⟩ | ⟨_, ⟨⟩⟩)
  generalize hvalue : Value.int n = value at h hcollection
  have hunknown := dialectOf_unknown path hcollection (by rintro d _ rfl; cases hvalue)
  rwa [if_neg (show ¬ value.isDisplayable = true from h)] at hunknown

/-- Of the values that are no collections only whole numbers can be too long to be displayed. -/
theorem exists_int_of_not_hasDisplay {value : Value} (hcollection : ¬ value.IsCollection)
    (h : ¬ value.HasDisplay) : ∃ n, value = .int n := by
  cases value with
  | int n => exact ⟨n, rfl⟩
  | list items => exact absurd (Or.inl ⟨items, rfl⟩) hcollection
  | table fields => exact absurd (Or.inr ⟨fields, rfl⟩) hcollection
  | _ => exact absurd rfl h

theorem grammarOf_other (path : Path) {value : Value} (hpresent : value.isPresent = true)
    (hvalue : ∀ name, value ≠ .str name) : grammarOf path (some value) = .error .grammarNotPath := by
  cases value with
  | str name => exact absurd rfl (hvalue name)
  | _ => simp [grammarOf, hpresent]

theorem exists_grammarOf (path : Path) {value? : Option Value}
    (h : ∀ value, value? = some value → value.isPresent = true → ∃ name, value = .str name) :
    ∃ grammar, grammarOf path value? = .ok grammar := by
  cases value? with
  | none => exact ⟨none, rfl⟩
  | some value =>
      by_cases hpresent : value.isPresent = true
      · obtain ⟨name, rfl⟩ := h value rfl hpresent
        exact ⟨some ((Path.ofText name).within path.parent), by rw [grammarOf, if_pos hpresent]⟩
      · exact ⟨none, by cases value <;> simp [grammarOf, hpresent]⟩

section

variable {path : Path} {config : Config} {fields inner : List (String × Value)} {d : Koto.Dialect}
  {e : ConfigError}

theorem withHighlight_of_dialect_error (h : dialectOf path (dialectField inner) = .error e) :
    withHighlight config path inner = .error e := by
  rw [dialectField] at h
  rw [withHighlight, h]
  rfl

theorem withHighlight_of_grammar_error (hdialect : dialectOf path (dialectField inner) = .ok d)
    (h : grammarOf path (Value.field? "grammar" inner) = .error e) :
    withHighlight config path inner = .error e := by
  rw [dialectField] at hdialect
  rw [withHighlight, hdialect, h]
  rfl

/-- A section that fits is taken over with its dialect. -/
theorem HighlightFits.exists_withHighlight (h : HighlightFits inner d) (config : Config) (path : Path) :
    ∃ taken, withHighlight config path inner = .ok taken ∧ taken.dialect = d := by
  have hdialect := dialectOf_registered path h.registered
  rw [← h.dialect, dialectField] at hdialect
  obtain ⟨grammar, hgrammar⟩ := exists_grammarOf path h.grammar
  rw [withHighlight, hdialect, hgrammar]
  exact ⟨_, rfl, rfl⟩

theorem ofFields_of_section_error (h : section? "highlight" fields = .error e) :
    ofFields path fields = .error e := by
  rw [ofFields, h]
  rfl

theorem ofFields_of_highlight_error (hsection : Value.field? "highlight" fields = some (.table inner))
    (h : withHighlight {} path inner = .error e) : ofFields path fields = .error e := by
  rw [ofFields, section?_table hsection]
  simp only [bind, Except.bind, h]

/-- Where the section on highlighting fits, only the section on output remains to be taken over. -/
theorem HasDialect.exists_ofFields (h : HasDialect fields d) (path : Path) :
    ∃ config : Config, config.dialect = d ∧
      ofFields path fields = (section? "output" fields).map fun
        | some inner => config.withOutput inner
        | none => config := by
  cases h with
  | standard hmissing =>
      refine ⟨{}, rfl, ?_⟩
      rw [ofFields, section?_missing hmissing]
      cases section? "output" fields with
      | error e => rfl
      | ok inner => cases inner <;> rfl
  | named hsection hfits =>
      obtain ⟨taken, htaken, hdialect⟩ := hfits.exists_withHighlight {} path
      refine ⟨taken, hdialect, ?_⟩
      rw [ofFields, section?_table hsection]
      simp only [bind, Except.bind, htaken]
      cases section? "output" fields with
      | error e => rfl
      | ok inner => cases inner <;> rfl

theorem HasDialect.mem_registered (h : HasDialect fields d) : d ∈ Koto.Dialect.registered := by
  cases h with
  | standard _ => exact List.mem_cons_self
  | named _ hfits => exact hfits.registered

/-- What does not fit leads to its error. -/
theorem Misfit.ofFields_eq (h : Misfit fields e) : ofFields path fields = .error e := by
  cases h with
  | highlight hsection hvalue => exact ofFields_of_section_error (section?_other hsection hvalue)
  | dialect hsection hdialect =>
      exact ofFields_of_highlight_error hsection
        (withHighlight_of_dialect_error (dialectOf_collection path hdialect))
  | number hsection hdialect hlong =>
      refine ofFields_of_highlight_error hsection (withHighlight_of_dialect_error ?_)
      rw [hdialect]
      exact dialectOf_int_of_not_hasDisplay path hlong
  | grammar hsection hregistered hdialect hgrammar hpresent hvalue =>
      have hnamed := dialectOf_registered path hregistered
      rw [← hdialect] at hnamed
      refine ofFields_of_highlight_error hsection (withHighlight_of_grammar_error hnamed ?_)
      rw [hgrammar]
      exact grammarOf_other path hpresent hvalue
  | output hdialect hsection hvalue =>
      obtain ⟨config, _, hfields⟩ := hdialect.exists_ofFields path
      rw [hfields, section?_other hsection hvalue]
      rfl

theorem Misfit.outcome (h : Misfit fields e) (path : Path) : Outcome path fields (ofFields path fields) := by
  rw [h.ofFields_eq]
  exact .misfit h

theorem outcome_of_hasDialect (path : Path) (h : HasDialect fields d) :
    Outcome path fields (ofFields path fields) := by
  obtain ⟨config, rfl, hfields⟩ := h.exists_ofFields path
  rw [hfields]
  cases houtput : Value.field? "output" fields with
  | none =>
      rw [section?_missing houtput]
      exact .config h
  | some value =>
      by_cases htable : ∃ inner, value = .table inner
      · obtain ⟨inner, rfl⟩ := htable
        rw [section?_table houtput]
        exact .config h
      · have hvalue : ∀ inner, value ≠ .table inner := fun inner hinner => htable ⟨inner, hinner⟩
        rw [section?_other houtput hvalue]
        exact .misfit (.output h houtput hvalue)

theorem outcome_of_section (path : Path)
    (hsection : Value.field? "highlight" fields = some (.table inner)) :
    Outcome path fields (ofFields path fields) := by
  by_cases hregistered : ∃ d ∈ Koto.Dialect.registered, dialectField inner = .str d.name
  · obtain ⟨d, hd, hdialect⟩ := hregistered
    by_cases hgrammar : ∀ value, Value.field? "grammar" inner = some value → value.isPresent = true →
        ∃ name, value = .str name
    · exact outcome_of_hasDialect path (.named hsection ⟨hd, hdialect, hgrammar⟩)
    · push Not at hgrammar
      obtain ⟨value, hvalue, hpresent, hother⟩ := hgrammar
      exact (Misfit.grammar hsection hd hdialect hvalue hpresent hother).outcome path
  · push Not at hregistered
    by_cases hcollection : (dialectField inner).IsCollection
    · exact (Misfit.dialect hsection hcollection).outcome path
    by_cases hdisplay : (dialectField inner).HasDisplay
    · have hunknown := dialectOf_unknown path hcollection hregistered
      rw [if_pos (show (dialectField inner).isDisplayable = true from hdisplay)] at hunknown
      rw [ofFields_of_highlight_error hsection (withHighlight_of_dialect_error hunknown)]
      exact .complaint ⟨⟨inner, hsection, rfl⟩, hcollection, hdisplay, hregistered⟩
    · obtain ⟨n, hn⟩ := exists_int_of_not_hasDisplay hcollection hdisplay
      exact (Misfit.number hsection hn (hn ▸ hdisplay)).outcome path

theorem outcome_ofFields (path : Path) (fields : List (String × Value)) :
    Outcome path fields (ofFields path fields) := by
  cases hsection : Value.field? "highlight" fields with
  | none => exact outcome_of_hasDialect path (.standard hsection)
  | some value =>
      by_cases htable : ∃ inner, value = .table inner
      · obtain ⟨inner, rfl⟩ := htable
        exact outcome_of_section path hsection
      · have hvalue : ∀ inner, value ≠ .table inner := fun inner hinner => htable ⟨inner, hinner⟩
        exact (Misfit.highlight hsection hvalue).outcome path

end

/-- A document gives a configuration with a registered dialect, or a complaint about the dialect that it asks
for, unless something in it does not fit.  That leads to an error that is no complaint.  A faulty document is
complained about. -/
theorem ofText_gives_config_or_complains_unless_misfit (path : Path) (text : String) :
    (∀ cause offset, Data.Toml.parse text = .error (.fault cause offset) →
      ofText path text = .error (.complaint ⟨path, Data.Toml.messageIn text cause offset⟩)) ∧
    ∀ fields, Data.Toml.parse text = .ok fields →
      (∀ e, Misfit fields e → ofText path text = .error e ∧ ∀ c, e ≠ .complaint c) ∧
      ((∀ e, ¬ Misfit fields e) →
        (∃ config, ofText path text = .ok config ∧ config.dialect ∈ Koto.Dialect.registered ∧
          HasDialect fields config.dialect) ∨
        ∃ value, AsksForUnknown fields value ∧ ofText path text =
          .error (.complaint ⟨path, Koto.Dialect.unknownMessage value.quotedDisplay⟩)) := by
  constructor
  · intro cause offset hparse
    simp only [ofText, hparse]
  · intro fields hparse
    have hfields : ofText path text = ofFields path fields := by
      simp only [ofText, hparse]
    rw [hfields]
    constructor
    · intro e hmisfit
      refine ⟨hmisfit.ofFields_eq, ?_⟩
      rintro c rfl
      cases hmisfit
    · intro hfits
      have houtcome := outcome_ofFields path fields
      generalize ofFields path fields = outcome at houtcome
      cases houtcome with
      | config hdialect => exact Or.inl ⟨_, rfl, hdialect.mem_registered, hdialect⟩
      | complaint hunknown => exact Or.inr ⟨_, hunknown, rfl⟩
      | misfit hmisfit => exact absurd hmisfit (hfits _)

namespace MisfitsWitness

def file : Path := .ofText fileName

/-- A document with a number where the section on highlighting should be. -/
def numberText : String := "highlight = 1\n"

/-- A document that asks for a dialect and a grammar. -/
def legacyText : String := "[highlight]\ndialect = \"legacy\"\ngrammar = \"\"\n"

def legacyFields : List (String × Value) :=
  [("highlight", .table [("dialect", .str "legacy"), ("grammar", .str "")])]

theorem number_breaks_off_and_legacy_is_taken_over :
    Data.Toml.parse numberText = .ok [("highlight", .int 1)] ∧
      Misfit [("highlight", .int 1)] (.sectionNotTable "highlight") ∧
      ofText file numberText = .error (.sectionNotTable "highlight") ∧
      Data.Toml.parse legacyText = .ok legacyFields ∧ (∀ e, ¬ Misfit legacyFields e) ∧
      ∃ config, ofText file legacyText = .ok config ∧ config.dialect = Koto.Dialect.legacy := by
  have hnumber : Data.Toml.parse numberText = .ok [("highlight", .int 1)] := rfl
  have hlegacy : Data.Toml.parse legacyText = .ok legacyFields := rfl
  have hmisfit : Misfit [("highlight", .int 1)] (.sectionNotTable "highlight") :=
    .highlight rfl (by simp)
  have hfits : ∀ e, ¬ Misfit legacyFields e := by
    intro e h
    have herror : ofFields file legacyFields = .error e := h.ofFields_eq
    cases herror
  refine ⟨hnumber, hmisfit, ?_, hlegacy, hfits, ?_⟩
  · exact (((ofText_gives_config_or_complains_unless_misfit file numberText).2 _ hnumber).1 _ hmisfit).1
  · rcases ((ofText_gives_config_or_complains_unless_misfit file legacyText).2 _ hlegacy).2 hfits with
      ⟨config, hconfig, _, hdialect⟩ | ⟨value, hunknown, _⟩
    · refine ⟨config, hconfig, ?_⟩
      generalize config.dialect = d at hdialect ⊢
      cases hdialect with
      | standard hmissing => cases hmissing
      | named hsection hfits =>
          cases hsection
          have hname : Koto.Dialect.ofName? "legacy" = some d := by
            rw [Value.str.inj hfits.dialect, Koto.Dialect.ofName?_name hfits.registered]
          cases hname
          rfl
    · obtain ⟨inner, hsection, rfl⟩ := hunknown.exists_section
      cases hsection
      exact absurd rfl (hunknown.not_registered .legacy (by decide))

end MisfitsWitness

end Config

end ModalHighlight
