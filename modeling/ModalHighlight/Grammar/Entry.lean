import ModalHighlight.Data.Value
import ModalHighlight.Pattern.Basic

/-!
Rule groups as they are written.  A group is a list of entries: a rule matches a pattern and names the
kinds of its tokens, an include stands for the rules of another group, and a default names the kind of
the text that no rule matches.
-/

namespace ModalHighlight

/-- The pattern of a rule: a text, a pattern that has been read already, or a value of a type that is
no pattern. -/
inductive PatternSource
  | text (s : String)
  | ready (pattern : Pattern)
  | other (value : Value)

mutual

/-- What a rule opens when it matches: nothing, a group by its name, or a group written in place. -/
inductive Push
  | nothing
  | group (name : String)
  | inline (entries : List Entry)

/-- One entry of a group. -/
inductive Entry
  | rule (kinds : List String) (pattern : PatternSource) (push : Push) (next : Option String)
  | includeGroup (name : String)
  | defaultKind (kind : String)

end

instance : Inhabited Entry := ⟨.defaultKind ""⟩

/-- Rule groups by name, in order. -/
abbrev GroupTable := List (String × List Entry)

end ModalHighlight
