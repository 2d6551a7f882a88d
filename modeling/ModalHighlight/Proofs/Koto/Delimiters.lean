import ModalHighlight.Koto.Grammar
import ModalHighlight.Proofs.Grammar.Outline

/-!
The current language in lines of delimiters.  Words, numbers and typed names need a letter or a digit, so
none of their rules matches in such a line, and a short outline of the table is left.  It can be expanded,
so the grammar compiles, and each mode is summed up by a few rules.
-/

namespace ModalHighlight.Koto

open Pattern

/-- The characters that nesting hangs on, and the blank. -/
def delimiters : List Char :=
  ['"', '\'', '{', '}', '[', ']', '(', ')', '|', ',', '$', '#', '-', '\\', ' ']

/-- What the groups of the current language come to in lines of delimiters. -/
def outline : Outline :=
  [("start", [.inner "#all"]),
    ("#all",
      [.inner "#comment-block", .rule (.line ['#']) .stay, .inner "#keyword", .inner "#number",
        .inner "#return_type", .inner "#operator", .inner "#punctuation", .inner "#section",
        .inner "#string", .inner "#let", .inner "#function", .inner "#identifier"]),
    ("#comment-block/0",
      [.rule (.two ['-'] ['#']) .pop, .rule (.two ['\\'] delimiters) .stay,
        .inner "#comment-block"]),
    ("#comment-block", [.rule (.two ['#'] ['-']) (.push "#comment-block/0")]),
    ("#keyword", []),
    ("#number", []),
    ("#operator", [.rule (.one ['-']) .stay]),
    ("#punctuation", [.rule (.one ['(', ')']) .stay, .rule (.one [',']) .stay]),
    ("#string", [.inner "#string-single-quoted", .inner "#string-double-quoted"]),
    ("#string-double-quoted/0",
      [.rule (.one ['"']) .pop, .inner "#string-escape", .inner "#string-template"]),
    ("#string-double-quoted", [.rule (.one ['"']) (.push "#string-double-quoted/0")]),
    ("#identifier", []),
    ("#string-single-quoted/0",
      [.rule (.one ['\'']) .pop, .inner "#string-escape", .inner "#string-template"]),
    ("#string-single-quoted", [.rule (.one ['\'']) (.push "#string-single-quoted/0")]),
    ("#string-escape",
      [.rule (.two ['\\'] ['"', '\'', '$', '\\']) .stay, .rule (.last ['\\']) .stay]),
    ("#string-template/0", [.rule (.one ['}']) .pop, .inner "#all"]),
    ("#string-template", [.rule (.two ['$'] ['{']) (.push "#string-template/0")]),
    ("#section/0", [.rule (.one ['}']) .pop, .inner "#all"]),
    ("#section/1", [.rule (.one [']']) .pop, .inner "#all"]),
    ("#section",
      [.rule (.one ['{']) (.push "#section/0"), .rule (.one ['[']) (.push "#section/1")]),
    ("#id_with_type", []),
    ("#let/0", [.inner "#id_with_type"]),
    ("#let", []),
    ("#function/0",
      [.rule (.one ['|']) .pop, .inner "#function_arguments", .inner "#return_type"]),
    ("#function", [.rule (.one ['|']) (.push "#function/0")]),
    ("#function_arguments/0", [.rule (.one [')']) .pop, .inner "#function_arguments"]),
    ("#function_arguments",
      [.rule (.one ['(']) (.push "#function_arguments/0"), .rule (.one [',']) .stay,
        .inner "#id_with_type"]),
    ("#return_type", [])]

/-- Every pattern of the language is read here, once. -/
theorem hasOutline : HasOutline delimiters (groups Dialect.standard) outline := by
  unfold HasOutline
  decide +kernel

/-- A depth that leaves room for the includes of the language. -/
def includeDepth : Nat := 6

theorem expandable_outline : outline.Expandable includeDepth := by
  unfold Outline.Expandable
  decide +kernel

/-- The rules that a mode comes to in lines of delimiters. -/
def modeSummary (mode : String) : List RuleSummary :=
  (expandOutline? outline includeDepth mode).getD []

/-- The current language compiles, and its modes are summed up by the outline. -/
theorem exists_grammar_standard :
    ∃ g, grammar Dialect.standard = .ok g ∧
      ∀ group ∈ outline.map (·.1),
        ∃ mode, g.mode? group = some mode ∧ SumUp delimiters mode.rules (modeSummary group) := by
  obtain ⟨g, hg, hmodes⟩ := hasOutline.compiles (by decide +kernel) (by decide +kernel)
    (by decide +kernel) expandable_outline (.name textKind)
  refine ⟨g, hg, fun group hgroup => ?_⟩
  obtain ⟨summary, hsummary⟩ := Option.isSome_iff_exists.mp (expandable_outline group hgroup)
  rw [modeSummary, hsummary]
  exact hmodes group summary hsummary

end ModalHighlight.Koto
