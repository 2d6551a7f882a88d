import ModalHighlight.Files.Tree
import ModalHighlight.Main
import ModalHighlight.Session
import ModalHighlight.Proofs.Scan.Run
import ModalHighlight.Proofs.Scan.Coverage
import ModalHighlight.Proofs.Grammar.Includes
import ModalHighlight.Proofs.Grammar.Cycles
import ModalHighlight.Proofs.Grammar.GroupNames
import ModalHighlight.Proofs.Grammar.RuleChecks
import ModalHighlight.Proofs.Grammar.Accepted
import ModalHighlight.Proofs.Grammar.Reports
import ModalHighlight.Proofs.Scan.Failure
import ModalHighlight.Proofs.Session.Consistency
import ModalHighlight.Proofs.Grammar.Expansion
import ModalHighlight.Proofs.Grammar.Outline
import ModalHighlight.Proofs.Pattern.Shapes
import ModalHighlight.Proofs.Grammar.Components
import ModalHighlight.Proofs.TypedText.Layout
import ModalHighlight.Proofs.Scan.Readings
import ModalHighlight.Proofs.Koto.Delimiters
import ModalHighlight.Proofs.Koto.Nesting
import ModalHighlight.Proofs.Scan.Labelling
import ModalHighlight.Proofs.Session.Locality
import ModalHighlight.Proofs.Session.Interruption
import ModalHighlight.Proofs.TypedText.Lossless
import ModalHighlight.Proofs.Grammar.Reading
import ModalHighlight.Proofs.Grammar.Places
import ModalHighlight.Proofs.Scan.MatchGroups
import ModalHighlight.Proofs.Pattern.Firsts
import ModalHighlight.Proofs.Scan.Literals
import ModalHighlight.Proofs.Koto.Strings
import ModalHighlight.Proofs.Scan.Enclosure
import ModalHighlight.Proofs.Pattern.Ways
import ModalHighlight.Proofs.Pattern.WholeWords
import ModalHighlight.Proofs.Koto.Rules
import ModalHighlight.Proofs.Koto.Comments
import ModalHighlight.Proofs.Koto.Names
import ModalHighlight.Proofs.Pattern.KnownText
import ModalHighlight.Proofs.Koto.Numbers
import ModalHighlight.Proofs.Style.LongestKey
import ModalHighlight.Proofs.Scan.FallbackKind
import ModalHighlight.Proofs.Session.PlainEdits
import ModalHighlight.Proofs.Words.Arrangement
import ModalHighlight.Proofs.Words.Reading
import ModalHighlight.Proofs.Words.Branches
import ModalHighlight.Proofs.Words.Trees
import ModalHighlight.Proofs.Words.LongestItem
import ModalHighlight.Proofs.Scan.Transitions
import ModalHighlight.Proofs.Data.WholeNumbers
import ModalHighlight.Proofs.Grammar.Refusals
import ModalHighlight.Proofs.Config.Misfits
