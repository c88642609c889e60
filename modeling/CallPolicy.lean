import CallPolicy.FileTree
import CallPolicy.Main
import CallPolicy.Proofs.Batches
import CallPolicy.Proofs.CallKinds
import CallPolicy.Proofs.CallSiteForms
import CallPolicy.Proofs.CanonicalNames
import CallPolicy.Proofs.CompactReports
import CallPolicy.Proofs.Completions
import CallPolicy.Proofs.Decoration
import CallPolicy.Proofs.EntryByEntry
import CallPolicy.Proofs.Evaluation
import CallPolicy.Proofs.ExtendedRules
import CallPolicy.Proofs.ForbiddenPlaces
import CallPolicy.Proofs.Glob.Literal
import CallPolicy.Proofs.Grounds
import CallPolicy.Proofs.IntegerLiterals
import CallPolicy.Proofs.LoadedConditions
import CallPolicy.Proofs.Messages
import CallPolicy.Proofs.NamePatterns
import CallPolicy.Proofs.NearestConfiguration
import CallPolicy.Proofs.Path.Composition
import CallPolicy.Proofs.PatternGrammar
import CallPolicy.Proofs.PrefixPatterns
import CallPolicy.Proofs.RecasedReports
import CallPolicy.Proofs.Relocation
import CallPolicy.Proofs.SatisfiableRules
import CallPolicy.Proofs.Separators
import CallPolicy.Proofs.SharedRoot
import CallPolicy.Proofs.SymbolEquality
import CallPolicy.Proofs.UnknownArguments
import CallPolicy.Proofs.WellFormedRules
import CallPolicy.Proofs.WrittenReports
