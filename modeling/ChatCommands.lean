import ChatCommands.LogSetup
import ChatCommands.Main
import ChatCommands.Naming
import ChatCommands.Proofs.Act
import ChatCommands.Proofs.Pattern.Form
import ChatCommands.Proofs.Pattern.Outcome
import ChatCommands.Proofs.Pattern.Route
import ChatCommands.Proofs.Pattern.Derivation
import ChatCommands.Proofs.Pattern.Reading
import ChatCommands.Proofs.Text.Words
import ChatCommands.Proofs.Pattern.Even
import ChatCommands.Proofs.Pattern.Acceptance
import ChatCommands.Proofs.Pattern.Completion
import ChatCommands.Proofs.Pattern.Spacing
import ChatCommands.Proofs.Usage.Language
import ChatCommands.Proofs.Usage.Grammar
import ChatCommands.Proofs.Usage.Trailing
import ChatCommands.Proofs.Usage.Cursor
import ChatCommands.Proofs.Handler.Step
import ChatCommands.Proofs.Handler.Phases
import ChatCommands.Proofs.Handler.Recorded
import ChatCommands.Proofs.Handler.Effects
import ChatCommands.Proofs.Registry.FirstWord
import ChatCommands.Proofs.Handler.Fresh
import ChatCommands.Proofs.Handler.Order
import ChatCommands.Proofs.Handler.Resumed
import ChatCommands.Proofs.Parser.Calls
import ChatCommands.Proofs.Converters.Check
import ChatCommands.Proofs.Converters.Agreement
import ChatCommands.Proofs.Registry.Configured
import ChatCommands.Proofs.Registry.Registration
import ChatCommands.Proofs.Registry.LongestAlias
import ChatCommands.Proofs.Registry.Invocation
import ChatCommands.Proofs.Parser.Kept
import ChatCommands.Proofs.Parameters.Fixup
import ChatCommands.Proofs.Pattern.Swapped
import ChatCommands.Proofs.Parser.Swapped
import ChatCommands.Proofs.Usage.Followed
import ChatCommands.Proofs.Usage.Pointing
import ChatCommands.Proofs.Usage.Respaced
import ChatCommands.Proofs.Restriction.Verdict
import ChatCommands.Proofs.Parser.Grouped
import ChatCommands.Proofs.Converters.Numeric
import ChatCommands.Proofs.Glob.Segmentwise
import ChatCommands.Proofs.Glob.Expansion
import ChatCommands.Proofs.Text.Parts
import ChatCommands.Proofs.Parameters.Walks
import ChatCommands.Proofs.Pattern.Cached
import ChatCommands.Proofs.Registry.Inclusion
import ChatCommands.Proofs.Pattern.Groups
import ChatCommands.Proofs.Usage.Spans
