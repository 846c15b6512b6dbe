import ModeLexer.Expectation
import ModeLexer.Main
import ModeLexer.Definition.ToJson
import ModeLexer.Proofs.Asm.Isolation
import ModeLexer.Proofs.Document.Lines
import ModeLexer.Proofs.Document.Resumption
import ModeLexer.Proofs.Scanner.Coverage
import ModeLexer.Proofs.Scanner.Reentry
import ModeLexer.Proofs.Scanner.Run
import ModeLexer.Proofs.Scanner.StackSafety
import ModeLexer.Proofs.Scanner.Termination
import ModeLexer.Proofs.Table.Validity
import ModeLexer.Proofs.Asm.Closing
import ModeLexer.Proofs.Definition.Notation
import ModeLexer.Proofs.Json.RoundTrip
import ModeLexer.Proofs.Scanner.ZeroWidth
import ModeLexer.Proofs.Definition.RoundTrip
import ModeLexer.Proofs.Regex.Reader
import ModeLexer.Proofs.Regex.Reading
import ModeLexer.Proofs.Regex.Nesting
import ModeLexer.Proofs.Regex.Numbering
import ModeLexer.Proofs.Pattern.Anchoring
import ModeLexer.Proofs.Scanner.GroupTokens
import ModeLexer.Proofs.Asm.Comments
import ModeLexer.Proofs.Regex.Outcomes
import ModeLexer.Proofs.Regex.Traces
import ModeLexer.Proofs.Regex.Completeness
import ModeLexer.Proofs.Regex.Renumbering
import ModeLexer.Proofs.Pattern.Groups
import ModeLexer.Proofs.Regex.Following
import ModeLexer.Proofs.Regex.Suffixes
import ModeLexer.Proofs.Pattern.TrailingLookahead
import ModeLexer.Proofs.Regex.Places
import ModeLexer.Proofs.Pattern.OwnGroups
import ModeLexer.Proofs.Pattern.References
import ModeLexer.Proofs.Pattern.Expansion
import ModeLexer.Proofs.Pattern.LibraryTexts
import ModeLexer.Proofs.Table.Expanded
import ModeLexer.Proofs.Table.Spliced
import ModeLexer.Proofs.Regex.LookAround
import ModeLexer.Proofs.Regex.PlainNames
import ModeLexer.Proofs.Regex.PlainText
import ModeLexer.Proofs.Pattern.LookaheadScan
import ModeLexer.Proofs.Pattern.ScanClass
import ModeLexer.Proofs.Pattern.ScanTerm
import ModeLexer.Proofs.Pattern.LookaheadSplit
import ModeLexer.Proofs.Scanner.StackGrowth
import ModeLexer.Proofs.Document.Grouping
import ModeLexer.Proofs.Regex.Capturing
import ModeLexer.Proofs.Scanner.Labelling
import ModeLexer.Proofs.Scanner.Steady
import ModeLexer.Proofs.Regex.Edges
import ModeLexer.Proofs.Scanner.Origin
import ModeLexer.Proofs.Asm.Traits
import ModeLexer.Proofs.Asm.Undisturbed
import ModeLexer.Proofs.Asm.WholeWords
import ModeLexer.Proofs.Listing.Agreement
import ModeLexer.Proofs.Json.Indented
import ModeLexer.Proofs.Listing.Lossless
import ModeLexer.Proofs.Text.Quoted
import ModeLexer.Proofs.Listing.Unambiguous
import ModeLexer.Proofs.Unicode.AsciiCase
import ModeLexer.Proofs.Regex.IgnoredCase
import ModeLexer.Proofs.Regex.CaseBlind
import ModeLexer.Proofs.Scanner.CaseBlind
import ModeLexer.Proofs.Table.IgnoredCase
import ModeLexer.Proofs.Document.LineEnds
import ModeLexer.Proofs.Document.CoverCheck
import ModeLexer.Proofs.Definition.Targets
import ModeLexer.Proofs.Cli.Agreement
import ModeLexer.Proofs.Registry.LastWriter
import ModeLexer.Proofs.Definition.Accepted
