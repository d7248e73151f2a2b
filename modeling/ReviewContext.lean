import ReviewContext.Main
import ReviewContext.Proofs.Block.CanonicalCover
import ReviewContext.Proofs.Block.CappedWindow
import ReviewContext.Proofs.Block.CutMarker
import ReviewContext.Proofs.Block.TextualRange
import ReviewContext.Proofs.Budget.Estimate
import ReviewContext.Proofs.Command.FlagPrecedence
import ReviewContext.Proofs.Command.MachineAnswer
import ReviewContext.Proofs.Diff.Accounting
import ReviewContext.Proofs.Diff.Concatenation
import ReviewContext.Proofs.Diff.DeclaredCounts
import ReviewContext.Proofs.Diff.PatchReading
import ReviewContext.Proofs.Diff.Refusal
import ReviewContext.Proofs.Diff.ViewReading
import ReviewContext.Proofs.Extraction.BlockText
import ReviewContext.Proofs.Extraction.Coverage
import ReviewContext.Proofs.Extraction.ParseFailure
import ReviewContext.Proofs.Extraction.RemovedLines
import ReviewContext.Proofs.Finding.Anchoring
import ReviewContext.Proofs.Finding.NormalForm
import ReviewContext.Proofs.Finding.Tolerance
import ReviewContext.Proofs.Parsing.Alignment
import ReviewContext.Proofs.Parsing.Escalation
import ReviewContext.Proofs.Prompt.Fences
import ReviewContext.Proofs.Prompt.Recovery
import ReviewContext.Proofs.Script.Sequence
import ReviewContext.Proofs.Session.Independence
import ReviewContext.Proofs.Session.Staleness
import ReviewContext.Proofs.Settings.Overrides
import ReviewContext.Proofs.Span.Nesting
import ReviewContext.Proofs.Span.Preorder
