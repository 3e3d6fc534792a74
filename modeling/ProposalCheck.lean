import ProposalCheck.Files.Tree
import ProposalCheck.Main
import ProposalCheck.Report.Console
import ProposalCheck.Report.Session
import ProposalCheck.Tool.Summary
import ProposalCheck.Proofs.Lookups
import ProposalCheck.Proofs.Sharing
import ProposalCheck.Proofs.Independence
import ProposalCheck.Proofs.Reads
import ProposalCheck.Proofs.Visits
import ProposalCheck.Proofs.Contexts
import ProposalCheck.Proofs.Declarations
import ProposalCheck.Proofs.Lines
import ProposalCheck.Proofs.Markers
import ProposalCheck.Proofs.Fences
import ProposalCheck.Proofs.RoundTrip
import ProposalCheck.Proofs.Malformed
import ProposalCheck.Proofs.Excerpts
import ProposalCheck.Proofs.Texts
import ProposalCheck.Proofs.Spans
import ProposalCheck.Proofs.Flats
import ProposalCheck.Proofs.Views
import ProposalCheck.Proofs.Blocks
import ProposalCheck.Proofs.Places
import ProposalCheck.Proofs.Origins
import ProposalCheck.Proofs.Kinds
import ProposalCheck.Proofs.Walks
import ProposalCheck.Proofs.Prose
import ProposalCheck.Proofs.Offences
import ProposalCheck.Proofs.Captures
import ProposalCheck.Proofs.Numerals
import ProposalCheck.Proofs.Discoveries
import ProposalCheck.Proofs.Bystanders
import ProposalCheck.Proofs.BadPatterns
import ProposalCheck.Proofs.Encodings
import ProposalCheck.Proofs.FileTexts
import ProposalCheck.Proofs.Updates
import ProposalCheck.Proofs.Severities
import ProposalCheck.Proofs.ExitStatuses
import ProposalCheck.Proofs.Refusals
import ProposalCheck.Proofs.Sessions
import ProposalCheck.Proofs.Slices
import ProposalCheck.Proofs.Reporters
import ProposalCheck.Proofs.Fillings
import ProposalCheck.Proofs.Templates
import ProposalCheck.Proofs.Formats
import ProposalCheck.Proofs.Levels
import ProposalCheck.Proofs.Revisions
import ProposalCheck.Proofs.Advice
import ProposalCheck.Proofs.Records
import ProposalCheck.Proofs.Preambles
import ProposalCheck.Proofs.Annotations
import ProposalCheck.Proofs.LinkAdvice
import ProposalCheck.Proofs.Boundaries
import ProposalCheck.Proofs.Rows
import ProposalCheck.Proofs.SourceLines
import ProposalCheck.Proofs.Underlines
import ProposalCheck.Proofs.Folds
import ProposalCheck.Proofs.Pointers
import ProposalCheck.Proofs.Resolutions
import ProposalCheck.Proofs.Siblings
import ProposalCheck.Proofs.Blanks
import ProposalCheck.Proofs.Repetitions
import ProposalCheck.Proofs.LinkLines
