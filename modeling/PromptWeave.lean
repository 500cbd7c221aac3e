import PromptWeave.Main
import PromptWeave.Proofs.Tag.Locality
import PromptWeave.Proofs.Tag.Likeness
import PromptWeave.Proofs.Tag.Spelling
import PromptWeave.Proofs.Message.Gist
import PromptWeave.Proofs.Message.Search
import PromptWeave.Proofs.Message.Outline
import PromptWeave.Proofs.Message.Segments
import PromptWeave.Proofs.Message.Filling
import PromptWeave.Proofs.Value.Labels
import PromptWeave.Proofs.Value.Distinct
import PromptWeave.Proofs.Value.Renaming
import PromptWeave.Proofs.Value.Relabelling
import PromptWeave.Proofs.Value.Paths
import PromptWeave.Proofs.Value.Sameness
import PromptWeave.Proofs.Value.Merge
import PromptWeave.Proofs.Json.Atoms
import PromptWeave.Proofs.Configuration.Data
import PromptWeave.Proofs.Configuration.Walk
import PromptWeave.Proofs.Configuration.Alone
import PromptWeave.Proofs.Configuration.Overlay
import PromptWeave.Proofs.Configuration.Validation
import PromptWeave.Proofs.Configuration.Acceptance
import PromptWeave.Proofs.Configuration.Session
import PromptWeave.Proofs.Configuration.Constancy
import PromptWeave.Proofs.Configuration.History
import PromptWeave.Proofs.Configuration.Cache
import PromptWeave.Proofs.Configuration.Layers
import PromptWeave.Proofs.Directive.Junction
import PromptWeave.Proofs.Directive.Splice
import PromptWeave.Proofs.Storage.Document
import PromptWeave.Proofs.Storage.Refusal
import PromptWeave.Proofs.Storage.Reached
import PromptWeave.Proofs.Storage.Canonical
import PromptWeave.Proofs.Expansion.Run
import PromptWeave.Proofs.Expansion.Lineage
import PromptWeave.Proofs.Expansion.Depth
import PromptWeave.Proofs.Expansion.Rerooting
import PromptWeave.Proofs.Expansion.Assembly
import PromptWeave.Proofs.Expansion.Endless
import PromptWeave.Proofs.Resolver.Dependencies
import PromptWeave.Proofs.Resolver.Escapes
import PromptWeave.Proofs.Resolver.InlineText
import PromptWeave.Proofs.Json.Rereading
import PromptWeave.Proofs.Configuration.Coercion
import PromptWeave.Proofs.Value.Readback
import PromptWeave.Proofs.Placeholder.Grammar
import PromptWeave.Proofs.Value.Lookup
import PromptWeave.Proofs.Placeholder.Substitution
import PromptWeave.Proofs.Resolver.Independence
import PromptWeave.Proofs.Command.Documents
import PromptWeave.Proofs.Message.Place
import PromptWeave.Proofs.Message.Machine
import PromptWeave.Proofs.Message.Outcome
import PromptWeave.Proofs.Tag.Nesting
import PromptWeave.Proofs.Comment.Seam
import PromptWeave.Proofs.Comment.Nesting
import PromptWeave.Proofs.Expansion.Offsets
import PromptWeave.Proofs.Tag.Recognition
import PromptWeave.Proofs.Tag.Printing
import PromptWeave.Proofs.Tag.Span
import PromptWeave.Proofs.Tag.Balance
import PromptWeave.Proofs.Message.Recognition
import PromptWeave.Proofs.Storage.Identity
import PromptWeave.Proofs.Tag.Positions
import PromptWeave.Proofs.Directive.Positions
import PromptWeave.Proofs.Directive.Partition
import PromptWeave.Proofs.Resolver.Again
import PromptWeave.Proofs.Placeholder.Absence
import PromptWeave.Proofs.Value.Dotted
import PromptWeave.Proofs.Chat.Layouts
import PromptWeave.Proofs.Number.Fraction
import PromptWeave.Proofs.Configuration.Usability
import PromptWeave.Proofs.Yaml.Faults
import PromptWeave.Proofs.Storage.DataFile
import PromptWeave.Proofs.Resolver.Unfilled
import PromptWeave.Proofs.Command.Failures
import PromptWeave.Proofs.Command.Agreement
