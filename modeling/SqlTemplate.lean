import SqlTemplate.Main
import SqlTemplate.Proofs.Clause.Twice
import SqlTemplate.Proofs.Clause.Deleted
import SqlTemplate.Proofs.Clause.Shrinking
import SqlTemplate.Proofs.Render.Filters
import SqlTemplate.Proofs.Render.Markers
import SqlTemplate.Proofs.Render.MarkersApart
import SqlTemplate.Proofs.Render.NestedParams
import SqlTemplate.Proofs.Render.References
import SqlTemplate.Proofs.Render.LoneReference
import SqlTemplate.Proofs.Render.OwnParams
import SqlTemplate.Proofs.Placeholder.InOrder
import SqlTemplate.Proofs.Render.Errors
import SqlTemplate.Proofs.Condition.Chains
import SqlTemplate.Proofs.Condition.Grammar
import SqlTemplate.Proofs.Condition.Parsing
import SqlTemplate.Proofs.Condition.Defaults
import SqlTemplate.Proofs.Render.Lookups
import SqlTemplate.Proofs.Registry
import SqlTemplate.Proofs.Registry.Listing
import SqlTemplate.Proofs.Placeholder.OneScan
import SqlTemplate.Proofs.Placeholder.Inlining
import SqlTemplate.Proofs.Condition.Spelling
import SqlTemplate.Proofs.Condition.Integers
import SqlTemplate.Proofs.Condition.Cutting
import SqlTemplate.Proofs.Condition.Offsets
import SqlTemplate.Proofs.Render.Decided
import SqlTemplate.Proofs.Render.Repetition
import SqlTemplate.Proofs.Library
import SqlTemplate.Proofs.Definition
import SqlTemplate.Proofs.Expansion
import SqlTemplate.Proofs.Command.Spellings
import SqlTemplate.Proofs.Files.Paths
import SqlTemplate.Proofs.Files.Tree
import SqlTemplate.Proofs.Files.Worlds
import SqlTemplate.Proofs.Command.Starter
