import DesignTokens.Encoding.Report
import DesignTokens.Encoding.Graph
import DesignTokens.Encoding.Tree
import DesignTokens.Graph.OfTree
import DesignTokens.Graph.Dot
import DesignTokens.Resolution.Resolver
import DesignTokens.CacheKey
import DesignTokens.Toml.Reader
import DesignTokens.Toml.Printer
import DesignTokens.Text.LowerCase
import DesignTokens.Configuration.OfJson
import DesignTokens.Configuration.Layers
import DesignTokens.Workspace.Crawl
import DesignTokens.Encoding.Resolution
import DesignTokens.Graph.Closure
import DesignTokens.Graph.Cycles
import DesignTokens.Uri.Reader
import DesignTokens.Json.Reader
import DesignTokens.Json.Printer
import DesignTokens.Text.Blank
import DesignTokens.Report.Diagnostic
import DesignTokens.Namespace
import DesignTokens.TokenType
import DesignTokens.Condition
import DesignTokens.Version
import DesignTokens.Timestamp
import DesignTokens.Proofs.Json.Reader
import DesignTokens.Proofs.Resolution.History
import DesignTokens.Proofs.Resolution.Provenance
import DesignTokens.Proofs.Resolution.Reach
import DesignTokens.Proofs.Resolution.Network
import DesignTokens.Proofs.Json.Same
import DesignTokens.Proofs.Graph.Likeness
import DesignTokens.Proofs.Resolution.Reports
import DesignTokens.Proofs.Resolution.Likeness
import DesignTokens.Proofs.Resolution.Lockstep
import DesignTokens.Proofs.Tree.Likeness
import DesignTokens.Proofs.Tree.Children
import DesignTokens.Proofs.Graph.Documents
import DesignTokens.Proofs.Tree.Erasure
import DesignTokens.Proofs.Resolution.Erasure
import DesignTokens.Proofs.Resolution.MemberOrder
import DesignTokens.Proofs.Resolution.Context
import DesignTokens.Proofs.Resolution.Dangling
import DesignTokens.Proofs.Tree.Listing
import DesignTokens.Proofs.Tree.Fields
import DesignTokens.Proofs.Tree.Metadata
import DesignTokens.Proofs.Graph.Arena
import DesignTokens.Proofs.Graph.Families
import DesignTokens.Proofs.Graph.Visits
import DesignTokens.Proofs.Graph.Representation
import DesignTokens.Proofs.Graph.References
import DesignTokens.Proofs.Uri.Text
import DesignTokens.Proofs.Uri.Host
import DesignTokens.Proofs.Uri.Path
import DesignTokens.Proofs.Uri.Reader
import DesignTokens.Proofs.Tree.Reports
import DesignTokens.Proofs.Workspace.Parse
import DesignTokens.Proofs.Workspace.Discoveries
import DesignTokens.Proofs.Workspace.Crawl
import DesignTokens.Proofs.Workspace.Reuse
import DesignTokens.Proofs.Number.Decimal
import DesignTokens.Proofs.Number.Notation
import DesignTokens.Proofs.Json.Canonical
import DesignTokens.Proofs.Pointer
import DesignTokens.Proofs.Uri.Scheme
import DesignTokens.Proofs.CacheKey
import DesignTokens.Proofs.Workspace.Keyed
import DesignTokens.Proofs.Resolution.Refusals
import DesignTokens.Proofs.Workspace.Fates
import DesignTokens.Proofs.Workspace.Completeness
import DesignTokens.Proofs.Resolution.Trail
import DesignTokens.Proofs.Resolution.Pruning
import DesignTokens.Proofs.Resolution.Chain
import DesignTokens.Proofs.Resolution.Candidates
import DesignTokens.Proofs.Graph.Components
import DesignTokens.Proofs.Resolution.InStep
import DesignTokens.Proofs.Resolution.Aliases
import DesignTokens.Proofs.Pointer.Text
import DesignTokens.Proofs.Tree.Entries
import DesignTokens.Proofs.Tree.Nesting
import DesignTokens.Proofs.Tree.GivingUp
import DesignTokens.Proofs.Tree.Retention
import DesignTokens.Proofs.Text.Utf8
import DesignTokens.Proofs.Text.Percent
import DesignTokens.Proofs.Graph.Silence
import DesignTokens.Proofs.Graph.Fragments
import DesignTokens.Proofs.Graph.Drawing
import DesignTokens.Proofs.Resolution.Transforms
import DesignTokens.Proofs.Tree.Extensions
import DesignTokens.Proofs.Graph.Written
import DesignTokens.Proofs.Patterns
