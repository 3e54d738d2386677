import GraphLayer.Batching.Executor
import GraphLayer.Codec.DateTime
import GraphLayer.Codec.LocalizedString
import GraphLayer.Codec.Long
import GraphLayer.Exchange
import GraphLayer.Main
import GraphLayer.Project.Sample
import GraphLayer.Record.Encode
import GraphLayer.Proofs.Batching.Chunks
import GraphLayer.Proofs.Batching.Delivery
import GraphLayer.Proofs.Batching.Moves
import GraphLayer.Proofs.Batching.Placement
import GraphLayer.Proofs.Data.Modify
import GraphLayer.Proofs.Batching.Ledger
import GraphLayer.Proofs.Batching.Holders
import GraphLayer.Proofs.Batching.Answers
import GraphLayer.Proofs.Batching.Provenance
import GraphLayer.Proofs.Batching.Withdrawal
import GraphLayer.Proofs.Batching.HandOver
import GraphLayer.Proofs.Batching.Cancellation
import GraphLayer.Proofs.Batching.Transparency
import GraphLayer.Proofs.Cache.Sizes
import GraphLayer.Proofs.Batching.Freshness
import GraphLayer.Proofs.Rendering.ArtifactPaths
import GraphLayer.Proofs.Rendering.SelfCheck
import GraphLayer.Proofs.Files.Stems
import GraphLayer.Proofs.Files.Growth
import GraphLayer.Proofs.Generation.AllOrNothing
import GraphLayer.Proofs.Generation.Effects
import GraphLayer.Proofs.Generation.Foresight
import GraphLayer.Proofs.Generation.Regeneration
import GraphLayer.Proofs.Batching.Calls
import GraphLayer.Proofs.Batching.Bypass
import GraphLayer.Proofs.Batching.BatchShape
import GraphLayer.Proofs.Batching.Drivers
import GraphLayer.Proofs.Batching.Outcomes
import GraphLayer.Proofs.Batching.Collectors
import GraphLayer.Proofs.Batching.Window
import GraphLayer.Proofs.Batching.Flights
import GraphLayer.Proofs.Batching.Gathering
import GraphLayer.Proofs.Batching.Together
import GraphLayer.Proofs.Rendering.RootViews
import GraphLayer.Proofs.Rendering.ModuleIndexes
import GraphLayer.Proofs.Introspection.Accounting
import GraphLayer.Proofs.Introspection.WellFormed
import GraphLayer.Proofs.Rendering.LoaderWiring
import GraphLayer.Proofs.Introspection.Fields
import GraphLayer.Proofs.Introspection.Extension
import GraphLayer.Proofs.Rendering.Contracts
import GraphLayer.Proofs.Types.Canonical
import GraphLayer.Proofs.Rendering.Clashes
import GraphLayer.Proofs.Rendering.KeyFields
import GraphLayer.Proofs.Types.Counterparts
import GraphLayer.Proofs.Types.Spellings
import GraphLayer.Proofs.Configuration.Resolution
import GraphLayer.Proofs.Schema.Verdict
import GraphLayer.Proofs.Record.Rereading
import GraphLayer.Proofs.Codec.Integers
import GraphLayer.Proofs.Codec.Instants
import GraphLayer.Proofs.Template.Passes
import GraphLayer.Proofs.Cache.Coherence
