import TaskSieve.Main
import TaskSieve.Strategy.Given
import TaskSieve.Proofs.Table
import TaskSieve.Proofs.Step
import TaskSieve.Proofs.Memo
import TaskSieve.Proofs.Registry.Entries
import TaskSieve.Proofs.Evidence.Polling
import TaskSieve.Proofs.Evidence.Gathering
import TaskSieve.Proofs.Evidence.Calls
import TaskSieve.Proofs.Evidence.Transparency
import TaskSieve.Proofs.Evidence.Continuation
import TaskSieve.Proofs.Strategy.Asking
import TaskSieve.Proofs.Strategy.Standard
import TaskSieve.Proofs.Strategy.Settling
import TaskSieve.Proofs.Policy.Autoland
import TaskSieve.Proofs.Evaluation
import TaskSieve.Proofs.Context.Reached
import TaskSieve.Proofs.Strategy.Stalling
import TaskSieve.Proofs.Web.Protocol
import TaskSieve.Proofs.Dispersal.Walk
import TaskSieve.Proofs.Dispersal.Eligible
import TaskSieve.Proofs.Dispersal.Redundancy
import TaskSieve.Proofs.Evidence.Merging
import TaskSieve.Proofs.Evidence.Collecting
import TaskSieve.Proofs.Evidence.Window
import TaskSieve.Proofs.Evidence.Retention
import TaskSieve.Proofs.Evidence.Coherence
import TaskSieve.Proofs.Policy.Absence
import TaskSieve.Proofs.Config.Validity
import TaskSieve.Proofs.Spec.Building
import TaskSieve.Proofs.Spec.Rewriting
import TaskSieve.Proofs.Spec.Meaning
import TaskSieve.Proofs.Registry.Enrolling
import TaskSieve.Proofs.Policy.Resolution
import TaskSieve.Proofs.Binary64.Number
import TaskSieve.Proofs.Policy.Construction
import TaskSieve.Proofs.Strategy.Sparing
import TaskSieve.Proofs.Strategy.Regime
import TaskSieve.Proofs.Datum.Reading
import TaskSieve.Proofs.Datum.Json
import TaskSieve.Proofs.Spec.Writing
import TaskSieve.Proofs.Config.RoundTrip
import TaskSieve.Proofs.Binary64.Whole
import TaskSieve.Proofs.Datum.Fields
import TaskSieve.Proofs.Datum.Settling
import TaskSieve.Proofs.Decimal
import TaskSieve.Proofs.Input.Attributes
import TaskSieve.Proofs.Input.Canonical
import TaskSieve.Proofs.Input.PushId
import TaskSieve.Proofs.Evidence.Patience
import TaskSieve.Proofs.Evidence.Resuming
import TaskSieve.Proofs.Evidence.Replay
import TaskSieve.Proofs.Dispersal.Locality
import TaskSieve.Proofs.Dispersal.Budget
import TaskSieve.Proofs.Dispersal.Independence
import TaskSieve.Proofs.Dispersal.Listing
import TaskSieve.Proofs.Dispersal.Naming
import TaskSieve.Proofs.Selector.Window
import TaskSieve.Proofs.Selector.Monotonicity
import TaskSieve.Proofs.Evidence.Bounds
import TaskSieve.Proofs.Spec.Voting
import TaskSieve.Proofs.Context.Relevance
import TaskSieve.Proofs.Path
import TaskSieve.Proofs.Strategy.Gates
import TaskSieve.Proofs.Config.Search
import TaskSieve.Proofs.Config.Lookup
import TaskSieve.Proofs.Context.Sharing
