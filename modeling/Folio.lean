import Folio.Demo
import Folio.Engine
import Folio.Http.Site
import Folio.Launch
import Folio.Log
import Folio.Main
import Folio.Proofs.Canonical
import Folio.Proofs.Cancellation
import Folio.Proofs.Chain
import Folio.Proofs.Steps
import Folio.Proofs.Composition
import Folio.Proofs.Dialogue
import Folio.Proofs.Machine
import Folio.Proofs.Moves
import Folio.Proofs.SinkUse
import Folio.Proofs.Streaming
import Folio.Proofs.SharedData
import Folio.Proofs.Usage
import Folio.Proofs.Work
import Folio.Proofs.Limit
import Folio.Proofs.Isolation
import Folio.Proofs.Cut
import Folio.Proofs.References
import Folio.Proofs.Registration
import Folio.Proofs.Walks
import Folio.Proofs.Readings
import Folio.Proofs.Budget
import Folio.Proofs.Privacy
import Folio.Proofs.Responses
import Folio.Proofs.Definitions
import Folio.Proofs.Delivery
import Folio.Proofs.Replies
import Folio.Proofs.Refusals
import Folio.Proofs.Repeats
import Folio.Proofs.Emission
import Folio.Proofs.Placement
import Folio.Proofs.Regions
import Folio.Proofs.Growth
import Folio.Proofs.Observation
import Folio.Proofs.Renderers
import Folio.Proofs.Naming
import Folio.Proofs.Accounting
import Folio.Proofs.Folding
import Folio.Proofs.DemoSite
import Folio.Proofs.Precedence
