import QmtExecution.Authority.Bootstrap
import QmtExecution.Authority.Certification
import QmtExecution.Authority.Codec
import QmtExecution.Authority.Database
import QmtExecution.Authority.Processes
import QmtExecution.Authority.Records
import QmtExecution.Authority.Reliance
import QmtExecution.Authority.Resolve
import QmtExecution.Authority.Uniqueness
import QmtExecution.Binary64
import QmtExecution.CoordinatedSession
import QmtExecution.Coordination
import QmtExecution.Domain
import QmtExecution.EventQueue
import QmtExecution.Formal.Processes
import QmtExecution.Formal.Safety
import QmtExecution.Formal.Search
import QmtExecution.Formal.ThreeProcesses
import QmtExecution.Guarantees.Answers
import QmtExecution.Guarantees.Binding
import QmtExecution.Guarantees.Callbacks
import QmtExecution.Guarantees.Durability
import QmtExecution.Guarantees.Fills
import QmtExecution.Guarantees.Finality
import QmtExecution.Guarantees.Identities
import QmtExecution.Guarantees.KillSwitch
import QmtExecution.Guarantees.Legality
import QmtExecution.Guarantees.Observation
import QmtExecution.Guarantees.Reopening
import QmtExecution.Guarantees.Replay
import QmtExecution.Guarantees.Resend
import QmtExecution.Guarantees.Stability
import QmtExecution.Guarantees.Waiting
import QmtExecution.Guards
import QmtExecution.Interaction.Program
import QmtExecution.Interaction.Rely
import QmtExecution.Interaction.Script
import QmtExecution.Interaction.Spans
import QmtExecution.Interaction.System
import QmtExecution.Interaction.Threads
import QmtExecution.Interaction.Trails
import QmtExecution.Interaction.Walks
import QmtExecution.Journal
import QmtExecution.MiniQmt.Acquisition
import QmtExecution.MiniQmt.Adapter
import QmtExecution.MiniQmt.Health
import QmtExecution.MiniQmt.Held
import QmtExecution.MiniQmt.Leasing
import QmtExecution.MiniQmt.Lifecycle
import QmtExecution.MiniQmt.Normalization
import QmtExecution.MiniQmt.Reconnection
import QmtExecution.MiniQmt.Runtime
import QmtExecution.MiniQmt.SessionIds
import QmtExecution.MiniQmt.Teardown
import QmtExecution.Outcomes
import QmtExecution.Ports
import QmtExecution.Protocol.Durable
import QmtExecution.Protocol.Environment
import QmtExecution.Protocol.Ledger
import QmtExecution.Protocol.Methods
import QmtExecution.Protocol.Orderly
import QmtExecution.Protocol.Sequence
import QmtExecution.Protocol.Sessions
import QmtExecution.Protocol.Tenure
import QmtExecution.Protocol.Walk
import QmtExecution.Recovery
import QmtExecution.Resources.Cash
import QmtExecution.Resources.Coupling
import QmtExecution.Resources.Isolation
import QmtExecution.Resources.Keyed
import QmtExecution.Resources.Refinement
import QmtExecution.Resources.Rows
import QmtExecution.Session
import QmtExecution.Shared.Cycles
import QmtExecution.Shared.Exclusion
import QmtExecution.Shared.Placement
import QmtExecution.Shared.Restoration
import QmtExecution.Shared.World
import QmtExecution.StateMachine
