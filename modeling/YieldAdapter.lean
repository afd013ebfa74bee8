import YieldAdapter.LittleEndian
import YieldAdapter.Windows
import YieldAdapter.Borsh
import YieldAdapter.InstructionTables
import YieldAdapter.Solana
import YieldAdapter.Exec
import YieldAdapter.Relay
import YieldAdapter.Environments
import YieldAdapter.Runs
import YieldAdapter.RunLogs
import YieldAdapter.CallTree
import YieldAdapter.SystemProgram
import YieldAdapter.Anchor
import YieldAdapter.Interface
import YieldAdapter.LayoutReaders
import YieldAdapter.DispatcherState
import YieldAdapter.AdapterTable
import YieldAdapter.DispatcherInstructions
import YieldAdapter.DispatcherSpec
import YieldAdapter.DispatcherRouting
import YieldAdapter.AdapterProgram
import YieldAdapter.ReferenceAdapters
import YieldAdapter.ReportedValue
import YieldAdapter.Selectors
import YieldAdapter.DispatcherRun
import YieldAdapter.RegistryInvariant
import YieldAdapter.Registration
import YieldAdapter.StatusHistory
import YieldAdapter.Lifecycle
import YieldAdapter.ToggleRequests
import YieldAdapter.TableReachability
import YieldAdapter.Storage
import YieldAdapter.RoutingGate
import YieldAdapter.RefusalTable
import YieldAdapter.ReturnDataAuthenticity
import YieldAdapter.Admissibility
import YieldAdapter.AbiRoundTrip
import YieldAdapter.Deployment
import YieldAdapter.Forwarding
import YieldAdapter.SelectorTables
import YieldAdapter.EventAgreement
import YieldAdapter.EventLog
import YieldAdapter.Fleet
import YieldAdapter.Movements
import YieldAdapter.MovementOutcomes
import YieldAdapter.Queries
import YieldAdapter.Privileges
import YieldAdapter.Locality
import YieldAdapter.NoEscalation
import YieldAdapter.Conflicts
import YieldAdapter.Transparency
import YieldAdapter.InstructionFormat
import YieldAdapter.FlowSeparation
import YieldAdapter.MapleRequests
import YieldAdapter.GenuinePositions
import YieldAdapter.PositionImages
import YieldAdapter.AdapterRuns
import YieldAdapter.SlicePanics
import YieldAdapter.ProtocolEncoding
import YieldAdapter.DriftArguments
