import HostBoundary.Cell.Lanes
import HostBoundary.Foreign.Value
import HostBoundary.HostInteger
import HostBoundary.Proofs.Registry.Copies
import HostBoundary.Proofs.Registry.Ownership
import HostBoundary.Proofs.SlotTable.Reachable
import HostBoundary.Proofs.SlotTable.Refinement
import HostBoundary.Proofs.Transfer.RoundTrip
import HostBoundary.Session
import HostBoundary.Proofs.Cell.Diagnostics
import HostBoundary.Proofs.Registry.Routes
import HostBoundary.Proofs.Boundary.Isolation
import HostBoundary.Proofs.Registry.AuditTrail
import HostBoundary.Proofs.Registry.Compactness
import HostBoundary.Proofs.Registry.Erasure
import HostBoundary.Proofs.SlotTable.Entries
import HostBoundary.Proofs.Registry.Liveness
import HostBoundary.Proofs.SlotTable.Brackets
import HostBoundary.Proofs.Registry.Conservation
import HostBoundary.Proofs.Registry.Drain
import HostBoundary.Proofs.Registry.ReleaseOrder
import HostBoundary.Proofs.Cell.Reinterpretation
import HostBoundary.Proofs.Transfer.FirstRefusal
import HostBoundary.Proofs.Value.Equality
import HostBoundary.Proofs.Vector128.Views
import HostBoundary.Proofs.Value.HostIntegers
import HostBoundary.Proofs.Foreign.OutParameters
import HostBoundary.Proofs.SlotTable.Iteration
