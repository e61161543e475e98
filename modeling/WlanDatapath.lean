import WlanDatapath.Receive.Frames
import WlanDatapath.DeferredWork.Script
import WlanDatapath.DeferredWork.Shared
import WlanDatapath.DeferredWork.Nested
import WlanDatapath.Statistics.Shared
import WlanDatapath.Engine.Step
import WlanDatapath.Bench.Run
import WlanDatapath.Proofs.Acts
import WlanDatapath.Proofs.Acquisition
import WlanDatapath.Proofs.Reception
import WlanDatapath.Proofs.Transmission
import WlanDatapath.Proofs.Lifecycle
import WlanDatapath.Proofs.Custody
import WlanDatapath.Proofs.Delivery
import WlanDatapath.Proofs.ReceiveOrder
import WlanDatapath.Proofs.TransmitOrder
import WlanDatapath.Proofs.SegmentStream
import WlanDatapath.Proofs.SegmentWalk
import WlanDatapath.Proofs.Extraction
import WlanDatapath.Proofs.FlowControl
import WlanDatapath.Proofs.ReceiveBuffers
import WlanDatapath.Proofs.PassRequests
import WlanDatapath.Proofs.Exclusion
import WlanDatapath.Proofs.AbandonedRequests
import WlanDatapath.Proofs.EarlyCompletions
import WlanDatapath.Proofs.Removal
import WlanDatapath.Proofs.Inertness
import WlanDatapath.Proofs.CutOff
import WlanDatapath.Proofs.Nesting
import WlanDatapath.Proofs.ParkedSlots
import WlanDatapath.Proofs.StrandedTransfers
import WlanDatapath.Proofs.CounterBalance
import WlanDatapath.Proofs.LaneIsolation
import WlanDatapath.Proofs.Wrapping
import WlanDatapath.Proofs.Overlays
import WlanDatapath.Proofs.Movements
import WlanDatapath.Proofs.Screening
import WlanDatapath.Proofs.Guarding
import WlanDatapath.Proofs.StaleContents
import WlanDatapath.Proofs.Warnings
import WlanDatapath.Proofs.DeviceMoves
import WlanDatapath.Proofs.StatisticsRefresh
import WlanDatapath.Proofs.OverlookedCompletions
import WlanDatapath.Proofs.Complaints
import WlanDatapath.Proofs.Obstacles
import WlanDatapath.Proofs.Mismatches
import WlanDatapath.Proofs.Provisions
import WlanDatapath.Proofs.BringingUp
import WlanDatapath.Proofs.GoneDevice
import WlanDatapath.Proofs.HeaderFields
import WlanDatapath.Proofs.SlotQueue
import WlanDatapath.Proofs.PassAccounting
import WlanDatapath.Proofs.PendingSlots
