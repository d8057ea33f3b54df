import GreenBubbles.Archive.Reconcile
import GreenBubbles.Audit.References
import GreenBubbles.Connector.Chain
import GreenBubbles.Connector.Lifecycle
import GreenBubbles.Direct.Delivery
import GreenBubbles.LiveQuery.Belonging
import GreenBubbles.Merge.Canonical
import GreenBubbles.Merge.Replacement
import GreenBubbles.NestedXml.Deletion
import GreenBubbles.Outbox.Atomicity
import GreenBubbles.Replica.Completeness
import GreenBubbles.Restore.Ordering
import GreenBubbles.Send.Artifacts
import GreenBubbles.Send.Minting
import GreenBubbles.Send.Rate
import GreenBubbles.Send.Recall
import GreenBubbles.Send.Report
import GreenBubbles.Send.Retention
import GreenBubbles.Snapshot.Inventory
import GreenBubbles.Snapshot.Kit
import GreenBubbles.Snapshot.Retention
import GreenBubbles.Memory.Preparation
import GreenBubbles.Restore.ReportSize
import GreenBubbles.Cached.Attribution
import GreenBubbles.LiveQuery.CorpusScan
import GreenBubbles.Restore.Recovery
import GreenBubbles.Direct.Appending
import GreenBubbles.Library.Upserts
import GreenBubbles.Sync.Acceptance
import GreenBubbles.Sync.Changes
import GreenBubbles.Follow.Custody
import GreenBubbles.Follow.Halting
import GreenBubbles.Follow.Follower
import GreenBubbles.Follow.Recovery
