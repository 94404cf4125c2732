import BorgClient.Assimilation.Overlap
import BorgClient.Assimilation.Finalize
import BorgClient.Assimilation.Resume
import BorgClient.Codex.WakeHealth
import BorgClient.Representative.DeliveryLaws
import BorgClient.Representative.GenerationRuns
import BorgClient.Representative.ReadWindowLaws
import BorgClient.Representative.Rebind
import BorgClient.Representative.Retention
import BorgClient.Representative.SentTerminal
import BorgClient.Representative.StartupCohort
import BorgClient.Representative.GenerationNameLaws
import BorgClient.Representative.ListenerInput
import BorgClient.Cursor.CursorRuns
import BorgClient.Cursor.UnreadRuns
import BorgClient.Hermes.ActivationRuns
import BorgClient.Log.PagingLoops
import BorgClient.Monitor.InboxEntries
import BorgClient.Monitor.OrphanInboxes
import BorgClient.Monitor.Rotation
import BorgClient.Monitor.TailHeal
import BorgClient.OpenCode.LaunchGrants
import BorgClient.OpenCode.PermissionMerge
import BorgClient.OpenCode.SubmissionRuns
import BorgClient.Seats.SeatBearers
import BorgClient.Seats.SeatLookups
import BorgClient.Seats.StoreLock
import BorgClient.Settings.HookPeekLaws
import BorgClient.Stream.Lease
import BorgClient.Stream.SessionRuns
import BorgClient.Stream.SseLaws
import BorgClient.Worktrees.CleanupLaws
import BorgClient.OpenCode.ToolNames
import BorgClient.Update.FlowLaws
import BorgClient.Cubes.InitializationLaws
import BorgClient.Cubes.CreationRetryLaws
import BorgClient.OpenCode.StartupHostLaws
import BorgClient.OpenCode.AuditLaws
import BorgClient.Cubes.RepositoryIdentityLaws
import BorgClient.OpenCode.PlatformPatterns
import BorgClient.Regen.LeanOrientationLaws
import BorgClient.Credentials.TrustCommitLaws
import BorgClient.Representative.WakeBatchLaws
import BorgClient.Representative.DiscoveryLaws
import BorgClient.Monitor.InboxLockLaws
import BorgClient.OpenCode.Wakes
import BorgClient.OpenCode.WakePosts
import BorgClient.Stream.Loop
import BorgClient.Stream.LoopLaws
import BorgClient.Credentials.OriginLock
import BorgClient.Stream.LeaseRuns
