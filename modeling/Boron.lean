import Boron.Schema.Upgraded
import Boron.ConfigTx.Endings
import Boron.Authority.Authorize
import Boron.Authority.Isolation
import Boron.Administrators.Locks
import Boron.Lib.Undo
import Boron.Firewall.Rollback
import Boron.DnsCluster.Histories
import Boron.DnsCluster.Convergence
import Boron.DnsCluster.Recreated
import Boron.Backup.Scheduler
import Boron.Usage.Retention
import Boron.Usage.BandwidthHistory
import Boron.Login.CutOff
import Boron.Login.Throttle
import Boron.Updates.Serial
import Boron.Updates.Cleanup
import Boron.ControlTasks.Finish
import Boron.Confirmation.Reverted
import Boron.SnapshotJobs.Promises
import Boron.SnapshotJobs.Prepared
import Boron.SnapshotJobs.Repeated
import Boron.Accounts.Reselling
import Boron.Accounts.QuotaRuns
import Boron.Finalizer.Outcome
import Boron.Databases.Renamed
import Boron.Databases.Terminated
import Boron.CommandJobs.Settled
import Boron.Cloudflare.Recovered
import Boron.WebSettings.Kept
import Boron.PanelRestore.Ending
import Boron.PortableArchive.Covered
import Boron.Impersonation.Lifecycle
import Boron.Webmail.Revocable
import Boron.Malware.Lossless
import Boron.SafeIO.Safe
import Boron.Notices.Delivered
import Boron.CommandJobs.Daemon
import Boron.StackManager.Settled
import Boron.Audit.Redacted
import Boron.Webhooks.Settled
import Boron.MailGuards.Owned
import Boron.HealthAlerts.Alerted
import Boron.Firewall.Exported
import Boron.Usage.Alerted
import Boron.ResourceManager.Compaction
import Boron.Autoresponder.Written
import Boron.PortableCrypto.Archives
import Boron.IpManager.Invariant
import Boron.Isolation.Tested
import Boron.Rpc.CutOff
