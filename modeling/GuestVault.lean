import GuestVault.Cancel
import GuestVault.Host.Scripted
import GuestVault.Host.Workbench
import GuestVault.Main
import GuestVault.Proofs.Remote.Pump
import GuestVault.Proofs.Restore.Filter
import GuestVault.Proofs.Restore.RoundTrip
import GuestVault.Proofs.Stream.Cancellation
import GuestVault.Proofs.Stream.CleanEnd
import GuestVault.Remote.Fault
import GuestVault.Store.Scripted
import GuestVault.Stream.Session
import GuestVault.Proofs.Stream.Rooms
import GuestVault.Proofs.Backup.Faithful
import GuestVault.Proofs.Stream.Faults
import GuestVault.Proofs.Backup.Outcomes
import GuestVault.Proofs.Backup.Puts
import GuestVault.Proofs.Backup.Accountable
import GuestVault.Proofs.Restore.Justified
import GuestVault.Proofs.Shell.Rendered
import GuestVault.Proofs.Store.Map
import GuestVault.Proofs.Backup.Diagnostics
import GuestVault.Proofs.Archive.Staging
import GuestVault.Proofs.Restore.Completion
import GuestVault.Proofs.Cluster.Selection
import GuestVault.Proofs.Restore.Halves
import GuestVault.Proofs.Archive.LongestTail
import GuestVault.Proofs.Store.Refused
import GuestVault.Proofs.Cluster.Freshness
import GuestVault.Proofs.Restore.Rendezvous
import GuestVault.Proofs.Guest.Stop
import GuestVault.Proofs.Cancel.Threads
import GuestVault.Proofs.Remote.Files
import GuestVault.Proofs.Settings.Printed
