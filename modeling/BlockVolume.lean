import BlockVolume.Host.Scripted
import BlockVolume.Machine
import BlockVolume.Main
import BlockVolume.Proofs.Cleanup.Course
import BlockVolume.Proofs.Cleanup.Inverse
import BlockVolume.Proofs.Cleanup.Outcome
import BlockVolume.Proofs.CommandLine.DeviceName
import BlockVolume.Proofs.CommandLine.Outcome
import BlockVolume.Proofs.DiskSafety
import BlockVolume.Proofs.Failures
import BlockVolume.Proofs.Lookup.Budget
import BlockVolume.Proofs.Lookup.Course
import BlockVolume.Proofs.Lookup.HotPlug
import BlockVolume.Proofs.Lookup.Indifference
import BlockVolume.Proofs.Lookup.Outcome
import BlockVolume.Proofs.Lookup.Rescan
import BlockVolume.Proofs.Lookup.Trace
import BlockVolume.Proofs.MountTable.Escape
import BlockVolume.Proofs.MountTable.Joined
import BlockVolume.Proofs.MountTable.KernelLines
import BlockVolume.Proofs.MountTable.Lookup
import BlockVolume.Proofs.MountTable.References
import BlockVolume.Proofs.Mounting.Checking
import BlockVolume.Proofs.Mounting.Decision
import BlockVolume.Proofs.Text.Words
import BlockVolume.Proofs.TokenFamilies
import BlockVolume.Proofs.Waits
