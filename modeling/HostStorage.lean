import HostStorage.Checks
import HostStorage.Command.Output
import HostStorage.Command.Process
import HostStorage.Command.Run
import HostStorage.Command.Script
import HostStorage.CommandLine.Answer
import HostStorage.CommandLine.Commands
import HostStorage.CommandLine.Grammar
import HostStorage.CommandLine.Number
import HostStorage.Duration
import HostStorage.Error
import HostStorage.Host.Access
import HostStorage.Host.DeviceNode
import HostStorage.Host.Errno
import HostStorage.Host.Making
import HostStorage.Host.Resolve
import HostStorage.Host.Service
import HostStorage.Host.Tool
import HostStorage.Host.Tree
import HostStorage.Json.Reader
import HostStorage.Json.Value
import HostStorage.Json.Writer
import HostStorage.Listing
import HostStorage.Lsblk.Row
import HostStorage.Lsblk.Stack
import HostStorage.Lsblk.Version
import HostStorage.Lsblk.VolumeDevices
import HostStorage.Main
import HostStorage.Mount.Mounting
import HostStorage.Mount.Octal
import HostStorage.Mount.Options
import HostStorage.Mount.Printed
import HostStorage.Mount.Reading
import HostStorage.Mount.Record
import HostStorage.Mount.Table
import HostStorage.Mount.Unmounting
import HostStorage.Multipath.Command
import HostStorage.Nvme.Controller
import HostStorage.Path.Join
import HostStorage.Path.Route
import HostStorage.Proofs.Command.Execution
import HostStorage.Proofs.Command.Queues
import HostStorage.Proofs.Host.Appending
import HostStorage.Proofs.Host.Growth
import HostStorage.Proofs.Host.Names
import HostStorage.Proofs.Host.Plain
import HostStorage.Proofs.Mount.Binding
import HostStorage.Proofs.Mount.Escape
import HostStorage.Proofs.Mount.KernelLine
import HostStorage.Proofs.Mount.Line
import HostStorage.Proofs.Mount.Phase
import HostStorage.Proofs.Mount.Refusal
import HostStorage.Proofs.Mount.Table
import HostStorage.Proofs.Path.Cleaning
import HostStorage.Proofs.Path.Walk
import HostStorage.Proofs.Result
import HostStorage.Proofs.Scsi.Rescan
import HostStorage.Proofs.Scsi.Sweep
import HostStorage.Proofs.Simulation.Frame
import HostStorage.Proofs.Simulation.History
import HostStorage.Proofs.Text.Lowercase
import HostStorage.Proofs.Text.Pieces
import HostStorage.Proofs.Text.Utf8
import HostStorage.Proofs.Volume.BlankDisk
import HostStorage.Proofs.Volume.Encoding
import HostStorage.Proofs.Volume.Identity
import HostStorage.Proofs.Volume.Preparation
import HostStorage.Proofs.Volume.RootGuard
import HostStorage.Request
import HostStorage.Scsi.Attribute
import HostStorage.Scsi.Disk
import HostStorage.Scsi.FibreChannel
import HostStorage.Scsi.Lun
import HostStorage.Scsi.Rescan
import HostStorage.Scsi.Targets
import HostStorage.Simulation.Fault
import HostStorage.Simulation.State
import HostStorage.SysPaths
import HostStorage.Text.Blank
import HostStorage.Text.CodeRange
import HostStorage.Text.DecimalDigit
import HostStorage.Text.Hex
import HostStorage.Text.Lowercase
import HostStorage.Text.Printable
import HostStorage.Text.Quoted
import HostStorage.Text.Split
import HostStorage.Text.Utf8
import HostStorage.Text.Word
import HostStorage.Volume.BlockDevices
import HostStorage.Volume.Format
import HostStorage.Volume.Links
import HostStorage.Volume.Preparing
import HostStorage.Volume.Resizing
import HostStorage.Volume.Usage
import HostStorage.Volume.Wwn
import HostStorage.Proofs.Host.Entries
import HostStorage.Proofs.Host.Walk
import HostStorage.Proofs.Volume.Links
import HostStorage.Proofs.Text.Numbers
import HostStorage.Proofs.Volume.Portals
import HostStorage.Proofs.Lsblk.Row
import HostStorage.Proofs.Lsblk.Stack
import HostStorage.Proofs.Lsblk.MapAbove
import HostStorage.Proofs.Lsblk.PrintedListing
import HostStorage.Proofs.Scsi.TargetSets
import HostStorage.Proofs.Volume.BlockDevices
import HostStorage.Proofs.Distinct
import HostStorage.Proofs.Scsi.Lun
import HostStorage.Proofs.Multipath.Arguments
import HostStorage.Proofs.Volume.Resizing
import HostStorage.Proofs.Volume.ResizeRefusal
import HostStorage.Proofs.Scsi.Loops
import HostStorage.Proofs.Scsi.Removal
import HostStorage.Proofs.Path.Onward
import HostStorage.Proofs.Mount.FirstMount
import HostStorage.Proofs.Mount.Printed
import HostStorage.Proofs.Mount.Arguments
import HostStorage.Proofs.Volume.Formatting
import HostStorage.Proofs.Nvme.Controller
import HostStorage.Proofs.Simulation.BindChain
import HostStorage.Proofs.Lsblk.Mirror
import HostStorage.Proofs.Mount.Scan
