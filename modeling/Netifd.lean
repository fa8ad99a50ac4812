import Netifd.ReentrantProgram
import Netifd.Device
import Netifd.DeviceRefcount
import Netifd.IntervalPacking
import Netifd.PrefixAssignment
import Netifd.InterfaceConfiguration
import Netifd.AddressMirror
import Netifd.RouteMirror
import Netifd.InterfaceMachine
import Netifd.ShellProtocol
import Netifd.InterfaceLifecycle
import Netifd.InterfaceReload
import Netifd.HotplugQueue
import Netifd.ShellWakeup
import Netifd.PrefixOptions
import Netifd.AlignedBlocks
import Netifd.PrefixSubnets
import Netifd.SubnetRoutes
import Netifd.RouteOrder
import Netifd.PolicyRules
import Netifd.AssignmentRefresh
import Netifd.DeviceViewRuns
import Netifd.InterfaceRemoval
import Netifd.PrefixSlots
import Netifd.HostRoutes
import Netifd.PrefixLifetimes
import Netifd.WirelessDevice
import Netifd.WirelessReload
import Netifd.OrderedReclaim
import Netifd.UnusedDevices
import Netifd.AliasInterfaces
import Netifd.Bridge
import Netifd.BridgeRelease
import Netifd.AliasDevices
import Netifd.Comparators
import Netifd.SkippedUpdates
import Netifd.AssignmentMerge
import Netifd.PrefixRenewal
import Netifd.Netmask
import Netifd.PrefixTexts
import Netifd.AddressLifetimes
import Netifd.PrefixShifts
import Netifd.ShellScripts
import Netifd.FailedSetups
import Netifd.ReplacedDevices
import Netifd.DownInterface
import Netifd.GreTunnels
import Netifd.IpRules
import Netifd.RuleSelectors
import Netifd.RuleReloads
import Netifd.ProtoRecords
import Netifd.VlanNames
import Netifd.TaskSignals
import Netifd.MemberSettings
import Netifd.ForcedTeardown
import Netifd.LinkAdds
import Netifd.QuietEvents
import Netifd.UndisturbedRuns
import Netifd.GlobalDown
import Netifd.FirewallMarks
import Netifd.FileChecksum
import Netifd.AddressBytes
import Netifd.PacketSteering
import Netifd.SavedSettings
import Netifd.DnsLists
import Netifd.HotplugRepeats
import Netifd.ScriptProcesses
import Netifd.SetupRetries
import Netifd.FailedCreation
import Netifd.BoundedLines
import Netifd.ProcessLogs
import Netifd.ChildProcesses
import Netifd.WirelessRadio
import Netifd.WirelessLinks
import Netifd.TeardownScripts
import Netifd.HandlerParameters
import Netifd.DependencyRuns
import Netifd.Uevents
import Netifd.DeviceStacks
import Netifd.StackRuns
import Netifd.ResolvConf
import Netifd.InstalledSubnets
import Netifd.ClaimAttempts
import Netifd.AttemptInvariants
import Netifd.AttemptCallbacks
import Netifd.AttemptBridges
import Netifd.AttemptEvents
import Netifd.AttemptSteps
import Netifd.StuckDevices
import Netifd.StoppedAttempts
import Netifd.FailedClaims
