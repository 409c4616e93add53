import PythonEthtool.Devices.Active
import PythonEthtool.Devices.Chunks
import PythonEthtool.Devices.Listing
import PythonEthtool.Foundations.Bits
import PythonEthtool.Foundations.CString
import PythonEthtool.Foundations.Cells
import PythonEthtool.Foundations.Decimal
import PythonEthtool.Foundations.Dictionary
import PythonEthtool.Foundations.FirstSeen
import PythonEthtool.Foundations.Holding
import PythonEthtool.Foundations.Ledger
import PythonEthtool.Foundations.Memory
import PythonEthtool.Foundations.Output
import PythonEthtool.Foundations.Program
import PythonEthtool.Foundations.Runs
import PythonEthtool.Foundations.Scanf
import PythonEthtool.Foundations.Stages
import PythonEthtool.Foundations.Steps
import PythonEthtool.Foundations.Stream
import PythonEthtool.Foundations.Words
import PythonEthtool.Ioctl.Calls
import PythonEthtool.Ioctl.Codec
import PythonEthtool.Ioctl.Functions
import PythonEthtool.Ioctl.HardwareAddress
import PythonEthtool.Ioctl.LongWidth
import PythonEthtool.Ioctl.Module
import PythonEthtool.Ioctl.Names
import PythonEthtool.Ioctl.Results
import PythonEthtool.Ioctl.Setters
import PythonEthtool.Ioctl.StructDesc
import PythonEthtool.Netlink.AddressLists
import PythonEthtool.Netlink.AddressObject
import PythonEthtool.Netlink.Addresses
import PythonEthtool.Netlink.Connection
import PythonEthtool.Netlink.Construction
import PythonEthtool.Netlink.DeviceIndex
import PythonEthtool.Netlink.FailedOpen
import PythonEthtool.Netlink.InterfacesInfo
import PythonEthtool.Netlink.LegacyAttributes
import PythonEthtool.Netlink.Network
import PythonEthtool.Netlink.Objects
import PythonEthtool.Netlink.OneIndex
import PythonEthtool.Netlink.Outcomes
import PythonEthtool.Netlink.Queries
import PythonEthtool.Netlink.References
import PythonEthtool.Netlink.Resources
import PythonEthtool.Netlink.ReturnProtocol
import PythonEthtool.Netlink.Teardown
import PythonEthtool.Netlink.TwoRuns
import PythonEthtool.Netlink.UserCount
import PythonEthtool.Pethtool.Accounts
import PythonEthtool.Pethtool.AllDevices
import PythonEthtool.Pethtool.Arguments
import PythonEthtool.Pethtool.Asked
import PythonEthtool.Pethtool.Commands
import PythonEthtool.Pethtool.Copying
import PythonEthtool.Pethtool.Display
import PythonEthtool.Pethtool.Documented
import PythonEthtool.Pethtool.Machine
import PythonEthtool.Pethtool.Options
import PythonEthtool.Pethtool.Override
import PythonEthtool.Pethtool.Requests
import PythonEthtool.Pethtool.Sessions
import PythonEthtool.Pethtool.Store
import PythonEthtool.Pethtool.Targets
import PythonEthtool.Pethtool.World
import PythonEthtool.Pifconfig.Config
import PythonEthtool.Pifconfig.Flags
import PythonEthtool.Pifconfig.Netmask
import PythonEthtool.Pifconfig.Sections
import PythonEthtool.Pifconfig.System
import PythonEthtool.Pifconfig.Tables
import PythonEthtool.Python.Getopt
import PythonEthtool.Python.IntText
import PythonEthtool.Python.Objects
import PythonEthtool.Python.Text
