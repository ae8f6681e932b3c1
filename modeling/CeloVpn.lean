import CeloVpn.Client.Autostart
import CeloVpn.Client.Credentials
import CeloVpn.Client.DnsFields
import CeloVpn.Client.Entries
import CeloVpn.Client.Initialised
import CeloVpn.Client.LoginSession
import CeloVpn.Client.Notifications
import CeloVpn.Client.Orders
import CeloVpn.Client.PingRounds
import CeloVpn.Client.PortCycle
import CeloVpn.Client.PortLoop
import CeloVpn.Client.Protocols
import CeloVpn.Client.Requests
import CeloVpn.Client.SavedServer
import CeloVpn.Client.Secrecy
import CeloVpn.Client.ServerLists
import CeloVpn.Client.StatusView
import CeloVpn.Client.Windows
import CeloVpn.Service.Addresses
import CeloVpn.Service.Agreement
import CeloVpn.Service.Commands
import CeloVpn.Service.Dialogue
import CeloVpn.Service.DnsOptions
import CeloVpn.Service.LocalPort
import CeloVpn.Service.LogFile
import CeloVpn.Service.Malformed
import CeloVpn.Service.ManagementLines
import CeloVpn.Service.Network
import CeloVpn.Service.Progress
import CeloVpn.Service.Reply
import CeloVpn.Service.SingleInstance
import CeloVpn.Service.StateLines
import CeloVpn.Service.StopFinal
import CeloVpn.Service.Teardown
import CeloVpn.Service.Timeout
import CeloVpn.Service.TunErrors
