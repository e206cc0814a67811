import Rita.Types
import Rita.TrafficWatcher.Watch
import Rita.TrafficWatcher.Debts
import Rita.TrafficWatcher.PayPerForward
import Rita.TunnelManager.Tunnel
import Rita.TunnelManager.OpenTunnel
import Rita.TunnelManager.Handlers
import Rita.TunnelManager.System
import Rita.TunnelManager.StorageInv
import Rita.TunnelManager.TunnelStates
import Rita.TunnelManager.Ports
import Rita.TunnelManager.GarbageCollection
import Rita.TunnelManager.Interfaces
import Rita.TunnelManager.Leaks
import Rita.TunnelManager.StateChange
import Rita.TunnelManager.Neighbors
import Rita.Client.TrafficWatcher
import Rita.Client.Wifi
import Rita.Client.Exits
import Rita.Exit.NetworkEndpoints
import Rita.Exit.DatabaseTools
import Rita.Exit.ClientTable
