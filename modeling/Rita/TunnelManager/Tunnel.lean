import Rita.Types

/-! # Tunnels and the port pool

The data of `rita_common::tunnel_manager`: the per-tunnel state machine of §4.3, the `Tunnel`
record, the `TunnelManager` actor's state (the pool `free_ports` and the storage `tunnels`), the
list helpers `have_tunnel_by_ip`, `have_tunnel_by_ifidx`, `get_tunnel_by_ifidx`, `del_tunnel`, and
the port allocator `get_port`.

Time is a `Nat`: `Instant::now()` is the `now` of the message being handled, and
`last_contact.elapsed()` is `now - last_contact`. What a handler asks of the outside world (the
kernel, the random number generator, the clock) is an argument, so that a handler is a function
of the answers; a panic is `none`. The calls a handler makes on the kernel and on babel are
returned as a list of `Effect`s. -/

namespace Rita

/-- `TunnelAction`: the actions that progress the state machine. -/
inductive TunnelAction where
  | membershipConfirmed
  | membershipExpired
  | paymentOverdue
  | paidOnTime
deriving DecidableEq, Repr

/-- `RegistrationState`. -/
inductive RegistrationState where
  | notRegistered
  | registered
deriving DecidableEq, Repr

/-- `PaymentState`. -/
inductive PaymentState where
  | paid
  | overdue
deriving DecidableEq, Repr

/-- `TunnelState`. -/
structure TunnelState where
  paymentState : PaymentState
  registrationState : RegistrationState
deriving DecidableEq, Repr

/-- `Tunnel`. -/
structure Tunnel where
  ip : IpAddr
  ifaceName : String
  listenIfidx : UInt32
  listenPort : UInt16
  neighId : LocalIdentity
  lastContact : Nat
  state : TunnelState
deriving DecidableEq, Repr

/-- `Tunnel::new`: a new tunnel is `Registered` and `Paid`. -/
def Tunnel.new (ip : IpAddr) (ifaceName : String) (ourListenPort : UInt16) (ifidx : UInt32)
    (theirId : LocalIdentity) (now : Nat) : Tunnel :=
  { ip, ifaceName, listenIfidx := ifidx, listenPort := ourListenPort, neighId := theirId,
    lastContact := now, state := ⟨.paid, .registered⟩ }

/-- `TunnelManager`. -/
structure TunnelManager where
  freePorts : List UInt16
  tunnels : HashMap Identity (List Tunnel)

/-- `TunnelManager::new`: every port of `[wg_start_port, 65535)` is free, no tunnel is stored. -/
def TunnelManager.new (wgStartPort : UInt16) : TunnelManager :=
  { freePorts := (List.range' wgStartPort.toNat (65535 - wgStartPort.toNat)).map UInt16.ofNat,
    tunnels := ∅ }

/-- Every stored tunnel, identity by identity. -/
def TunnelManager.allTunnels (tm : TunnelManager) : List Tunnel :=
  tm.tunnels.entries.flatMap (·.2)

/-- A call on the kernel (`KI`) or on babel, with its outcome: the calls that create, shape or
delete an interface, and babel's. `KI.open_tunnel` is not logged; its outcome is an argument.
Babel's `monitor` and `unmonitor` are spawned futures; here they take effect when they are
issued. -/
inductive Effect where
  | setupWgIf (iface : String)
  | setCodelShaping (iface : String) (ok : Bool)
  | setClasslessLimit (iface : String) (bw : UInt32) (ok : Bool)
  | delInterface (iface : String) (ok : Bool)
  | monitor (iface : String)
  | unmonitor (iface : String)
deriving DecidableEq, Repr

/-! ## List helpers -/

/-- `have_tunnel_by_ip`. -/
def haveTunnelByIp (ip : IpAddr) (tunnels : List Tunnel) : Bool :=
  tunnels.any (·.ip == ip)

/-- `have_tunnel_by_ifidx`. -/
def haveTunnelByIfidx (ifidx : UInt32) (tunnels : List Tunnel) : Bool :=
  tunnels.any (·.listenIfidx == ifidx)

/-- `get_tunnel_by_ifidx`: the first tunnel on `ifidx`. -/
def getTunnelByIfidx (ifidx : UInt32) (tunnels : List Tunnel) : Option Tunnel :=
  tunnels.find? (·.listenIfidx == ifidx)

/-- `del_tunnel`: drop every copy of `toDel`. -/
def delTunnel (toDel : Tunnel) (tunnels : List Tunnel) : List Tunnel :=
  tunnels.filter (· != toDel)

theorem getTunnelByIfidx_mem {ifidx : UInt32} {tunnels : List Tunnel} {t : Tunnel}
    (h : getTunnelByIfidx ifidx tunnels = some t) : t ∈ tunnels ∧ t.listenIfidx = ifidx :=
  ⟨List.mem_of_find?_eq_some h, by simpa using List.find?_some h⟩

theorem mem_delTunnel {toDel t : Tunnel} {tunnels : List Tunnel} :
    t ∈ delTunnel toDel tunnels ↔ t ∈ tunnels ∧ t ≠ toDel := by
  simp [delTunnel]

/-! ## Port allocation -/

/-- What one attempt of `get_port` reads: the answer of `KI.used_ports()`, and the value of the
random number generator, taken modulo the pool size as `gen_range(0, len)` would. -/
structure PortDraw where
  usedPorts : Except String (List UInt16)
  random : Nat

/-- `get_port` with `left = 10 - level` attempts after this one; attempt `level` reads
`draws level`. An empty pool panics in `gen_range`, and a used port on the last attempt panics
with "We ran out of ports!". -/
def getPortLeft (draws : Nat → PortDraw) : Nat → List UInt16 → Option (Option UInt16 × List UInt16)
  | left, freePorts =>
    if h : freePorts = [] then none
    else
      let d := draws (10 - left)
      let val := d.random % freePorts.length
      let port := freePorts.get ⟨val, Nat.mod_lt _ (List.length_pos.mpr h)⟩
      let rest := freePorts.eraseIdx val
      match d.usedPorts with
      | .ok used =>
        if port ∈ used then
          match left with
          | 0 => none
          | left + 1 => getPortLeft draws left (rest ++ [port])
        else some (some port, rest)
      | .error _ => some (none, rest)

/-- `TunnelManager::get_port`: the port drawn, if any, and the pool afterwards. -/
def getPort (draws : Nat → PortDraw) (level : Nat) (freePorts : List UInt16) :
    Option (Option UInt16 × List UInt16) :=
  getPortLeft draws (10 - level) freePorts

end Rita
