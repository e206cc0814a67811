import Rita.TunnelManager.OpenTunnel

/-! # The other handlers of the tunnel manager

`TriggerGC`, which drops the tunnels not heard from within a threshold; `PeersToContact` with the
two neighbor inquiries and `contact_neighbor`, which hand speculative ports to the hello handler
and to the DNS resolver; and `TunnelStateChange`, which drives the state machine of each tunnel
of an identity and re-divides the free-tier bandwidth.

Work a handler leaves behind (a `Hello` sent, a DNS lookup spawned, a `PortCallback` sent) is a
`Pending` item holding a port; the system model of `Rita.TunnelManager.System` delivers it later. -/

namespace Rita

/-- Asynchronous work that holds a port of the pool. -/
inductive Pending where
  /-- A `Hello` sent by `contact_neighbor` with `our_port`, not answered yet. -/
  | hello (peer : Peer) (ourPort : UInt16)
  /-- The resolver future of `neighbor_inquiry_hostname`, not resolved yet. -/
  | dns (hostname : String) (ourPort : UInt16)
  /-- A `PortCallback` sent by a failed DNS lookup, not handled yet. -/
  | portCallback (port : UInt16)
deriving DecidableEq, Repr

/-! ## Garbage collection -/

/-- The body of the first loop of `TriggerGC`: a tunnel of `identity` heard from within
`threshold` goes to `good`, another to `timed_out`. -/
def splitTunnel (threshold now : Nat) (identity : Identity)
    (acc : HashMap Identity (List Tunnel) × HashMap Identity (List Tunnel)) (tunnel : Tunnel) :
    HashMap Identity (List Tunnel) × HashMap Identity (List Tunnel) :=
  if now - tunnel.lastContact < threshold then (pushTunnel acc.1 identity tunnel, acc.2)
  else (acc.1, pushTunnel acc.2 identity tunnel)

/-- The first loop of `TriggerGC`: `good` and `timed_out`, each tunnel under its identity, in
their original order. -/
def splitTunnels (threshold now : Nat) (tunnels : HashMap Identity (List Tunnel)) :
    HashMap Identity (List Tunnel) × HashMap Identity (List Tunnel) :=
  tunnels.entries.foldl (fun acc e => e.2.foldl (splitTunnel threshold now e.1) acc) (∅, ∅)

/-- The two nested loops of `splitTunnels` as one loop over the stored tunnels, each with its
key. -/
theorem splitTunnels_eq (threshold now : Nat) (tunnels : HashMap Identity (List Tunnel)) :
    splitTunnels threshold now tunnels =
      (tunnels.entries.flatMap fun e => e.2.map (e.1, ·)).foldl
        (fun acc p => splitTunnel threshold now p.1 acc p.2) (∅, ∅) := by
  unfold splitTunnels
  generalize ((∅, ∅) : HashMap Identity (List Tunnel) × HashMap Identity (List Tunnel)) = acc
  induction tunnels.entries generalizing acc with
  | nil => rfl
  | cons e es ih => simp only [List.foldl_cons, List.flatMap_cons, List.foldl_append, List.foldl_map, ih]

/-- The second loop of `TriggerGC`: for each timed-out tunnel `unmonitor`, `KI.del_interface`
(deletion `n` of the handler succeeds iff `delOk n`) and the port back to the pool. The first
failed deletion ends the handler with `Err`. -/
def releaseTimedOut (delOk : Nat → Bool) (n : Nat) :
    List Tunnel → List UInt16 → Except String Unit × List UInt16 × List Effect
  | [], freePorts => (.ok (), freePorts, [])
  | t :: ts, freePorts =>
    if delOk n then
      let (r, fp, eff) := releaseTimedOut delOk (n + 1) ts (freePorts ++ [t.listenPort])
      (r, fp, .unmonitor t.ifaceName :: .delInterface t.ifaceName true :: eff)
    else
      (.error "del_interface failed", freePorts, [.unmonitor t.ifaceName, .delInterface t.ifaceName false])

/-- What `TriggerGC` reads from outside: the clock and the outcome of each `KI.del_interface`. -/
structure GcEnv where
  now : Nat
  delOk : Nat → Bool

/-- `Handler<TriggerGC>`: storage becomes the fresh tunnels before anything is destroyed. -/
def handleTriggerGC (threshold : Nat) (env : GcEnv) (tm : TunnelManager) :
    Except String Unit × TunnelManager × List Effect :=
  let (good, timedOut) := splitTunnels threshold env.now tm.tunnels
  let (r, freePorts, eff) := releaseTimedOut env.delOk 0 (timedOut.entries.flatMap (·.2)) tm.freePorts
  (r, { freePorts, tunnels := good }, eff)

/-! ## Neighbor inquiries -/

/-- `contact_neighbor`: `KI.manual_peers_route`, then a `Hello` with `our_port` to the hello
handler. `ok` is false when the route call fails or our identity has no mesh ip yet. -/
def contactNeighbor (ok : Bool) (peer : Peer) (ourPort : UInt16) : Except String Unit × List Pending :=
  if ok then (.ok (), [.hello peer ourPort]) else (.error "contact_neighbor failed", [])

/-- What one inquiry reads from outside: the draws of its `get_port` and whether its
`contact_neighbor` succeeds. -/
structure InquiryEnv where
  draws : Nat → PortDraw
  contactOk : Bool

/-- `TunnelManager::neighbor_inquiry`. -/
def neighborInquiry (env : InquiryEnv) (peer : Peer) (tm : TunnelManager) :
    Option (Except String Unit × TunnelManager × List Pending) :=
  match getPort env.draws 0 tm.freePorts with
  | none => none
  | some (none, freePorts) => some (.error "No remaining ports!", { tm with freePorts }, [])
  | some (some ourPort, freePorts) =>
    let (r, pending) := contactNeighbor env.contactOk peer ourPort
    some (r, { tm with freePorts }, pending)

/-- `TunnelManager::neighbor_inquiry_hostname`: the lookup itself is spawned. -/
def neighborInquiryHostname (draws : Nat → PortDraw) (theirHostname : String) (tm : TunnelManager) :
    Option (Except String Unit × TunnelManager × List Pending) :=
  match getPort draws 0 tm.freePorts with
  | none => none
  | some (none, freePorts) => some (.error "No remaining ports!", { tm with freePorts }, [])
  | some (some ourPort, freePorts) => some (.ok (), { tm with freePorts }, [.dns theirHostname ourPort])

section
variable {tm tm' : TunnelManager} {r : Except String Unit} {pending : List Pending}

/-- An inquiry draws a port; with one, it contacts the peer. -/
theorem neighborInquiry_spec {env : InquiryEnv} {peer : Peer}
    (h : neighborInquiry env peer tm = some (r, tm', pending)) :
    ∃ freePorts, tm' = { tm with freePorts } ∧
      (getPort env.draws 0 tm.freePorts = some (none, freePorts) ∧ pending = [] ∨
        ∃ ourPort, getPort env.draws 0 tm.freePorts = some (some ourPort, freePorts) ∧
          pending = (contactNeighbor env.contactOk peer ourPort).2) := by
  unfold neighborInquiry at h
  rcases hg : getPort env.draws 0 tm.freePorts with _ | ⟨_ | ourPort, freePorts⟩ <;>
    simp only [hg, reduceCtorEq, Option.some.injEq, Prod.mk.injEq] at h
  · obtain ⟨-, rfl, rfl⟩ := h
    exact ⟨freePorts, rfl, .inl ⟨rfl, rfl⟩⟩
  · obtain ⟨-, rfl, rfl⟩ := h
    exact ⟨freePorts, rfl, .inr ⟨ourPort, rfl, rfl⟩⟩

/-- A hostname inquiry draws a port; with one, it spawns the lookup. -/
theorem neighborInquiryHostname_spec {draws : Nat → PortDraw} {name : String}
    (h : neighborInquiryHostname draws name tm = some (r, tm', pending)) :
    ∃ freePorts, tm' = { tm with freePorts } ∧
      (getPort draws 0 tm.freePorts = some (none, freePorts) ∧ pending = [] ∨
        ∃ ourPort, getPort draws 0 tm.freePorts = some (some ourPort, freePorts) ∧
          pending = [.dns name ourPort]) := by
  unfold neighborInquiryHostname at h
  rcases hg : getPort draws 0 tm.freePorts with _ | ⟨_ | ourPort, freePorts⟩ <;>
    simp only [hg, reduceCtorEq, Option.some.injEq, Prod.mk.injEq] at h
  · obtain ⟨-, rfl, rfl⟩ := h
    exact ⟨freePorts, rfl, .inl ⟨rfl, rfl⟩⟩
  · obtain ⟨-, rfl, rfl⟩ := h
    exact ⟨freePorts, rfl, .inr ⟨ourPort, rfl, rfl⟩⟩

end

/-- The answer of the resolver: `Err` (a mailbox failure or a failed lookup) or addresses. -/
inductive DnsAnswer where
  | error
  | addresses (dnsresult : List SocketAddr)
deriving DecidableEq, Repr

/-- What the resolver future reads when it completes: the answer, the `is_gateway` and
`rita_hello_port` settings, and the outcome of its `n`-th `contact_neighbor`. -/
structure DnsEnv where
  answer : DnsAnswer
  isGateway : Bool
  ritaHelloPort : UInt16
  contactOk : Nat → Bool

/-- The continuation of the resolver future of `neighbor_inquiry_hostname`: on an error a
`PortCallback`; on a non-empty answer at a gateway, a `contact_neighbor` with the same
`our_port` for every address; otherwise nothing. -/
def dnsResolved (env : DnsEnv) (ourPort : UInt16) : List Pending :=
  match env.answer with
  | .error => [.portCallback ourPort]
  | .addresses dnsresult =>
    if !dnsresult.isEmpty && env.isGateway then
      dnsresult.enum.flatMap fun (i, dnsSocket) =>
        (contactNeighbor (env.contactOk i) ⟨0, ⟨dnsSocket.ip, env.ritaHelloPort⟩⟩ ourPort).2
    else []

/-- A neighbor to inquire: a peer, or a manual peer that does not parse as an ip. -/
inductive Inquiry where
  | peer (peer : Peer)
  | hostname (name : String)

/-- One inquiry of `PeersToContact`. -/
def inquire (env : InquiryEnv) : Inquiry → TunnelManager →
    Option (Except String Unit × TunnelManager × List Pending)
  | .peer peer, tm => neighborInquiry env peer tm
  | .hostname name, tm => neighborInquiryHostname env.draws name tm

/-- The inquiries of `PeersToContact` in order, the `n`-th reading `env n`; their errors are only
logged. -/
def runInquiries (env : Nat → InquiryEnv) (n : Nat) :
    List Inquiry → TunnelManager → Option (TunnelManager × List Pending)
  | [], tm => some (tm, [])
  | i :: is, tm =>
    match inquire (env n) i tm with
    | none => none
    | some (_, tm, pending) =>
      (runInquiries env (n + 1) is tm).map fun (tm, rest) => (tm, pending ++ rest)

/-- What `PeersToContact` reads from outside: the `is_gateway`, `manual_peers` and
`rita_hello_port` settings, `IpAddr::from_str`, and what each inquiry reads. -/
structure ContactEnv where
  isGateway : Bool
  manualPeers : List String
  parseIp : String → Option IpAddr
  ritaHelloPort : UInt16
  inquiry : Nat → InquiryEnv

/-- `Handler<PeersToContact>`: every observed peer, then, at a gateway, every manual peer. -/
def handlePeersToContact (peers : HashMap IpAddr Peer) (env : ContactEnv) (tm : TunnelManager) :
    Option (TunnelManager × List Pending) :=
  let manual := if env.isGateway then
      env.manualPeers.map fun manualPeer =>
        match env.parseIp manualPeer with
        | some ip => Inquiry.peer ⟨0, ⟨ip, env.ritaHelloPort⟩⟩
        | none => Inquiry.hostname manualPeer
    else []
  runInquiries env.inquiry 0 (peers.entries.map (fun e => Inquiry.peer e.2) ++ manual) tm

/-! ## State changes -/

/-- `TunnelChange`. -/
structure TunnelChange where
  identity : Identity
  action : TunnelAction
deriving DecidableEq, Repr

/-- The action on one tunnel in `tunnel_state_change`: the tunnel afterwards, the babel call, and
whether the bandwidth limits need a change. -/
def changeTunnelState : TunnelAction → Tunnel → Tunnel × List Effect × Bool
  | .membershipConfirmed, t =>
    match t.state.registrationState with
    | .notRegistered =>
      ({ t with state := { t.state with registrationState := .registered } }, [.monitor t.ifaceName], false)
    | .registered => (t, [], false)
  | .membershipExpired, t =>
    match t.state.registrationState with
    | .registered =>
      ({ t with state := { t.state with registrationState := .notRegistered } }, [.unmonitor t.ifaceName],
        false)
    | .notRegistered => (t, [], false)
  | .paidOnTime, t =>
    match t.state.paymentState with
    | .paid => (t, [], false)
    | .overdue => ({ t with state := { t.state with paymentState := .paid } }, [], true)
  | .paymentOverdue, t =>
    match t.state.paymentState with
    | .paid => ({ t with state := { t.state with paymentState := .overdue } }, [], true)
    | .overdue => (t, [], false)

/-- What one bandwidth-limit update reads from outside: the `free_tier_throughput` setting, the
answer of its `n`-th `KI.has_limit`, and the outcome of its `n`-th shaping call. -/
structure BwEnv where
  freeTierThroughput : UInt32
  hasLimit : Nat → Except String Bool
  shapeOk : Nat → Bool

/-- The shaping loop of `tunnel_bw_limit_update`: the first failed call ends it. -/
def shapeTunnels (env : BwEnv) (bwPerIface : UInt32) (n : Nat) : List Tunnel → Except String Unit × List Effect
  | [] => (.ok (), [])
  | t :: ts =>
    match env.hasLimit n with
    | .error e => (.error e, [])
    | .ok hasLimit =>
      match t.state.paymentState with
      | .overdue =>
        if env.shapeOk n then
          let (r, eff) := shapeTunnels env bwPerIface (n + 1) ts
          (r, .setClasslessLimit t.ifaceName bwPerIface true :: eff)
        else (.error "set_classless_limit failed", [.setClasslessLimit t.ifaceName bwPerIface false])
      | .paid =>
        if hasLimit then
          if env.shapeOk n then
            let (r, eff) := shapeTunnels env bwPerIface (n + 1) ts
            (r, .setCodelShaping t.ifaceName true :: eff)
          else (.error "set_codel_shaping failed", [.setCodelShaping t.ifaceName false])
        else shapeTunnels env bwPerIface (n + 1) ts

/-- `tunnel_bw_limit_update`: the free tier divided among the overdue tunnels (a `u16` count). -/
def tunnelBwLimitUpdate (env : BwEnv) (tunnels : HashMap Identity (List Tunnel)) :
    Except String Unit × List Effect :=
  let all := tunnels.entries.flatMap (·.2)
  let limitedInterfaces := (all.filter (·.state.paymentState = .overdue)).length.toUInt16
  let bwPerIface :=
    if limitedInterfaces > 0 then env.freeTierThroughput / limitedInterfaces.toUInt32
    else env.freeTierThroughput
  shapeTunnels env bwPerIface 0 all

/-- `tunnel_state_change`: the action on every tunnel of the identity, then a bandwidth-limit
update if a payment state moved. Its errors are only logged. -/
def tunnelStateChange (env : BwEnv) (msg : TunnelChange) (tunnels : HashMap Identity (List Tunnel)) :
    HashMap Identity (List Tunnel) × List Effect :=
  match tunnels.lookup msg.identity with
  | some ts =>
    let results := ts.map (changeTunnelState msg.action)
    let tunnels := tunnels.insert msg.identity (results.map (·.1))
    let eff := results.flatMap (·.2.1)
    if results.any (·.2.2) then (tunnels, eff ++ (tunnelBwLimitUpdate env tunnels).2)
    else (tunnels, eff)
  | none => (tunnels, [])

/-- `Handler<TunnelStateChange>`: the changes of the batch in order, the `n`-th reading `env n`. -/
def handleTunnelStateChange (env : Nat → BwEnv) (n : Nat) :
    List TunnelChange → TunnelManager → TunnelManager × List Effect
  | [], tm => (tm, [])
  | change :: rest, tm =>
    let (tunnels, eff) := tunnelStateChange (env n) change tm.tunnels
    let (tm, eff') := handleTunnelStateChange env (n + 1) rest { tm with tunnels }
    (tm, eff ++ eff')

end Rita
