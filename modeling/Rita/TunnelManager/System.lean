import Rita.TunnelManager.Handlers

/-! # The tunnel manager and the work it spawns

A `World` is the tunnel manager's state together with the asynchronous work in flight (hellos,
DNS lookups, port callbacks) and the calls made so far on the kernel and on babel. An `Event` is
the handling of one message, or the completion of one piece of work; `World.step` is partial,
`none` when the handler panics or when the event answers work that is not in flight.

The hello handler is not part of the source. Modelled from the spec: it answers the `Hello` a
`contact_neighbor` sent to `peer` with `our_port` either with
`IdentityCallback(their_id, peer, Some(our_port))` or, when the exchange fails, with
`PortCallback(our_port)`; a peer that calls our hello endpoint produces
`IdentityCallback(their_id, peer, None)`.

`Reachable p` is the set of worlds of every run from `TunnelManager::new()` with
`wg_start_port = p`: every order of messages and every answer of the outside world. -/

namespace Rita

/-- The tunnel manager, the work in flight, and the log of calls on the kernel and babel. -/
structure World where
  tm : TunnelManager
  pending : List Pending
  effects : List Effect

/-- The world of `TunnelManager::new()`. -/
def World.init (wgStartPort : UInt16) : World :=
  ⟨TunnelManager.new wgStartPort, [], []⟩

/-- One step of the system. -/
inductive Event where
  /-- The `Hello` to `peer` with `ourPort` was answered with `theirId`, and its
  `IdentityCallback` is handled. -/
  | helloAnswered (peer : Peer) (ourPort : UInt16) (theirId : LocalIdentity) (env : CallbackEnv)
  /-- The `Hello` to `peer` with `ourPort` failed, and its `PortCallback` is handled. -/
  | helloFailed (peer : Peer) (ourPort : UInt16)
  /-- A peer said hello to us, and the `IdentityCallback` without a port is handled. -/
  | peerHello (theirId : LocalIdentity) (peer : Peer) (env : CallbackEnv)
  /-- The `PortCallback` of a failed DNS lookup is handled. -/
  | portCallback (port : UInt16)
  /-- The DNS lookup of `hostname`, spawned with `ourPort`, completes. -/
  | dnsAnswered (hostname : String) (ourPort : UInt16) (env : DnsEnv)
  /-- `PeersToContact` is handled. -/
  | peersToContact (peers : HashMap IpAddr Peer) (env : ContactEnv)
  /-- `TriggerGC(threshold)` is handled. -/
  | triggerGC (threshold : Nat) (env : GcEnv)
  /-- `TunnelStateChange` is handled. -/
  | tunnelStateChange (changes : List TunnelChange) (env : Nat → BwEnv)

/-- One step of the system: `none` when the handler panics or the work it answers is not in
flight. -/
def World.step (w : World) : Event → Option World
  | .helloAnswered peer ourPort theirId env =>
    if .hello peer ourPort ∈ w.pending then
      (handleIdentityCallback env ⟨theirId, peer, some ourPort⟩ w.tm).map fun (_, tm, eff) =>
        ⟨tm, w.pending.erase (.hello peer ourPort), w.effects ++ eff⟩
    else none
  | .helloFailed peer ourPort =>
    if .hello peer ourPort ∈ w.pending then
      some ⟨handlePortCallback ourPort w.tm, w.pending.erase (.hello peer ourPort), w.effects⟩
    else none
  | .peerHello theirId peer env =>
    (handleIdentityCallback env ⟨theirId, peer, none⟩ w.tm).map fun (_, tm, eff) =>
      ⟨tm, w.pending, w.effects ++ eff⟩
  | .portCallback port =>
    if .portCallback port ∈ w.pending then
      some ⟨handlePortCallback port w.tm, w.pending.erase (.portCallback port), w.effects⟩
    else none
  | .dnsAnswered hostname ourPort env =>
    if .dns hostname ourPort ∈ w.pending then
      some ⟨w.tm, w.pending.erase (.dns hostname ourPort) ++ dnsResolved env ourPort, w.effects⟩
    else none
  | .peersToContact peers env =>
    (handlePeersToContact peers env w.tm).map fun (tm, pending) => ⟨tm, w.pending ++ pending, w.effects⟩
  | .triggerGC threshold env =>
    let (_, tm, eff) := handleTriggerGC threshold env w.tm
    some ⟨tm, w.pending, w.effects ++ eff⟩
  | .tunnelStateChange changes env =>
    let (tm, eff) := handleTunnelStateChange env 0 changes w.tm
    some ⟨tm, w.pending, w.effects ++ eff⟩

/-- The `IdentityCallback` an event has handled, with what its handler reads. -/
def Event.identityCallback : Event → Option (CallbackEnv × IdentityCallback)
  | .helloAnswered peer ourPort theirId env => some (env, ⟨theirId, peer, some ourPort⟩)
  | .peerHello theirId peer env => some (env, ⟨theirId, peer, none⟩)
  | _ => none

/-- A run: the events in order, `none` if one of them cannot be taken. -/
def World.run : World → List Event → Option World
  | w, [] => some w
  | w, e :: es => (w.step e).bind (World.run · es)

theorem World.run_append (w : World) (es es' : List Event) :
    w.run (es ++ es') = (w.run es).bind (World.run · es') := by
  induction es generalizing w with
  | nil => rfl
  | cons e es ih => rw [List.cons_append, World.run, World.run, Option.bind_assoc]; simp only [ih]

/-- The worlds of the runs from `TunnelManager::new()`. -/
inductive Reachable (wgStartPort : UInt16) : World → Prop where
  | init : Reachable wgStartPort (World.init wgStartPort)
  | step {w w' : World} {e : Event} : Reachable wgStartPort w → w.step e = some w' →
      Reachable wgStartPort w'

theorem Reachable.run {p : UInt16} {w w' : World} {es : List Event} (hw : Reachable p w)
    (h : w.run es = some w') : Reachable p w' := by
  induction es generalizing w with
  | nil => cases h; exact hw
  | cons e es ih =>
    simp only [World.run, Option.bind_eq_some] at h
    obtain ⟨w₁, h₁, h₂⟩ := h
    exact ih (hw.step h₁) h₂

theorem Reachable.of_run {p : UInt16} {w : World} {es : List Event}
    (h : (World.init p).run es = some w) : Reachable p w :=
  Reachable.init.run h

end Rita
