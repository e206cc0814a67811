import Rita.TunnelManager.Tunnel

/-! # Opening tunnels

`TunnelManager::open_tunnel`, the central decision of the tunnel manager, and the two handlers
that end a neighbor inquiry: `IdentityCallback`, which opens (or finds) the tunnel, and
`PortCallback`, which returns an unused speculative port to the pool.

`open_tunnel` has three outcomes. When a stored tunnel of the identity has the peer's interface
and (possibly another one) the peer's ip, and the peer claims a tunnel too, the port goes back to
the pool and the first stored tunnel on the interface is returned. When the peer claims none, the
first stored tunnel on the interface is deleted and a new one created. Otherwise a new one is
created. Creating a tunnel allocates an interface with `KI.setup_wg_if` (an `unwrap`), opens it,
and only then monitors and stores it. -/

namespace Rita

/-- What `open_tunnel` reads from outside: the clock, the name `KI.setup_wg_if` returns (`none`
when it fails, and the `unwrap` panics), and the outcomes of `KI.del_interface`, of
`KI.open_tunnel` (which also fails when no mesh ip is configured) and of
`KI.set_codel_shaping`. -/
structure OpenEnv where
  now : Nat
  setupWgIf : Option String
  delOk : Bool
  openOk : Bool
  codelOk : Bool

/-- `Tunnel::open`: open a real tunnel to match the virtual one, then install codel shaping. -/
def Tunnel.openReal (env : OpenEnv) (t : Tunnel) : Except String Unit × List Effect :=
  if env.openOk then
    (if env.codelOk then .ok () else .error "set_codel_shaping failed",
      [.setCodelShaping t.ifaceName env.codelOk])
  else (.error "open_tunnel failed", [])

/-- `map.entry(key).or_insert_with(Vec::new).push(tunnel)`. -/
def pushTunnel (tunnels : HashMap Identity (List Tunnel)) (key : Identity) (tunnel : Tunnel) :
    HashMap Identity (List Tunnel) :=
  tunnels.insert key ((tunnels.lookup key).getD [] ++ [tunnel])

/-- The tail of `open_tunnel` that creates a tunnel: a fresh interface, a `Tunnel::new` on it
with `our_port`, `Tunnel::open`, and on success `monitor` and the push into storage. -/
def createTunnel (env : OpenEnv) (theirLocalid : LocalIdentity) (peer : Peer) (ourPort : UInt16)
    (returnBool : Bool) (tm : TunnelManager) :
    Option (Except String (Tunnel × Bool) × TunnelManager × List Effect) :=
  match env.setupWgIf with
  | none => none
  | some iface =>
    let tunnel := Tunnel.new peer.contactSocket.ip iface ourPort peer.ifidx theirLocalid env.now
    match tunnel.openReal env with
    | (.error e, eff) => some (.error e, tm, .setupWgIf iface :: eff)
    | (.ok (), eff) =>
      some (.ok (tunnel, returnBool),
        { tm with tunnels := pushTunnel tm.tunnels tunnel.neighId.global tunnel },
        .setupWgIf iface :: eff ++ [.monitor iface])

/-- The `last_contact` bump of `open_tunnel`: every tunnel on the peer's interface and ip. -/
def bumpLastContact (peer : Peer) (now : Nat) (tunnels : List Tunnel) : List Tunnel :=
  tunnels.map fun t =>
    if t.listenIfidx = peer.ifidx ∧ t.ip = peer.contactSocket.ip then { t with lastContact := now }
    else t

/-- The branch of `open_tunnel` where we have a tunnel and the peer does not: delete the first
stored tunnel on the interface (every copy of it, and the identity's key if nothing is left),
call `KI.del_interface` on it, return its port, and create a new tunnel. -/
def replaceTunnel (env : OpenEnv) (theirLocalid : LocalIdentity) (peer : Peer) (ourPort : UInt16)
    (tunnels : List Tunnel) (tm : TunnelManager) :
    Option (Except String (Tunnel × Bool) × TunnelManager × List Effect) :=
  let key := theirLocalid.global
  match getTunnelByIfidx peer.ifidx tunnels with
  | none => none
  | some value =>
    let rest := delTunnel value tunnels
    let tm : TunnelManager :=
      { freePorts := tm.freePorts ++ [value.listenPort],
        tunnels := if rest.length = 0 then tm.tunnels.erase key else tm.tunnels.insert key rest }
    (createTunnel env theirLocalid peer ourPort true tm).map fun (r, tm, eff) =>
      (r, tm, .delInterface value.ifaceName env.delOk :: eff)

/-- `TunnelManager::open_tunnel`: the tunnel and whether we already had one, or the error of
`Tunnel::open`, with the manager afterwards and the calls made. -/
def openTunnel (env : OpenEnv) (theirLocalid : LocalIdentity) (peer : Peer) (ourPort : UInt16)
    (tm : TunnelManager) : Option (Except String (Tunnel × Bool) × TunnelManager × List Effect) :=
  let key := theirLocalid.global
  match tm.tunnels.lookup key with
  | some tunnels =>
    if haveTunnelByIfidx peer.ifidx tunnels && haveTunnelByIp peer.contactSocket.ip tunnels then
      let tunnels := bumpLastContact peer env.now tunnels
      let tm := { tm with tunnels := tm.tunnels.insert key tunnels }
      if theirLocalid.haveTunnel.getD true then
        match getTunnelByIfidx peer.ifidx tunnels with
        | some tunnel => some (.ok (tunnel, true), { tm with freePorts := tm.freePorts ++ [ourPort] }, [])
        | none => none
      else replaceTunnel env theirLocalid peer ourPort tunnels tm
    else createTunnel env theirLocalid peer ourPort false tm
  | none => createTunnel env theirLocalid peer ourPort false tm

/-! ## What `open_tunnel` does -/

section
variable {env : OpenEnv} {theirLocalid : LocalIdentity} {peer : Peer} {ourPort : UInt16}
  {tm tm' : TunnelManager} {r : Except String (Tunnel × Bool)} {eff : List Effect}

/-- `createTunnel` allocates an interface; on failure of `Tunnel::open` storage is unchanged,
on success the new tunnel is pushed under its identity. The pool is unchanged. -/
theorem createTunnel_spec {returnBool : Bool}
    (h : createTunnel env theirLocalid peer ourPort returnBool tm = some (r, tm', eff)) :
    ∃ iface, env.setupWgIf = some iface ∧ tm'.freePorts = tm.freePorts ∧
      ((¬(env.openOk = true ∧ env.codelOk = true) ∧ tm'.tunnels = tm.tunnels ∧
          eff = .setupWgIf iface :: (if env.openOk then [.setCodelShaping iface false] else [])) ∨
        (env.openOk = true ∧ env.codelOk = true ∧
          r = .ok (Tunnel.new peer.contactSocket.ip iface ourPort peer.ifidx theirLocalid env.now,
            returnBool) ∧
          tm'.tunnels = pushTunnel tm.tunnels theirLocalid.global
            (Tunnel.new peer.contactSocket.ip iface ourPort peer.ifidx theirLocalid env.now) ∧
          eff = [.setupWgIf iface, .setCodelShaping iface true, .monitor iface])) := by
  unfold createTunnel Tunnel.openReal at h
  cases hs : env.setupWgIf with
  | none => simp [hs] at h
  | some iface =>
    refine ⟨iface, rfl, ?_⟩
    cases hO : env.openOk <;> cases hC : env.codelOk <;>
      simp only [hs, hO, hC, if_true, if_false, Option.some.injEq, Prod.mk.injEq,
        Bool.false_eq_true] at h <;>
      obtain ⟨rfl, rfl, rfl⟩ := h <;> simp [Tunnel.new]

/-- `replaceTunnel` deletes the first tunnel on the interface, returns its port, and creates. -/
theorem replaceTunnel_spec {ts : List Tunnel}
    (h : replaceTunnel env theirLocalid peer ourPort ts tm = some (r, tm', eff)) :
    ∃ value eff₁, getTunnelByIfidx peer.ifidx ts = some value ∧
      createTunnel env theirLocalid peer ourPort true
        ⟨tm.freePorts ++ [value.listenPort],
          if (delTunnel value ts).length = 0 then tm.tunnels.erase theirLocalid.global
          else tm.tunnels.insert theirLocalid.global (delTunnel value ts)⟩ = some (r, tm', eff₁) ∧
      eff = .delInterface value.ifaceName env.delOk :: eff₁ := by
  unfold replaceTunnel at h
  cases hg : getTunnelByIfidx peer.ifidx ts with
  | none => simp [hg] at h
  | some value =>
    simp only [hg, Option.map_eq_some', Prod.exists, Prod.mk.injEq] at h
    obtain ⟨r₁, tm₁, eff₁, hc, rfl, rfl, rfl⟩ := h
    exact ⟨value, eff₁, rfl, hc, rfl⟩

/-- We have a tunnel for the peer: a stored tunnel of the identity is on the peer's interface,
and one has the peer's ip. -/
def WeHaveTunnel (tunnels : List Tunnel) (peer : Peer) : Prop :=
  (haveTunnelByIfidx peer.ifidx tunnels && haveTunnelByIp peer.contactSocket.ip tunnels) = true

/-- **The three outcomes of `open_tunnel`.** -/
theorem openTunnel_spec (h : openTunnel env theirLocalid peer ourPort tm = some (r, tm', eff)) :
    (∃ ts, tm.tunnels.lookup theirLocalid.global = some ts ∧ WeHaveTunnel ts peer ∧
        theirLocalid.haveTunnel.getD true = true ∧
        ∃ t, getTunnelByIfidx peer.ifidx (bumpLastContact peer env.now ts) = some t ∧
          r = .ok (t, true) ∧ eff = [] ∧
          tm' = ⟨tm.freePorts ++ [ourPort],
            tm.tunnels.insert theirLocalid.global (bumpLastContact peer env.now ts)⟩) ∨
      (∃ ts, tm.tunnels.lookup theirLocalid.global = some ts ∧ WeHaveTunnel ts peer ∧
        theirLocalid.haveTunnel.getD true = false ∧
        replaceTunnel env theirLocalid peer ourPort (bumpLastContact peer env.now ts)
          ⟨tm.freePorts, tm.tunnels.insert theirLocalid.global (bumpLastContact peer env.now ts)⟩ =
          some (r, tm', eff)) ∨
      ((∀ ts, tm.tunnels.lookup theirLocalid.global = some ts → ¬WeHaveTunnel ts peer) ∧
        createTunnel env theirLocalid peer ourPort false tm = some (r, tm', eff)) := by
  unfold openTunnel at h
  cases hl : tm.tunnels.lookup theirLocalid.global with
  | none =>
    simp only [hl] at h
    exact .inr (.inr ⟨(fun _ h' => by cases h'), h⟩)
  | some ts =>
    simp only [hl] at h
    by_cases hw : WeHaveTunnel ts peer
    · rw [WeHaveTunnel] at hw
      rw [if_pos hw] at h
      cases hh : theirLocalid.haveTunnel.getD true
      · simp only [hh, Bool.false_eq_true, if_false] at h
        exact .inr (.inl ⟨ts, rfl, hw, rfl, h⟩)
      · simp only [hh, if_true] at h
        cases hg : getTunnelByIfidx peer.ifidx (bumpLastContact peer env.now ts) with
        | none => simp [hg] at h
        | some t =>
          simp only [hg, Option.some.injEq, Prod.mk.injEq] at h
          obtain ⟨rfl, rfl, rfl⟩ := h
          exact .inl ⟨ts, rfl, hw, rfl, t, hg, rfl, rfl, rfl⟩
    · rw [WeHaveTunnel] at hw
      rw [if_neg hw] at h
      exact .inr (.inr ⟨(fun ts' h' => by cases h'; exact hw), h⟩)

end

/-- An identity with a tunnel on interface 4 from `::1` and one on interface 3 from `::2`: a hello
from `::1` on interface 3 finds "a tunnel" by ifidx and by ip separately. With `have_tunnel =
Some(true)` it returns the tunnel from `::2`; with `Some(false)` it deletes that tunnel. -/
theorem open_tunnel_matches_ip_and_ifidx_separately :
    let a : Identity := ⟨.v6 0xfd, 0, 0⟩
    let t₁ : Tunnel := ⟨.v6 1, "wg0", 4, 65533, ⟨60000, none, a⟩, 0, ⟨.paid, .registered⟩⟩
    let t₂ : Tunnel := ⟨.v6 2, "wg1", 3, 65534, ⟨60000, none, a⟩, 0, ⟨.paid, .registered⟩⟩
    let tunnels : HashMap Identity (List Tunnel) := (∅ : HashMap Identity (List Tunnel)).insert a [t₁, t₂]
    let env : OpenEnv := ⟨5, some "wg2", true, true, true⟩
    let peer : Peer := ⟨3, ⟨.v6 1, 60000⟩⟩
    openTunnel env ⟨60000, some true, a⟩ peer 65000 ⟨[], tunnels⟩ =
        some (.ok (t₂, true), ⟨[65000], tunnels⟩, []) ∧
      openTunnel env ⟨60000, some false, a⟩ peer 65000 ⟨[], tunnels⟩ =
        some (.ok (Tunnel.new (.v6 1) "wg2" 65000 3 ⟨60000, some false, a⟩ 5, true),
          ⟨[65534], (∅ : HashMap Identity (List Tunnel)).insert a
            [t₁, Tunnel.new (.v6 1) "wg2" 65000 3 ⟨60000, some false, a⟩ 5]⟩,
          [.delInterface "wg1" true, .setupWgIf "wg2", .setCodelShaping "wg2" true, .monitor "wg2"]) :=
  ⟨rfl, rfl⟩

/-! ## The callbacks -/

/-- `IdentityCallback`: a hello exchange with `peer` gave its `LocalIdentity`; `our_port` is the
port we offered, or `None` when the peer called us. -/
structure IdentityCallback where
  localIdentity : LocalIdentity
  peer : Peer
  ourPort : Option UInt16

/-- What the `IdentityCallback` handler reads from outside: the draws of `get_port` (when no port
was offered) and what `open_tunnel` reads. -/
structure CallbackEnv where
  draws : Nat → PortDraw
  openEnv : OpenEnv

/-- `Handler<IdentityCallback>`: `None` when no port could be allocated or `open_tunnel` failed. -/
def handleIdentityCallback (env : CallbackEnv) (msg : IdentityCallback) (tm : TunnelManager) :
    Option (Option (Tunnel × Bool) × TunnelManager × List Effect) :=
  let port : Option (Option UInt16 × TunnelManager) :=
    match msg.ourPort with
    | some port => some (some port, tm)
    | none => (getPort env.draws 0 tm.freePorts).map fun (p, fp) => (p, { tm with freePorts := fp })
  match port with
  | none => none
  | some (none, tm) => some (none, tm, [])
  | some (some ourPort, tm) =>
    (openTunnel env.openEnv msg.localIdentity msg.peer ourPort tm).map fun (res, tm, eff) =>
      (res.toOption, tm, eff)

/-- The `IdentityCallback` handler either fails to allocate a port (which changes only the pool)
or runs `open_tunnel` on the offered port, or on the one it allocated. -/
theorem handleIdentityCallback_spec {env : CallbackEnv} {msg : IdentityCallback}
    {tm tm' : TunnelManager} {r : Option (Tunnel × Bool)} {eff : List Effect}
    (h : handleIdentityCallback env msg tm = some (r, tm', eff)) :
    (msg.ourPort = none ∧ ∃ freePorts, getPort env.draws 0 tm.freePorts = some (none, freePorts) ∧
        r = none ∧ tm' = { tm with freePorts } ∧ eff = []) ∨
      ∃ ourPort freePorts res,
        (msg.ourPort = some ourPort ∧ freePorts = tm.freePorts ∨
          msg.ourPort = none ∧ getPort env.draws 0 tm.freePorts = some (some ourPort, freePorts)) ∧
        openTunnel env.openEnv msg.localIdentity msg.peer ourPort { tm with freePorts } =
          some (res, tm', eff) ∧ r = res.toOption := by
  unfold handleIdentityCallback at h
  cases hp : msg.ourPort with
  | some port =>
    simp only [hp, Option.map_eq_some', Prod.exists, Prod.mk.injEq] at h
    obtain ⟨res, tm₁, eff₁, ho, rfl, rfl, rfl⟩ := h
    exact .inr ⟨port, tm.freePorts, res, .inl ⟨rfl, rfl⟩, ho, rfl⟩
  | none =>
    cases hg : getPort env.draws 0 tm.freePorts with
    | none => simp [hp, hg] at h
    | some g =>
      obtain ⟨_ | ourPort, freePorts⟩ := g
      · simp only [hp, hg, Option.map_some', Option.some.injEq, Prod.mk.injEq] at h
        obtain ⟨rfl, rfl, rfl⟩ := h
        exact .inl ⟨rfl, freePorts, rfl, rfl, rfl, rfl⟩
      · simp only [hp, hg, Option.map_some', Option.map_eq_some', Prod.exists, Prod.mk.injEq] at h
        obtain ⟨res, tm₁, eff₁, ho, rfl, rfl, rfl⟩ := h
        exact .inr ⟨ourPort, freePorts, res, .inr ⟨rfl, rfl⟩, ho, rfl⟩

/-- `Handler<PortCallback>`: an attempt to contact a neighbor failed, its port goes back. -/
def handlePortCallback (port : UInt16) (tm : TunnelManager) : TunnelManager :=
  { tm with freePorts := tm.freePorts ++ [port] }

end Rita
