import Rita.TunnelManager.Interfaces
import Rita.TrafficWatcher.Debts

/-! # The neighbor list and the traffic watcher

`Handler<GetNeighbors>` lists one `Neighbor` per stored tunnel: the tunnel's `neigh_id`, its
interface and its ip (`getNeighbors`). A relay round hands that list to the traffic watcher's
`watch`, whose `prepare_helper_maps` keys `if_to_id` by interface name and `identities` by mesh
ip, each time keeping the last neighbor listed.

In every run in which `KI.setup_wg_if` never returns the name of an interface that exists, the
stored tunnels have distinct interfaces (`reachable_stored_ifaces`). Then `if_to_id` is exactly
the relation "a stored tunnel of this identity is on this interface" (`reachable_ifToId_lookup`),
and a round charges every counter row on a tunnel's interface to that tunnel's neighbor and to no
one else (`reachable_watch_traffic`). Which identities get an entry at all is still decided by mesh ip:
the last stored tunnel with a given mesh ip. -/

namespace Rita

/-- `Neighbor::new` on a stored tunnel. -/
def Tunnel.toNeighbor (t : Tunnel) : Neighbor :=
  ⟨t.neighId, t.ifaceName, t.ip⟩

/-- `Handler<GetNeighbors>`: one neighbor per stored tunnel, key by key. -/
def getNeighbors (tm : TunnelManager) : List Neighbor :=
  tm.tunnels.entries.flatMap fun e => e.2.map Tunnel.toNeighbor

theorem getNeighbors_eq (tm : TunnelManager) :
    getNeighbors tm = tm.allTunnels.map Tunnel.toNeighbor := by
  simp [getNeighbors, TunnelManager.allTunnels, List.map_flatMap]

theorem find?_reverse_eq_some_iff {α β : Type} [DecidableEq β] {f : α → β} {l : List α}
    (hl : (l.map f).Nodup) {x : β} {a : α} :
    l.reverse.find? (f · == x) = some a ↔ a ∈ l ∧ f a = x := by
  constructor
  · intro h
    exact ⟨List.mem_reverse.mp (List.mem_of_find?_eq_some h), by simpa using List.find?_some h⟩
  · rintro ⟨ha, rfl⟩
    cases hf : l.reverse.find? (f · == f a) with
    | none => simpa using List.find?_eq_none.mp hf a (List.mem_reverse.mpr ha)
    | some b =>
      have hb : f b = f a := by simpa using List.find?_some hf
      rw [List.inj_on_of_nodup_map hl (List.mem_reverse.mp (List.mem_of_find?_eq_some hf)) ha hb]

theorem lookup_identities_getNeighbors (tm : TunnelManager) (ip : IpAddr) :
    (prepareHelperMaps (getNeighbors tm)).1.lookup ip =
      (tm.allTunnels.reverse.find? (·.neighId.global.meshIp == ip)).map (·.neighId.global) := by
  rw [lookup_identities, getNeighbors_eq, ← List.map_reverse, List.find?_map, Option.map_map]
  rfl

theorem ifToId_lookup_of_nodup {tunnels : List Tunnel} (hnd : (tunnels.map (·.ifaceName)).Nodup)
    (iface : String) (id : Identity) :
    (prepareHelperMaps (tunnels.map Tunnel.toNeighbor)).2.lookup iface = some id ↔
      ∃ t ∈ tunnels, t.ifaceName = iface ∧ t.neighId.global = id := by
  have hnd' : ((tunnels.map Tunnel.toNeighbor).map (·.ifaceName)).Nodup := by
    simpa [List.map_map, Function.comp_def, Tunnel.toNeighbor] using hnd
  rw [lookup_ifToId, Option.map_eq_some']
  simp only [find?_reverse_eq_some_iff hnd', List.mem_map]
  constructor
  · rintro ⟨_, ⟨⟨t, ht, rfl⟩, rfl⟩, rfl⟩
    exact ⟨t, ht, rfl, rfl⟩
  · rintro ⟨t, ht, rfl, rfl⟩
    exact ⟨_, ⟨⟨t, ht, rfl⟩, rfl⟩, rfl⟩

/-- **The interface map of a round.** In every world of every run from `TunnelManager::new()` in
which `KI.setup_wg_if` never returns the name of an interface that exists, the `if_to_id` that
`prepare_helper_maps` builds from the neighbor list maps an interface to an identity iff a stored
tunnel of that identity is on that interface. -/
theorem reachable_ifToId_lookup {p : UInt16} {w : World} (h : Reachable p w)
    (hf : FreshIfaces w.effects) (iface : String) (id : Identity) :
    (prepareHelperMaps (getNeighbors w.tm)).2.lookup iface = some id ↔
      ∃ t ∈ w.tm.allTunnels, t.ifaceName = iface ∧ t.neighId.global = id := by
  rw [getNeighbors_eq]
  exact ifToId_lookup_of_nodup (reachable_stored_ifaces h hf).1 iface id

/-- After a peer's hello opened a tunnel on `wg0`, `if_to_id` maps `wg0` to the peer. -/
theorem ifToId_after_peer_hello :
    ∃ w, Reachable 65533 w ∧ FreshIfaces w.effects ∧
      (prepareHelperMaps (getNeighbors w.tm)).2.lookup "wg0" = some ⟨.v6 7, 7, 7⟩ :=
  have h := @Reachable.of_run 65533 _
    [.peerHello ⟨60000, none, ⟨.v6 7, 7, 7⟩⟩ ⟨3, ⟨.v6 1, 4876⟩⟩
      ⟨fun _ => ⟨.ok [], 0⟩, ⟨0, some "wg0", true, true, true⟩⟩] rfl
  ⟨_, h, rfl, (reachable_ifToId_lookup h rfl "wg0" ⟨.v6 7, 7, 7⟩).mpr
    ⟨_, List.mem_singleton_self _, rfl, rfl⟩⟩

/-! ## A round on the neighbor list -/

/-- The delta that one counter row adds to the debt of `id`, read off the stored tunnels: the
row's delta when its destination is priced and a tunnel of `id` is on its interface, and `0`
otherwise. -/
def tunnelRowDelta (tunnels : List Tunnel) (destinations : HashMap IpAddr Int)
    (delta : Int → UInt64 → Int) (id : Identity) (row : Σ _ : IpAddr × String, UInt64) : Int :=
  match destinations.lookup row.1.1 with
  | some dest =>
    if ∃ t ∈ tunnels, t.ifaceName = row.1.2 ∧ t.neighId.global = id then delta dest row.2 else 0
  | none => 0

theorem rowDelta_eq_tunnelRowDelta {tunnels : List Tunnel}
    (hnd : (tunnels.map (·.ifaceName)).Nodup) (destinations : HashMap IpAddr Int)
    (delta : Int → UInt64 → Int) (id : Identity) (row : Σ _ : IpAddr × String, UInt64) :
    rowDelta destinations (prepareHelperMaps (tunnels.map Tunnel.toNeighbor)).2 delta id row =
      tunnelRowDelta tunnels destinations delta id row := by
  have hiff := ifToId_lookup_of_nodup hnd row.1.2 id
  unfold rowDelta tunnelRowDelta
  cases destinations.lookup row.1.1 with
  | none => rfl
  | some dest =>
    simp only [← hiff]
    cases (prepareHelperMaps (tunnels.map Tunnel.toNeighbor)).2.lookup row.1.2 <;> simp

/-- **A round on the neighbor list.** In every world of every run in which `KI.setup_wg_if` never
returns the name of an interface that exists, a `watch` round on the list `GetNeighbors` returns
sends one entry per identity that the last stored tunnel with its mesh ip carries, and no other;
the amount of
identity `id` is the `i128` sum of the deltas of the counter rows toward priced destinations on
the interfaces of `id`'s own stored tunnels. -/
theorem reachable_watch_traffic {p : UInt16} {w : World} (h : Reachable p w)
    (hf : FreshIfaces w.effects) {settings : WatchSettings}
    {readCounters : FilterTarget → Except String Counters} {routes : List Route}
    {usage : UpdateUsage} {update : TrafficUpdate}
    (hw : watch settings readCounters routes (getNeighbors w.tm) = .ok (usage, update)) :
    ∃ destinations input output, getBabelInfo settings routes = .ok (destinations, settings.localFee) ∧
      getInputCounters readCounters = .ok input ∧ getOutputCounters readCounters = .ok output ∧
      (update.traffic.map (·.from)).Nodup ∧
      ∀ id amount, ⟨id, amount⟩ ∈ update.traffic ↔
        (w.tm.allTunnels.reverse.find? (·.neighId.global.meshIp == id.meshIp)).map
            (·.neighId.global) = some id ∧
        amount = wrapI128 ((input.entries.map
            (tunnelRowDelta w.tm.allTunnels destinations inputDelta id)).sum +
          (output.entries.map
            (tunnelRowDelta w.tm.allTunnels destinations (outputDelta settings.localFee) id)).sum) := by
  obtain ⟨destinations, input, output, hb, hi, ho, hnodup, hmem⟩ := watch_traffic hw
  have hrow : ∀ delta id, rowDelta destinations (prepareHelperMaps (getNeighbors w.tm)).2 delta id =
      tunnelRowDelta w.tm.allTunnels destinations delta id := fun delta id => funext <| by
    rw [getNeighbors_eq]
    exact rowDelta_eq_tunnelRowDelta (reachable_stored_ifaces h hf).1 destinations delta id
  refine ⟨destinations, input, output, hb, hi, ho, hnodup, fun id amount => ?_⟩
  rw [hmem, lookup_identities_getNeighbors, hrow, hrow]

/-- After a peer's hello opened a tunnel on `wg0`, a round with `10` input bytes on `wg0` toward
a destination priced at `3` charges the peer `-30`, the identity of the last tunnel with its mesh
ip. -/
theorem watch_after_peer_hello :
    ∃ w, Reachable 65533 w ∧ FreshIfaces w.effects ∧
      watch ⟨1, 10, some (.v6 99)⟩
          (fun target => match target with
            | .input => .ok ((∅ : Counters).insert (.v6 10, "wg0") 10)
            | _ => .ok ∅)
          [⟨.v6 10 128, true, 0, 0, 2⟩] (getNeighbors w.tm) =
        .ok (⟨.relay, 0, 10, 1⟩, ⟨[⟨⟨.v6 7, 7, 7⟩, -30⟩]⟩) ∧
      (w.tm.allTunnels.reverse.find? (·.neighId.global.meshIp == .v6 7)).map (·.neighId.global) =
        some ⟨.v6 7, 7, 7⟩ :=
  have h := @Reachable.of_run 65533 _
    [.peerHello ⟨60000, none, ⟨.v6 7, 7, 7⟩⟩ ⟨3, ⟨.v6 1, 4876⟩⟩
      ⟨fun _ => ⟨.ok [], 0⟩, ⟨0, some "wg0", true, true, true⟩⟩] rfl
  let ⟨_, _, _, _, _, _, _, hmem⟩ := @reachable_watch_traffic 65533 _ h rfl
    ⟨1, 10, some (.v6 99)⟩
    (fun target => match target with
      | .input => .ok ((∅ : Counters).insert (.v6 10, "wg0") 10)
      | _ => .ok ∅)
    [⟨.v6 10 128, true, 0, 0, 2⟩] _ _ rfl
  ⟨_, h, rfl, rfl, ((hmem _ _).mp (List.mem_singleton_self _)).1⟩

end Rita
