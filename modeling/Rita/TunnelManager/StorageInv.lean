import Rita.TunnelManager.System

/-! # The storage invariant

`StorageWF`: every key of the storage maps to a non-empty list, and every tunnel of that list
belongs to the key's identity (invariant I1 of the spec). `tunnel_state_change` and
`open_tunnel` find an identity's tunnels by key, so a tunnel filed under another key would get
that key's payment actions.

Each place that writes the storage keeps it: the push of `open_tunnel` files a tunnel under its
own identity, the deletion of `open_tunnel` drops the key when nothing is left, `TriggerGC`
rebuilds the map with a push per fresh tunnel, and a state change touches only states.
`reachable_storageWF` is the run lemma. -/

namespace Rita

/-- Every key maps to a non-empty list of tunnels of that identity. -/
def StorageWF (tunnels : HashMap Identity (List Tunnel)) : Prop :=
  ∀ k ts, tunnels.lookup k = some ts → ts ≠ [] ∧ ∀ t ∈ ts, t.neighId.global = k

namespace StorageWF

variable {m : HashMap Identity (List Tunnel)} {k : Identity} {ts : List Tunnel}

theorem empty : StorageWF ∅ := fun _ _ h => by cases h

theorem insert (h : StorageWF m) (hne : ts ≠ []) (hk : ∀ t ∈ ts, t.neighId.global = k) :
    StorageWF (m.insert k ts) := by
  intro k' ts' hl
  by_cases hk' : k' = k
  · subst hk'
    rw [AList.lookup_insert, Option.some.injEq] at hl
    exact hl ▸ ⟨hne, hk⟩
  · rw [AList.lookup_insert_ne hk'] at hl
    exact h k' ts' hl

theorem erase (h : StorageWF m) : StorageWF (m.erase k) := by
  intro k' ts' hl
  by_cases hk' : k' = k
  · subst hk'
    rw [AList.lookup_erase] at hl
    cases hl
  · rw [AList.lookup_erase_ne hk'] at hl
    exact h k' ts' hl

theorem pushTunnel (h : StorageWF m) {t : Tunnel} (ht : t.neighId.global = k) :
    StorageWF (Rita.pushTunnel m k t) := by
  refine h.insert (by simp) fun t' ht' => ?_
  rcases List.mem_append.mp ht' with ht' | ht'
  · cases hl : m.lookup k with
    | none => simp [hl] at ht'
    | some ts => exact (h k ts hl).2 t' (by simpa [hl] using ht')
  · rw [List.mem_singleton.mp ht', ht]

end StorageWF

/-! ## The handlers -/

section
variable {env : OpenEnv} {theirLocalid : LocalIdentity} {peer : Peer} {ourPort : UInt16}
  {tm tm' : TunnelManager} {r : Except String (Tunnel × Bool)} {eff : List Effect}

theorem createTunnel_storageWF {returnBool : Bool} (h : StorageWF tm.tunnels)
    (hc : createTunnel env theirLocalid peer ourPort returnBool tm = some (r, tm', eff)) :
    StorageWF tm'.tunnels := by
  obtain ⟨_, -, -, ⟨-, ht, -⟩ | ⟨-, -, -, ht, -⟩⟩ := createTunnel_spec hc <;> rw [ht]
  · exact h
  · exact h.pushTunnel rfl

theorem bumpLastContact_keyed {now : Nat} {ts : List Tunnel} {k : Identity}
    (hk : ∀ t ∈ ts, t.neighId.global = k) : ∀ t ∈ bumpLastContact peer now ts, t.neighId.global = k := by
  intro t ht
  obtain ⟨t₀, h₀, rfl⟩ := List.mem_map.mp ht
  split <;> exact hk t₀ h₀

theorem replaceTunnel_storageWF {ts : List Tunnel} (h : StorageWF tm.tunnels)
    (hts : ∀ t ∈ ts, t.neighId.global = theirLocalid.global)
    (hc : replaceTunnel env theirLocalid peer ourPort ts tm = some (r, tm', eff)) :
    StorageWF tm'.tunnels := by
  obtain ⟨value, _, -, hc, -⟩ := replaceTunnel_spec hc
  refine createTunnel_storageWF ?_ hc
  dsimp only
  split
  · exact h.erase
  · rename_i hlen
    exact h.insert (fun he => hlen (by rw [he]; rfl)) fun t ht => hts t (mem_delTunnel.mp ht).1

theorem openTunnel_storageWF (h : StorageWF tm.tunnels)
    (ho : openTunnel env theirLocalid peer ourPort tm = some (r, tm', eff)) :
    StorageWF tm'.tunnels := by
  rcases openTunnel_spec ho with ⟨ts, hl, -, -, -, -, -, -, rfl⟩ | ⟨ts, hl, -, -, ho⟩ | ⟨-, ho⟩
  · obtain ⟨hne, hk⟩ := h _ ts hl
    exact h.insert (by simpa [bumpLastContact] using hne) (bumpLastContact_keyed hk)
  · obtain ⟨hne, hk⟩ := h _ ts hl
    exact replaceTunnel_storageWF
      (h.insert (by simpa [bumpLastContact] using hne) (bumpLastContact_keyed hk))
      (bumpLastContact_keyed hk) ho
  · exact createTunnel_storageWF h ho

end

theorem handleIdentityCallback_storageWF {env : CallbackEnv} {msg : IdentityCallback}
    {tm tm' : TunnelManager} {r : Option (Tunnel × Bool)} {eff : List Effect}
    (h : StorageWF tm.tunnels) (hc : handleIdentityCallback env msg tm = some (r, tm', eff)) :
    StorageWF tm'.tunnels := by
  rcases handleIdentityCallback_spec hc with ⟨-, _, -, -, rfl, -⟩ | ⟨_, _, _, -, ho, -⟩
  · exact h
  · exact openTunnel_storageWF (by exact h) ho

/-- Every list of `m'` is non-empty and made of tunnels that `m` stores under the same key. -/
def SubStorage (m' m : HashMap Identity (List Tunnel)) : Prop :=
  ∀ k ts', m'.lookup k = some ts' → ts' ≠ [] ∧ ∀ t ∈ ts', ∃ ts, m.lookup k = some ts ∧ t ∈ ts

theorem SubStorage.pushTunnel {m' m : HashMap Identity (List Tunnel)} (h : SubStorage m' m)
    {k : Identity} {ts : List Tunnel} {t : Tunnel} (hk : m.lookup k = some ts) (ht : t ∈ ts) :
    SubStorage (Rita.pushTunnel m' k t) m := by
  intro k' ts' hl
  by_cases hk' : k' = k
  · subst hk'
    rw [Rita.pushTunnel, AList.lookup_insert, Option.some.injEq] at hl
    subst hl
    refine ⟨by simp, fun t' ht' => ?_⟩
    rcases List.mem_append.mp ht' with ht' | ht'
    · cases hl' : m'.lookup k' with
      | none => simp [hl'] at ht'
      | some ts'' => exact (h k' ts'' hl').2 t' (by simpa [hl'] using ht')
    · exact ⟨ts, hk, List.mem_singleton.mp ht' ▸ ht⟩
  · rw [Rita.pushTunnel, AList.lookup_insert_ne hk'] at hl
    exact h k' ts' hl

theorem StorageWF.of_subStorage {m' m : HashMap Identity (List Tunnel)} (h : StorageWF m)
    (hs : SubStorage m' m) : StorageWF m' := by
  intro k ts' hl
  refine ⟨(hs k ts' hl).1, fun t ht => ?_⟩
  obtain ⟨ts, hk, ht⟩ := (hs k ts' hl).2 t ht
  exact (h k ts hk).2 t ht

/-- The rebuild of `TriggerGC` pushes each kept tunnel under the key it was stored under. -/
theorem splitTunnels_subStorage {threshold now : Nat} {m : HashMap Identity (List Tunnel)} :
    SubStorage (splitTunnels threshold now m).1 m := by
  have loop : ∀ (l : List (Identity × Tunnel)) acc, (∀ p ∈ l, ∃ ts, m.lookup p.1 = some ts ∧ p.2 ∈ ts) →
      SubStorage acc.1 m →
      SubStorage (l.foldl (fun acc p => splitTunnel threshold now p.1 acc p.2) acc).1 m := by
    intro l
    induction l with
    | nil => exact fun _ _ h => h
    | cons p l ih =>
      intro acc hl hacc
      refine ih _ (fun p' hp' => hl p' (List.mem_cons_of_mem _ hp')) ?_
      obtain ⟨ts, hk, ht⟩ := hl p (List.mem_cons_self _ _)
      show SubStorage (splitTunnel threshold now p.1 acc p.2).1 m
      unfold splitTunnel
      split
      · exact hacc.pushTunnel hk ht
      · exact hacc
  rw [splitTunnels_eq]
  refine loop _ _ (fun p hp => ?_) fun _ _ h => by cases h
  obtain ⟨e, he, hp⟩ := List.mem_flatMap.mp hp
  obtain ⟨t, ht, rfl⟩ := List.mem_map.mp hp
  exact ⟨e.2, AList.mem_lookup_iff.mpr he, ht⟩

theorem handleTriggerGC_storageWF {threshold : Nat} {env : GcEnv} {tm : TunnelManager}
    (h : StorageWF tm.tunnels) : StorageWF (handleTriggerGC threshold env tm).2.1.tunnels :=
  h.of_subStorage splitTunnels_subStorage

@[simp] theorem changeTunnelState_neighId (action : TunnelAction) (t : Tunnel) :
    (changeTunnelState action t).1.neighId = t.neighId := by
  cases action <;> simp only [changeTunnelState] <;> split <;> rfl

theorem tunnelStateChange_storageWF {env : BwEnv} {msg : TunnelChange}
    {tunnels : HashMap Identity (List Tunnel)} (h : StorageWF tunnels) :
    StorageWF (tunnelStateChange env msg tunnels).1 := by
  unfold tunnelStateChange
  cases hl : tunnels.lookup msg.identity with
  | none => exact h
  | some ts =>
    obtain ⟨hne, hk⟩ := h _ ts hl
    have hwf : StorageWF (tunnels.insert msg.identity ((ts.map (changeTunnelState msg.action)).map (·.1))) :=
      h.insert (by simpa using hne) (by simpa using hk)
    dsimp only
    split <;> exact hwf

theorem handleTunnelStateChange_storageWF {env : Nat → BwEnv} :
    ∀ {n : Nat} {changes : List TunnelChange} {tm : TunnelManager}, StorageWF tm.tunnels →
      StorageWF (handleTunnelStateChange env n changes tm).1.tunnels
  | _, [], _, h => h
  | n, c :: _, tm, h => by
    have h' : StorageWF (tunnelStateChange (env n) c tm.tunnels).1 := tunnelStateChange_storageWF h
    unfold handleTunnelStateChange
    rcases hres : tunnelStateChange (env n) c tm.tunnels with ⟨tunnels, eff⟩
    rw [hres] at h'
    exact handleTunnelStateChange_storageWF h'

theorem inquire_tunnels {env : InquiryEnv} {i : Inquiry} {tm tm' : TunnelManager}
    {r : Except String Unit} {pending : List Pending} (h : inquire env i tm = some (r, tm', pending)) :
    tm'.tunnels = tm.tunnels := by
  cases i with
  | peer peer =>
    obtain ⟨_, rfl, -⟩ := neighborInquiry_spec h
    rfl
  | hostname name =>
    obtain ⟨_, rfl, -⟩ := neighborInquiryHostname_spec h
    rfl

/-- Inquiries only draw ports. -/
theorem runInquiries_tunnels {env : Nat → InquiryEnv} :
    ∀ {n : Nat} {is : List Inquiry} {tm tm' : TunnelManager} {pending : List Pending},
      runInquiries env n is tm = some (tm', pending) → tm'.tunnels = tm.tunnels
  | _, [], _, _, _, h => by cases h; rfl
  | n, i :: is, tm, tm', pending, h => by
    unfold runInquiries at h
    cases hi : inquire (env n) i tm with
    | none => simp [hi] at h
    | some res =>
      obtain ⟨_, tm₁, _⟩ := res
      simp only [hi, Option.map_eq_some', Prod.exists, Prod.mk.injEq] at h
      obtain ⟨tm₂, _, h₂, rfl, -⟩ := h
      rw [runInquiries_tunnels h₂, inquire_tunnels hi]

/-! ## Runs -/

/-- **What a step does to storage and to the log.** It handles an `IdentityCallback`, or runs
`TriggerGC` or a `TunnelStateChange`; every other step leaves both alone. -/
theorem World.step_tunnels {w w' : World} {e : Event} (hs : w.step e = some w') :
    (∃ env msg r eff, e.identityCallback = some (env, msg) ∧
        handleIdentityCallback env msg w.tm = some (r, w'.tm, eff) ∧ w'.effects = w.effects ++ eff) ∨
      (∃ threshold env, e = .triggerGC threshold env ∧ w'.tm = (handleTriggerGC threshold env w.tm).2.1 ∧
        w'.effects = w.effects ++ (handleTriggerGC threshold env w.tm).2.2) ∨
      (∃ changes env, e = .tunnelStateChange changes env ∧
        w'.tm = (handleTunnelStateChange env 0 changes w.tm).1 ∧
        w'.effects = w.effects ++ (handleTunnelStateChange env 0 changes w.tm).2) ∨
      (e.identityCallback = none ∧ (∀ changes env, e ≠ .tunnelStateChange changes env) ∧
        w'.tm.tunnels = w.tm.tunnels ∧ w'.effects = w.effects) := by
  cases e with
  | helloAnswered peer ourPort theirId env =>
    simp only [World.step] at hs
    split at hs
    · simp only [Option.map_eq_some', Prod.exists] at hs
      obtain ⟨r, tm, eff, hc, rfl⟩ := hs
      exact .inl ⟨env, _, r, eff, rfl, hc, rfl⟩
    · cases hs
  | peerHello theirId peer env =>
    simp only [World.step, Option.map_eq_some', Prod.exists] at hs
    obtain ⟨r, tm, eff, hc, rfl⟩ := hs
    exact .inl ⟨env, _, r, eff, rfl, hc, rfl⟩
  | helloFailed | portCallback | dnsAnswered =>
    simp only [World.step] at hs
    split at hs
    · cases hs
      exact .inr (.inr (.inr ⟨rfl, fun _ _ => nofun, rfl, rfl⟩))
    · cases hs
  | peersToContact peers env =>
    simp only [World.step, Option.map_eq_some', Prod.exists] at hs
    obtain ⟨tm, _, hc, rfl⟩ := hs
    exact .inr (.inr (.inr ⟨rfl, fun _ _ => nofun, runInquiries_tunnels hc, rfl⟩))
  | triggerGC threshold env =>
    cases hs
    exact .inr (.inl ⟨threshold, env, rfl, rfl, rfl⟩)
  | tunnelStateChange changes env =>
    cases hs
    exact .inr (.inr (.inl ⟨changes, env, rfl, rfl, rfl⟩))

theorem step_storageWF {w w' : World} {e : Event} (h : StorageWF w.tm.tunnels)
    (hs : w.step e = some w') : StorageWF w'.tm.tunnels := by
  rcases World.step_tunnels hs with
    ⟨_, _, _, _, -, hc, -⟩ | ⟨_, _, -, htm, -⟩ | ⟨_, _, -, htm, -⟩ | ⟨-, -, htm, -⟩
  · exact handleIdentityCallback_storageWF h hc
  · rw [htm]
    exact handleTriggerGC_storageWF h
  · rw [htm]
    exact handleTunnelStateChange_storageWF h
  · rw [htm]
    exact h

theorem reachable_storageWF {p : UInt16} {w : World} (h : Reachable p w) :
    StorageWF w.tm.tunnels := by
  induction h with
  | init => exact StorageWF.empty
  | step _ hs ih => exact step_storageWF ih hs

/-- **Invariant I1.** In every world of every run from `TunnelManager::new()`, whatever the
kernel answers, every key of the storage maps to a non-empty list, and every tunnel of it
belongs to the key's identity. -/
theorem storage_key_lists_nonempty_and_own {p : UInt16} {w : World} (h : Reachable p w) :
    ∀ k ts, w.tm.tunnels.lookup k = some ts → ts ≠ [] ∧ ∀ t ∈ ts, t.neighId.global = k :=
  reachable_storageWF h

/-- The invariant in the world where a peer's hello opened a tunnel on interface `3`. -/
theorem storage_key_lists_after_peer_hello :
    ∃ w, Reachable 65533 w ∧ w.tm.tunnels.keys = [⟨.v6 7, 7, 7⟩] ∧
      ∀ k ts, w.tm.tunnels.lookup k = some ts → ts ≠ [] ∧ ∀ t ∈ ts, t.neighId.global = k :=
  have h := @Reachable.of_run 65533 _
    [.peerHello ⟨60000, none, ⟨.v6 7, 7, 7⟩⟩ ⟨3, ⟨.v6 1, 4876⟩⟩
      ⟨fun _ => ⟨.ok [], 0⟩, ⟨0, some "wg0", true, true, true⟩⟩] rfl
  ⟨_, h, rfl, storage_key_lists_nonempty_and_own h⟩

/-! ## One tunnel per interface

Invariant I3 of the spec asks that no two stored tunnels share `(neigh_id.global, listen_ifidx)`.
Given `StorageWF`, that is one interface per tunnel within each key's list. `open_tunnel` only
finds an existing tunnel when some tunnel of the identity is on the peer's interface and some
tunnel has the peer's ip, so a hello from a new ip on a known interface adds a second tunnel on
that interface. -/

/-- No two tunnels of one identity listen on the same interface. -/
def IfidxUnique (tunnels : HashMap Identity (List Tunnel)) : Prop :=
  ∀ k ts, tunnels.lookup k = some ts → (ts.map (·.listenIfidx)).Nodup

theorem not_ifidxUnique_of_lookup {m : HashMap Identity (List Tunnel)} (k : Identity) (l : List UInt32)
    (h : (m.lookup k).map (·.map (·.listenIfidx)) = some l) (hl : ¬l.Nodup) : ¬IfidxUnique m := by
  intro hu
  obtain ⟨ts, hts, rfl⟩ := Option.map_eq_some'.mp h
  exact hl (hu k ts hts)

/-- Two hellos of one identity on interface `3`, from two ips, leave two tunnels on interface
`3`. -/
theorem second_tunnel_on_same_ifidx :
    ∃ w, Reachable 65533 w ∧ (w.tm.tunnels.lookup ⟨.v6 7, 7, 7⟩).map (·.map (·.listenIfidx)) =
      some [3, 3] ∧ ¬IfidxUnique w.tm.tunnels :=
  have h := @Reachable.of_run 65533 _
    [.peerHello ⟨60000, none, ⟨.v6 7, 7, 7⟩⟩ ⟨3, ⟨.v6 1, 4876⟩⟩
      ⟨fun _ => ⟨.ok [], 0⟩, ⟨0, some "wg0", true, true, true⟩⟩,
     .peerHello ⟨60000, none, ⟨.v6 7, 7, 7⟩⟩ ⟨3, ⟨.v6 2, 4876⟩⟩
      ⟨fun _ => ⟨.ok [], 0⟩, ⟨0, some "wg1", true, true, true⟩⟩] rfl
  ⟨_, h, rfl, not_ifidxUnique_of_lookup ⟨.v6 7, 7, 7⟩ [3, 3] rfl (by decide)⟩

end Rita
