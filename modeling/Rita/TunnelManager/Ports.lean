import Rita.TunnelManager.StorageInv

/-! # The port pool

`TunnelManager::new()` puts every port of `[wg_start_port, 65535)` in the pool once. A port then
moves between the pool, the listen port of a stored tunnel, and the work in flight that holds
it (`World.heldPorts`).

Every handler passes on at most the ports it was given: each step leaves a sub-multiset of the
held ports (`step_heldPorts_subperm`), except the DNS answer of `neighbor_inquiry_hostname`,
which passes its one port to `contact_neighbor` for every address the lookup returned. So a
run never holds a port outside the configured range (`reachable_heldPorts_mem`), and a run in
which no lookup contacts two addresses holds every port at most once (`run_heldPorts_nodup`):
no two stored tunnels share a listen port, and no stored tunnel's port is in the pool.

The fan-out does duplicate: each answered hello opens a tunnel on the same port
(`hostname_fan_out_shares_listen_port`). And the sub-multiset is strict on several paths, which
drop a port taken from the pool: `get_port` when `KI.used_ports()` fails, `neighbor_inquiry`
when `contact_neighbor` fails, `open_tunnel` when `Tunnel::open` fails, the lookup continuation
when it gets no address or the node is no gateway, and `TriggerGC` after its first failed
deletion (`used_ports_error_loses_port`). -/

namespace Rita

open scoped List
open List (Perm Subperm)

/-- The ports of a manager, with multiplicity: the pool and the listen port of every stored
tunnel. -/
def TunnelManager.ports (tm : TunnelManager) : List UInt16 :=
  tm.freePorts ++ tm.allTunnels.map (·.listenPort)

/-- The port a piece of work in flight holds. -/
def Pending.port : Pending → UInt16
  | .hello _ p | .dns _ p | .portCallback p => p

/-- The ports a world holds, with multiplicity: the pool, the listen port of every stored tunnel,
and the port of every piece of work in flight. -/
def World.heldPorts (w : World) : List UInt16 :=
  w.tm.freePorts ++ w.tm.allTunnels.map (·.listenPort) ++ w.pending.map (·.port)

theorem World.heldPorts_eq (w : World) : w.heldPorts = w.tm.ports ++ w.pending.map (·.port) := rfl

/-- The initial pool is the range, once each. -/
theorem mem_new_freePorts {p port : UInt16} :
    port ∈ (TunnelManager.new p).freePorts ↔ p.toNat ≤ port.toNat ∧ port.toNat < 65535 := by
  have hp := p.toNat_lt_size
  have hport := port.toNat_lt_size
  simp only [TunnelManager.new, List.mem_map, List.mem_range'_1]
  constructor
  · rintro ⟨n, hn, rfl⟩
    rw [UInt16.toNat_ofNat_of_lt (by simp only [UInt16.size]; omega)]
    omega
  · intro h
    exact ⟨port.toNat, by omega, UInt16.toNat.inj (UInt16.toNat_ofNat_of_lt hport)⟩

theorem nodup_new_freePorts (p : UInt16) : (TunnelManager.new p).freePorts.Nodup := by
  have hp := p.toNat_lt_size
  refine (List.nodup_range' _ _).map_on fun x hx y hy hxy => ?_
  simp only [List.mem_range'_1] at hx hy
  have hx' : (UInt16.ofNat x).toNat = x :=
    UInt16.toNat_ofNat_of_lt (show x < UInt16.size by simp only [UInt16.size]; omega)
  have hy' : (UInt16.ofNat y).toNat = y :=
    UInt16.toNat_ofNat_of_lt (show y < UInt16.size by simp only [UInt16.size]; omega)
  rw [← hx', ← hy', hxy]

/-! ## Sub-multisets -/

theorem subperm_map {α β : Type} (f : α → β) {l₁ l₂ : List α} (h : l₁ <+~ l₂) :
    l₁.map f <+~ l₂.map f :=
  let ⟨l, hp, hs⟩ := h
  ⟨l.map f, hp.map f, hs.map f⟩

theorem nodup_of_subperm {α : Type} {l₁ l₂ : List α} (h : l₁ <+~ l₂) (hn : l₂.Nodup) : l₁.Nodup :=
  let ⟨_, hp, hs⟩ := h
  hp.nodup_iff.mp (hn.sublist hs)

/-! ## Storage as a multiset of tunnels -/

section
variable {m : HashMap Identity (List Tunnel)} {k : Identity}

theorem flatMap_insert (v : List Tunnel) :
    (m.insert k v).entries.flatMap (·.2) = v ++ (m.erase k).entries.flatMap (·.2) := by
  rw [AList.insert_entries, List.flatMap_cons]
  rfl

/-- The tunnels of a storage are those under `k` and those of the other keys. -/
theorem flatMap_perm_lookup (m : HashMap Identity (List Tunnel)) (k : Identity) :
    m.entries.flatMap (·.2) ~ (m.lookup k).getD [] ++ (m.erase k).entries.flatMap (·.2) := by
  show _ ~ _ ++ (m.entries.kerase k).flatMap _
  by_cases hk : k ∈ m.entries.keys
  · obtain ⟨b, l₁, l₂, -, he, hke⟩ := List.exists_of_kerase hk
    have hl : m.lookup k = some b := AList.mem_lookup_iff.mpr (by rw [he]; simp)
    rw [hl, hke, he]
    simp only [List.flatMap_append, List.flatMap_cons, Option.getD_some]
    rw [← List.append_assoc, ← List.append_assoc]
    exact List.perm_append_comm.append_right _
  · rw [AList.lookup_eq_none.mpr hk, List.kerase_of_not_mem_keys hk]
    rfl

theorem flatMap_pushTunnel (t : Tunnel) :
    (pushTunnel m k t).entries.flatMap (·.2) ~ t :: m.entries.flatMap (·.2) := by
  rw [pushTunnel, flatMap_insert, List.append_assoc, List.singleton_append]
  exact List.perm_middle.trans ((flatMap_perm_lookup m k).symm.cons t)

end

/-! ## What each handler does to the ports -/

/-- The bump of `open_tunnel` changes nothing a map reads unless it reads `last_contact`. -/
theorem bumpLastContact_map {β : Type} (f : Tunnel → β) (hf : ∀ t n, f { t with lastContact := n } = f t)
    (peer : Peer) (now : Nat) (ts : List Tunnel) : (bumpLastContact peer now ts).map f = ts.map f := by
  simp only [bumpLastContact, List.map_map]
  exact List.map_congr_left fun t _ => by dsimp only [Function.comp]; split <;> simp only [hf]

/-- Storing the bumped tunnels of a key keeps what such a map reads of the storage. -/
theorem insert_bumped_perm {β : Type} (f : Tunnel → β) (hf : ∀ t n, f { t with lastContact := n } = f t)
    {m : HashMap Identity (List Tunnel)} {k : Identity} {ts : List Tunnel} {peer : Peer} {now : Nat}
    (hl : m.lookup k = some ts) :
    ((m.insert k (bumpLastContact peer now ts)).entries.flatMap (·.2)).map f ~
      (m.entries.flatMap (·.2)).map f := by
  have hall := (flatMap_perm_lookup m k).map f
  rw [hl, Option.getD_some, List.map_append] at hall
  rw [flatMap_insert, List.map_append, bumpLastContact_map f hf]
  exact hall.symm

theorem delTunnel_sublist_erase (value : Tunnel) :
    ∀ ts : List Tunnel, delTunnel value ts <+ ts.erase value
  | [] => .slnil
  | t :: ts => by
    by_cases ht : t = value
    · subst ht
      simp [delTunnel, List.filter_sublist]
    · rw [List.erase_cons_tail (by simpa using ht)]
      simpa [delTunnel, ht] using (delTunnel_sublist_erase value ts).cons₂ t

/-- `del_tunnel` removes at least the one tunnel it was given. -/
theorem cons_delTunnel_subperm {value : Tunnel} {ts : List Tunnel} (h : value ∈ ts) :
    value :: delTunnel value ts <+~ ts :=
  ((delTunnel_sublist_erase value ts).cons₂ value).subperm.trans (List.perm_cons_erase h).symm.subperm

/-- The storage `replaceTunnel` creates in: the identity's tunnels without `value`, which is one of
them. -/
theorem replaced_subperm {m : HashMap Identity (List Tunnel)} {k : Identity} {ts : List Tunnel}
    {value : Tunnel} (hl : m.lookup k = some ts) (hv : value ∈ ts) :
    value :: (if (delTunnel value ts).length = 0 then m.erase k
      else m.insert k (delTunnel value ts)).entries.flatMap (·.2) <+~ m.entries.flatMap (·.2) := by
  have hall := flatMap_perm_lookup m k
  rw [hl, Option.getD_some] at hall
  refine Subperm.trans ?_ hall.symm.subperm
  have hsub := cons_delTunnel_subperm hv
  split
  · rename_i hlen
    rw [List.length_eq_zero.mp hlen] at hsub
    exact (List.subperm_append_right _).mpr hsub
  · rw [flatMap_insert, ← List.cons_append]
    exact (List.subperm_append_right _).mpr hsub

/-- A tunnel of the storage is `value`, or it stays in the storage `replaceTunnel` creates in. -/
theorem mem_replaced (value : Tunnel) {m : HashMap Identity (List Tunnel)} {k : Identity}
    {ts : List Tunnel} {t : Tunnel} (hl : m.lookup k = some ts) (ht : t ∈ m.entries.flatMap (·.2)) :
    t = value ∨ t ∈ (if (delTunnel value ts).length = 0 then m.erase k
      else m.insert k (delTunnel value ts)).entries.flatMap (·.2) := by
  have hall := flatMap_perm_lookup m k
  rw [hl, Option.getD_some] at hall
  rcases List.mem_append.mp (hall.subset ht) with ht | ht
  · by_cases hv : t = value
    · exact .inl hv
    · have hd : t ∈ delTunnel value ts := mem_delTunnel.mpr ⟨ht, hv⟩
      rw [if_neg (List.length_pos_of_mem hd).ne', flatMap_insert]
      exact .inr (List.mem_append_left _ hd)
  · refine .inr ?_
    split
    · exact ht
    · rw [flatMap_insert]
      exact List.mem_append_right _ ht

/-- The drawn port and the rest of the pool are the pool. -/
theorem perm_get_cons_eraseIdx {l : List UInt16} {i : Nat} (hi : i < l.length) :
    l ~ l.get ⟨i, hi⟩ :: l.eraseIdx i := by
  rw [List.eraseIdx_eq_take_drop_succ]
  conv_lhs => rw [← List.take_append_drop i l, List.drop_eq_getElem_cons hi]
  exact List.perm_middle

/-- `get_port` hands out at most one port of the pool, and keeps the rest. -/
theorem getPortLeft_subperm {draws : Nat → PortDraw} :
    ∀ {left : Nat} {freePorts freePorts' : List UInt16} {port : Option UInt16},
      getPortLeft draws left freePorts = some (port, freePorts') →
        freePorts' ++ port.toList <+~ freePorts
  | left, freePorts, freePorts', port, h => by
    unfold getPortLeft at h
    split at h
    · cases h
    · rename_i hne
      have hperm := perm_get_cons_eraseIdx
        (Nat.mod_lt (draws (10 - left)).random (List.length_pos.mpr hne))
      dsimp only at h
      split at h
      · split at h
        · split at h
          · cases h
          · exact (getPortLeft_subperm h).trans
              (List.perm_append_singleton _ _ |>.trans hperm.symm).subperm
        · simp only [Option.some.injEq, Prod.mk.injEq] at h
          obtain ⟨rfl, rfl⟩ := h
          exact (List.perm_append_singleton _ _ |>.trans hperm.symm).subperm
      · simp only [Option.some.injEq, Prod.mk.injEq] at h
        obtain ⟨rfl, rfl⟩ := h
        rw [Option.toList_none, List.append_nil]
        exact (List.sublist_cons_self _ _).subperm.trans hperm.symm.subperm

theorem getPort_subperm {draws : Nat → PortDraw} {level : Nat} {freePorts freePorts' : List UInt16}
    {port : Option UInt16} (h : getPort draws level freePorts = some (port, freePorts')) :
    freePorts' ++ port.toList <+~ freePorts :=
  getPortLeft_subperm h

section
variable {env : OpenEnv} {theirLocalid : LocalIdentity} {peer : Peer} {ourPort : UInt16}
  {tm tm' : TunnelManager} {r : Except String (Tunnel × Bool)} {eff : List Effect}

theorem createTunnel_ports {returnBool : Bool}
    (h : createTunnel env theirLocalid peer ourPort returnBool tm = some (r, tm', eff)) :
    tm'.ports <+~ ourPort :: tm.ports := by
  obtain ⟨iface, -, hfp, ⟨-, ht, -⟩ | ⟨-, -, -, ht, -⟩⟩ := createTunnel_spec h <;>
    simp only [TunnelManager.ports, TunnelManager.allTunnels, hfp, ht]
  · exact (List.sublist_cons_self _ _).subperm
  · exact ((((flatMap_pushTunnel _).map (·.listenPort)).append_left _).trans List.perm_middle).subperm

theorem replaceTunnel_ports {ts : List Tunnel} (hl : tm.tunnels.lookup theirLocalid.global = some ts)
    (h : replaceTunnel env theirLocalid peer ourPort ts tm = some (r, tm', eff)) :
    tm'.ports <+~ ourPort :: tm.ports := by
  obtain ⟨value, _, hv, hc, -⟩ := replaceTunnel_spec h
  refine (createTunnel_ports hc).trans ((List.subperm_cons _).mpr ?_)
  have hsub := subperm_map (·.listenPort) (replaced_subperm hl (getTunnelByIfidx_mem hv).1)
  simp only [TunnelManager.ports, TunnelManager.allTunnels, List.append_assoc, List.singleton_append]
  exact (List.subperm_append_left _).mpr hsub

/-- The bump of `open_tunnel` keeps the ports of the storage. -/
theorem insert_bumped_ports {freePorts : List UInt16} {k : Identity} {ts : List Tunnel} {now : Nat}
    (hl : tm.tunnels.lookup k = some ts) :
    (⟨freePorts, tm.tunnels.insert k (bumpLastContact peer now ts)⟩ : TunnelManager).ports ~
      freePorts ++ tm.allTunnels.map (·.listenPort) :=
  (insert_bumped_perm (·.listenPort) (fun _ _ => rfl) hl).append_left freePorts

/-- **The ports of `open_tunnel`.** It keeps at most the ports of the manager and `our_port`. -/
theorem openTunnel_ports (h : openTunnel env theirLocalid peer ourPort tm = some (r, tm', eff)) :
    tm'.ports <+~ ourPort :: tm.ports := by
  rcases openTunnel_spec h with ⟨ts, hl, -, -, -, -, -, -, rfl⟩ | ⟨ts, hl, -, -, ho⟩ | ⟨-, ho⟩
  · refine ((insert_bumped_ports hl).trans ?_).subperm
    rw [List.append_assoc, List.singleton_append]
    exact List.perm_middle
  · exact (replaceTunnel_ports (AList.lookup_insert _) ho).trans
      ((List.subperm_cons _).mpr (insert_bumped_ports hl).subperm)
  · exact createTunnel_ports ho

end

theorem handleIdentityCallback_ports {env : CallbackEnv} {msg : IdentityCallback}
    {tm tm' : TunnelManager} {r : Option (Tunnel × Bool)} {eff : List Effect}
    (h : handleIdentityCallback env msg tm = some (r, tm', eff)) :
    tm'.ports <+~ msg.ourPort.toList ++ tm.ports := by
  rcases handleIdentityCallback_spec h with ⟨hp, fp, hg, -, rfl, -⟩ | ⟨ourPort, fp, res, hp, ho, -⟩
  · have hfp := getPort_subperm hg
    rw [Option.toList_none, List.append_nil] at hfp
    rw [hp, Option.toList_none, List.nil_append]
    exact (List.subperm_append_right _).mpr hfp
  · have ho' := openTunnel_ports ho
    rcases hp with ⟨hp, rfl⟩ | ⟨hp, hg⟩
    · rw [hp]
      exact ho'
    · rw [hp, Option.toList_none, List.nil_append]
      refine ho'.trans (List.perm_middle.symm.subperm.trans ?_)
      rw [← List.singleton_append, ← List.append_assoc]
      exact (List.subperm_append_right _).mpr (getPort_subperm hg)

theorem handlePortCallback_ports (port : UInt16) (tm : TunnelManager) :
    (handlePortCallback port tm).ports ~ port :: tm.ports := by
  simp only [handlePortCallback, TunnelManager.ports, List.append_assoc, List.singleton_append]
  exact List.perm_middle

/-- A port drawn from the pool is passed on at most once. -/
theorem drawn_ports {tm : TunnelManager} {freePorts : List UInt16} {port : Option UInt16}
    {pending : List Pending} (hg : freePorts ++ port.toList <+~ tm.freePorts)
    (hp : pending.map (·.port) <+ port.toList) :
    ({ tm with freePorts } : TunnelManager).ports ++ pending.map (·.port) <+~ tm.ports := by
  simp only [TunnelManager.ports, TunnelManager.allTunnels, List.append_assoc]
  refine (List.perm_append_comm.append_left freePorts).subperm.trans ?_
  rw [← List.append_assoc]
  exact (List.subperm_append_right _).mpr ((hp.append_left freePorts).subperm.trans hg)

theorem inquire_ports {env : InquiryEnv} {i : Inquiry} {tm tm' : TunnelManager}
    {r : Except String Unit} {pending : List Pending} (h : inquire env i tm = some (r, tm', pending)) :
    tm'.ports ++ pending.map (·.port) <+~ tm.ports := by
  cases i with
  | peer peer =>
    obtain ⟨fp, rfl, ⟨hg, rfl⟩ | ⟨p, hg, rfl⟩⟩ := neighborInquiry_spec h
    · exact drawn_ports (getPort_subperm hg) (List.nil_sublist _)
    · refine drawn_ports (getPort_subperm hg) ?_
      unfold contactNeighbor
      split
      · exact List.Sublist.refl _
      · exact List.nil_sublist _
  | hostname name =>
    obtain ⟨fp, rfl, ⟨hg, rfl⟩ | ⟨p, hg, rfl⟩⟩ := neighborInquiryHostname_spec h
    · exact drawn_ports (getPort_subperm hg) (List.nil_sublist _)
    · exact drawn_ports (getPort_subperm hg) (List.Sublist.refl _)

theorem runInquiries_ports {env : Nat → InquiryEnv} :
    ∀ {n : Nat} {is : List Inquiry} {tm tm' : TunnelManager} {pending : List Pending},
      runInquiries env n is tm = some (tm', pending) → tm'.ports ++ pending.map (·.port) <+~ tm.ports
  | _, [], _, _, _, h => by
    cases h
    simpa using List.Subperm.refl _
  | n, i :: is, tm, tm', pending, h => by
    unfold runInquiries at h
    cases hi : inquire (env n) i tm with
    | none => simp [hi] at h
    | some res =>
      obtain ⟨_, tm₁, p₁⟩ := res
      simp only [hi, Option.map_eq_some', Prod.exists, Prod.mk.injEq] at h
      obtain ⟨tm₂, rest, h₂, rfl, rfl⟩ := h
      rw [List.map_append]
      refine (List.perm_append_comm.append_left _).subperm.trans ?_
      rw [← List.append_assoc]
      exact ((List.subperm_append_right _).mpr (runInquiries_ports h₂)).trans (inquire_ports hi)

theorem releaseTimedOut_ports (delOk : Nat → Bool) :
    ∀ (n : Nat) (ts : List Tunnel) (freePorts : List UInt16),
      (releaseTimedOut delOk n ts freePorts).2.1 <+~ freePorts ++ ts.map (·.listenPort)
  | _, [], freePorts => by simpa [releaseTimedOut] using List.Subperm.refl freePorts
  | n, t :: ts, freePorts => by
    unfold releaseTimedOut
    split
    · simpa using releaseTimedOut_ports delOk (n + 1) ts (freePorts ++ [t.listenPort])
    · exact (List.sublist_append_left _ _).subperm

/-- `TriggerGC` splits the stored tunnels between `good` and `timed_out`. -/
theorem splitTunnels_perm (threshold now : Nat) (m : HashMap Identity (List Tunnel)) :
    (splitTunnels threshold now m).1.entries.flatMap (·.2) ++
      (splitTunnels threshold now m).2.entries.flatMap (·.2) ~ m.entries.flatMap (·.2) := by
  have loop : ∀ (l : List (Identity × Tunnel)) acc,
      (l.foldl (fun acc p => splitTunnel threshold now p.1 acc p.2) acc).1.entries.flatMap (·.2) ++
        (l.foldl (fun acc p => splitTunnel threshold now p.1 acc p.2) acc).2.entries.flatMap (·.2) ~
      acc.1.entries.flatMap (·.2) ++ acc.2.entries.flatMap (·.2) ++ l.map (·.2) := by
    intro l
    induction l with
    | nil => exact fun _ => by simp
    | cons p l ih =>
      intro acc
      refine (ih _).trans ?_
      rw [List.map_cons, ← List.singleton_append, ← List.append_assoc]
      refine Perm.append_right _ ?_
      show (splitTunnel threshold now p.1 acc p.2).1.entries.flatMap (·.2) ++
        (splitTunnel threshold now p.1 acc p.2).2.entries.flatMap (·.2) ~ _
      unfold splitTunnel
      split
      · exact ((flatMap_pushTunnel _).append_right _).trans (List.perm_append_singleton _ _).symm
      · exact ((flatMap_pushTunnel _).append_left _).trans
          (List.perm_middle.trans (List.perm_append_singleton _ _).symm)
  rw [splitTunnels_eq]
  refine (loop _ _).trans ?_
  simp [List.map_flatMap, Function.comp_def]

theorem handleTriggerGC_ports (threshold : Nat) (env : GcEnv) (tm : TunnelManager) :
    (handleTriggerGC threshold env tm).2.1.ports <+~ tm.ports := by
  have hsplit := (splitTunnels_perm threshold env.now tm.tunnels).map (·.listenPort)
  have hrel := releaseTimedOut_ports env.delOk 0
    ((splitTunnels threshold env.now tm.tunnels).2.entries.flatMap (·.2)) tm.freePorts
  rw [List.map_append] at hsplit
  show (releaseTimedOut env.delOk 0 ((splitTunnels threshold env.now tm.tunnels).2.entries.flatMap (·.2))
      tm.freePorts).2.1 ++ ((splitTunnels threshold env.now tm.tunnels).1.entries.flatMap (·.2)).map
      (·.listenPort) <+~ tm.freePorts ++ tm.allTunnels.map (·.listenPort)
  refine ((List.subperm_append_right _).mpr hrel).trans ?_
  rw [List.append_assoc]
  exact ((List.perm_append_comm.trans hsplit).append_left _).subperm

@[simp] theorem changeTunnelState_listenPort (action : TunnelAction) (t : Tunnel) :
    (changeTunnelState action t).1.listenPort = t.listenPort := by
  cases action <;> simp only [changeTunnelState] <;> split <;> rfl

@[simp] theorem changeTunnelState_ifaceName (action : TunnelAction) (t : Tunnel) :
    (changeTunnelState action t).1.ifaceName = t.ifaceName := by
  cases action <;> simp only [changeTunnelState] <;> split <;> rfl

/-- `tunnel_state_change` keeps what a map reads of the storage when the action keeps what it
reads of each tunnel stored under the message's identity. -/
theorem tunnelStateChange_map_of_stored {β : Type} (f : Tunnel → β) (env : BwEnv) (c : TunnelChange)
    (m : HashMap Identity (List Tunnel))
    (hf : ∀ t ∈ (m.lookup c.identity).getD [], f (changeTunnelState c.action t).1 = f t) :
    ((tunnelStateChange env c m).1.entries.flatMap (·.2)).map f ~ (m.entries.flatMap (·.2)).map f := by
  unfold tunnelStateChange
  cases hl : m.lookup c.identity with
  | none => exact .refl _
  | some ts =>
    have hall := (flatMap_perm_lookup m c.identity).map f
    rw [hl, Option.getD_some] at hall
    rw [hl, Option.getD_some] at hf
    have hins : ((m.insert c.identity ((ts.map (changeTunnelState c.action)).map (·.1))).entries.flatMap
        (·.2)).map f ~ (m.entries.flatMap (·.2)).map f := by
      have hts : ts.map ((f ∘ (·.1)) ∘ changeTunnelState c.action) = ts.map f := List.map_congr_left hf
      rw [flatMap_insert, List.map_append, List.map_map, List.map_map, hts, ← List.map_append]
      exact hall.symm
    dsimp only
    split <;> exact hins

/-- `tunnel_state_change` keeps what a map reads of the storage, unless it reads a state. -/
theorem tunnelStateChange_map {β : Type} (f : Tunnel → β)
    (hf : ∀ action t, f (changeTunnelState action t).1 = f t) (env : BwEnv) (c : TunnelChange)
    (m : HashMap Identity (List Tunnel)) :
    ((tunnelStateChange env c m).1.entries.flatMap (·.2)).map f ~ (m.entries.flatMap (·.2)).map f :=
  tunnelStateChange_map_of_stored f env c m fun t _ => hf c.action t

theorem tunnelStateChange_ports (env : BwEnv) (c : TunnelChange) (m : HashMap Identity (List Tunnel)) :
    ((tunnelStateChange env c m).1.entries.flatMap (·.2)).map (·.listenPort) ~
      (m.entries.flatMap (·.2)).map (·.listenPort) :=
  tunnelStateChange_map _ changeTunnelState_listenPort env c m

theorem handleTunnelStateChange_ports (env : Nat → BwEnv) :
    ∀ (n : Nat) (changes : List TunnelChange) (tm : TunnelManager),
      (handleTunnelStateChange env n changes tm).1.ports ~ tm.ports
  | _, [], _ => .refl _
  | n, c :: rest, tm => by
    have h := tunnelStateChange_ports (env n) c tm.tunnels
    unfold handleTunnelStateChange
    rcases hres : tunnelStateChange (env n) c tm.tunnels with ⟨tunnels, eff⟩
    rw [hres] at h
    exact (handleTunnelStateChange_ports env (n + 1) rest _).trans (h.append_left tm.freePorts)

theorem port_of_mem_contactNeighbor {ok : Bool} {peer : Peer} {ourPort : UInt16} {x : Pending}
    (h : x ∈ (contactNeighbor ok peer ourPort).2) : x.port = ourPort := by
  unfold contactNeighbor at h
  split at h
  · rw [List.mem_singleton.mp h]
    rfl
  · cases h

/-- The pieces of work the DNS answer spawns all hold the lookup's port. -/
theorem port_of_mem_dnsResolved {env : DnsEnv} {ourPort : UInt16} {x : Pending}
    (h : x ∈ dnsResolved env ourPort) : x.port = ourPort := by
  unfold dnsResolved at h
  split at h
  · rw [List.mem_singleton.mp h]
    rfl
  · split at h
    · obtain ⟨_, -, hx⟩ := List.mem_flatMap.mp h
      exact port_of_mem_contactNeighbor hx
    · cases h

/-! ## Runs -/

/-- A DNS answer that contacts more than one address. -/
def Event.fansOut : Event → Bool
  | .dnsAnswered _ ourPort env => 1 < (dnsResolved env ourPort).length
  | _ => false

/-- A step that consumes the piece of work `x` and spawns `new`. -/
theorem heldPorts_of_consume {w : World} {x : Pending} (hx : x ∈ w.pending) {tm' : TunnelManager}
    {new : List Pending} (eff : List Effect) (h : tm'.ports ++ new.map (·.port) <+~ x.port :: w.tm.ports) :
    (⟨tm', w.pending.erase x ++ new, eff⟩ : World).heldPorts <+~ w.heldPorts := by
  rw [World.heldPorts_eq, World.heldPorts_eq, List.map_append]
  have hP := ((List.perm_cons_erase hx).map (·.port)).append_left w.tm.ports
  rw [List.map_cons] at hP
  have h₁ : tm'.ports ++ ((w.pending.erase x).map (·.port) ++ new.map (·.port)) ~
      tm'.ports ++ new.map (·.port) ++ (w.pending.erase x).map (·.port) := by
    rw [List.append_assoc]
    exact List.perm_append_comm.append_left _
  exact h₁.subperm.trans (((List.subperm_append_right _).mpr h).trans
    (List.perm_middle.symm.trans hP.symm).subperm)

/-- **One step.** Every step other than a DNS answer that contacts several addresses holds at
most the ports held before it, each at most as often. -/
theorem step_heldPorts_subperm {w w' : World} {e : Event} (hs : w.step e = some w')
    (hf : e.fansOut = false) : w'.heldPorts <+~ w.heldPorts := by
  cases e with
  | helloAnswered peer ourPort theirId env =>
    simp only [World.step] at hs
    split at hs
    · rename_i hmem
      simp only [Option.map_eq_some', Prod.exists] at hs
      obtain ⟨_, tm, eff, hc, rfl⟩ := hs
      have h : tm.ports ++ ([] : List Pending).map (·.port) <+~ ourPort :: w.tm.ports := by
        simpa using handleIdentityCallback_ports hc
      simpa using heldPorts_of_consume hmem (w.effects ++ eff) h
    · cases hs
  | helloFailed _ ourPort | portCallback ourPort =>
    simp only [World.step] at hs
    split at hs
    · rename_i hmem
      cases hs
      have h : (handlePortCallback ourPort w.tm).ports ++ ([] : List Pending).map (·.port) <+~
          ourPort :: w.tm.ports := by
        simpa using (handlePortCallback_ports ourPort w.tm).subperm
      simpa using heldPorts_of_consume hmem w.effects h
    · cases hs
  | peerHello theirId peer env =>
    simp only [World.step, Option.map_eq_some', Prod.exists] at hs
    obtain ⟨_, tm, eff, hc, rfl⟩ := hs
    exact (List.subperm_append_right _).mpr (by simpa using handleIdentityCallback_ports hc)
  | dnsAnswered hostname ourPort env =>
    simp only [World.step] at hs
    split at hs
    · rename_i hmem
      cases hs
      refine heldPorts_of_consume hmem w.effects ?_
      have hlen : (dnsResolved env ourPort).length ≤ 1 := by simpa [Event.fansOut] using hf
      have hsub : (dnsResolved env ourPort).map (·.port) <+ [ourPort] := by
        rcases h : dnsResolved env ourPort with _ | ⟨x, _ | ⟨y, l⟩⟩
        · exact List.nil_sublist _
        · rw [List.map_singleton, port_of_mem_dnsResolved (h ▸ List.mem_singleton_self x)]
        · rw [h] at hlen
          simp at hlen
      exact ((hsub.append_left _).subperm.trans (List.perm_append_singleton _ _).subperm)
    · cases hs
  | peersToContact peers env =>
    simp only [World.step, Option.map_eq_some', Prod.exists] at hs
    obtain ⟨tm, new, hc, rfl⟩ := hs
    have h := runInquiries_ports hc
    rw [World.heldPorts_eq, World.heldPorts_eq, List.map_append]
    refine (List.perm_append_comm.append_left _).subperm.trans ?_
    rw [← List.append_assoc]
    exact (List.subperm_append_right _).mpr h
  | triggerGC threshold env =>
    simp only [World.step, Option.some.injEq] at hs
    cases hs
    exact (List.subperm_append_right _).mpr (handleTriggerGC_ports threshold env w.tm)
  | tunnelStateChange changes env =>
    simp only [World.step, Option.some.injEq] at hs
    cases hs
    exact (List.subperm_append_right _).mpr (handleTunnelStateChange_ports env 0 changes w.tm).subperm

/-- A DNS answer that fans out holds only copies of the lookup's port. -/
theorem step_heldPorts_subset {w w' : World} {e : Event} (hs : w.step e = some w') :
    ∀ x ∈ w'.heldPorts, x ∈ w.heldPorts := by
  cases hf : e.fansOut
  · exact (step_heldPorts_subperm hs hf).subset
  · cases e <;> try cases hf
    simp only [World.step] at hs
    split at hs
    · rename_i hmem
      cases hs
      intro x hx
      rw [World.heldPorts_eq, List.map_append, ← List.append_assoc, List.mem_append] at hx
      rw [World.heldPorts_eq, List.mem_append]
      rcases hx with hx | hx
      · rcases List.mem_append.mp hx with hx | hx
        · exact .inl hx
        · exact .inr (List.map_subset _ (List.erase_subset _ _) hx)
      · obtain ⟨y, hy, rfl⟩ := List.mem_map.mp hx
        rw [port_of_mem_dnsResolved hy]
        exact .inr (List.mem_map_of_mem (fun x : Pending => x.port) hmem)
    · cases hs

theorem run_heldPorts_subperm :
    ∀ {w w' : World} {es : List Event}, w.run es = some w' → (∀ e ∈ es, e.fansOut = false) →
      w'.heldPorts <+~ w.heldPorts
  | _, _, [], h, _ => by
    cases h
    exact .refl _
  | w, w', e :: es, h, hf => by
    simp only [World.run, Option.bind_eq_some] at h
    obtain ⟨w₁, h₁, h₂⟩ := h
    exact (run_heldPorts_subperm h₂ fun e' he' => hf e' (List.mem_cons_of_mem _ he')).trans
      (step_heldPorts_subperm h₁ (hf e (List.mem_cons_self _ _)))

theorem init_heldPorts (p : UInt16) : (World.init p).heldPorts = (TunnelManager.new p).freePorts := by
  simp [World.heldPorts, World.init, TunnelManager.new, TunnelManager.allTunnels]

/-- **No port outside the range.** In every world of every run from `TunnelManager::new()`,
whatever the kernel and the resolver answer, every port in the pool, under a stored tunnel or
held by work in flight is in `[wg_start_port, 65535)`. -/
theorem reachable_heldPorts_mem {p : UInt16} {w : World} (h : Reachable p w) {port : UInt16}
    (hp : port ∈ w.heldPorts) : p.toNat ≤ port.toNat ∧ port.toNat < 65535 := by
  induction h with
  | init => exact mem_new_freePorts.mp (init_heldPorts p ▸ hp)
  | step _ hs ih => exact ih (step_heldPorts_subset hs _ hp)

/-- After a peer's hello, the tunnel listens on `65533`, a port of the range from `65533`. -/
theorem hello_port_in_range :
    ∃ w, Reachable 65533 w ∧ (65533 : UInt16) ∈ w.heldPorts ∧
      (65533 : UInt16).toNat ≤ (65533 : UInt16).toNat ∧ (65533 : UInt16).toNat < 65535 :=
  have h := @Reachable.of_run 65533 _
    [.peerHello ⟨60000, none, ⟨.v6 7, 7, 7⟩⟩ ⟨3, ⟨.v6 1, 4876⟩⟩
      ⟨fun _ => ⟨.ok [], 0⟩, ⟨0, some "wg0", true, true, true⟩⟩] rfl
  ⟨_, h, by decide, reachable_heldPorts_mem h (by decide)⟩

/-- **Each port held once, without fan-out.** In every run from `TunnelManager::new()` in which
no DNS answer contacts more than one address, every port is held at most once: no two stored
tunnels share a listen port, no stored tunnel's port is in the pool, and no port of the pool or
of a tunnel is also held by work in flight. -/
theorem run_heldPorts_nodup {p : UInt16} {es : List Event} {w : World}
    (h : (World.init p).run es = some w) (hf : ∀ e ∈ es, e.fansOut = false) : w.heldPorts.Nodup :=
  nodup_of_subperm (run_heldPorts_subperm h hf) (init_heldPorts p ▸ nodup_new_freePorts p)

/-- Two hellos from two peers, without fan-out: the ports held stay distinct. -/
theorem two_hellos_hold_distinct_ports :
    ∃ w, (World.init 65530).run
        [.peerHello ⟨60000, none, ⟨.v6 7, 7, 7⟩⟩ ⟨3, ⟨.v6 1, 4876⟩⟩
          ⟨fun _ => ⟨.ok [], 0⟩, ⟨0, some "wg0", true, true, true⟩⟩,
         .peerHello ⟨60000, none, ⟨.v6 8, 8, 8⟩⟩ ⟨4, ⟨.v6 2, 4876⟩⟩
          ⟨fun _ => ⟨.ok [], 1⟩, ⟨0, some "wg1", true, true, true⟩⟩] = some w ∧
      w.heldPorts.Nodup :=
  ⟨_, rfl, @run_heldPorts_nodup 65530
    [.peerHello ⟨60000, none, ⟨.v6 7, 7, 7⟩⟩ ⟨3, ⟨.v6 1, 4876⟩⟩
      ⟨fun _ => ⟨.ok [], 0⟩, ⟨0, some "wg0", true, true, true⟩⟩,
     .peerHello ⟨60000, none, ⟨.v6 8, 8, 8⟩⟩ ⟨4, ⟨.v6 2, 4876⟩⟩
      ⟨fun _ => ⟨.ok [], 1⟩, ⟨0, some "wg1", true, true, true⟩⟩] _ rfl (by decide)⟩

/-- A hostname that resolves to two addresses: both hellos are answered, and two tunnels listen
on the one port the inquiry drew. -/
theorem hostname_fan_out_shares_listen_port :
    ∃ w, Reachable 65533 w ∧ w.tm.allTunnels.map (·.listenPort) = [65533, 65533] :=
  have h := @Reachable.of_run 65533 _
    [.peersToContact ∅ ⟨true, ["exit"], fun _ => none, 4876, fun _ => ⟨fun _ => ⟨.ok [], 0⟩, true⟩⟩,
     .dnsAnswered "exit" 65533 ⟨.addresses [⟨.v6 1, 53⟩, ⟨.v6 2, 53⟩], true, 4876, fun _ => true⟩,
     .helloAnswered ⟨0, ⟨.v6 1, 4876⟩⟩ 65533 ⟨60000, some false, ⟨.v6 7, 7, 7⟩⟩
      ⟨fun _ => ⟨.ok [], 0⟩, ⟨0, some "wg0", true, true, true⟩⟩,
     .helloAnswered ⟨0, ⟨.v6 2, 4876⟩⟩ 65533 ⟨60000, some false, ⟨.v6 7, 7, 7⟩⟩
      ⟨fun _ => ⟨.ok [], 0⟩, ⟨0, some "wg1", true, true, true⟩⟩] rfl
  ⟨_, h, rfl⟩

/-- `KI.used_ports()` fails during a neighbor inquiry: the port `get_port` took is nowhere, and
no tunnel was removed. -/
theorem used_ports_error_loses_port :
    ∃ w, Reachable 65533 w ∧ 65533 ∉ w.heldPorts ∧ w.effects = [] :=
  have h := @Reachable.of_run 65533 _
    [.peersToContact ((∅ : HashMap IpAddr Peer).insert (.v6 1) ⟨3, ⟨.v6 1, 4876⟩⟩)
      ⟨false, [], fun _ => none, 4876, fun _ => ⟨fun _ => ⟨.error "netstat failed", 0⟩, true⟩⟩] rfl
  ⟨_, h, by decide, rfl⟩

end Rita
