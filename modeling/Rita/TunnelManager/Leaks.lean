import Rita.TunnelManager.Interfaces

/-! # Interface leaks

An interface leaks when it exists (`KI.setup_wg_if` created it, and it was not passed to
`KI.del_interface` since) and no stored tunnel is on it. `IfacesAccounted` says that no interface
has leaked. Each handler keeps it while its kernel calls succeed (`Event.KernelOk`):
`open_tunnel` stores the tunnel on the interface it created, and deletes the interface of the
tunnel it replaces, and `TriggerGC` deletes the interface of every tunnel it drops. So in a run
where every `Tunnel::open` and every deletion of `TriggerGC` succeeds, and `KI.setup_wg_if` never
returns the name of an interface that exists, the interfaces that exist are those of the stored
tunnels, one tunnel each (`run_live_ifaces_stored`).

A failed call leaks: when `Tunnel::open` fails, `open_tunnel` returns `Err` after
`KI.setup_wg_if` created an interface, which is then neither stored nor deleted
(`failed_open_leaks_interface`). -/

namespace Rita

open scoped List

/-- Every interface that exists is the interface of a stored tunnel. -/
def IfacesAccounted (tunnels : List Tunnel) (effects : List Effect) : Prop :=
  ∀ x ∈ liveIfaces effects, x ∈ tunnels.map (·.ifaceName)

/-- The kernel calls of an event all succeed: `KI.open_tunnel` and `KI.set_codel_shaping` when it
handles an `IdentityCallback`, and every `KI.del_interface` of `TriggerGC`. -/
def Event.KernelOk : Event → Prop
  | .helloAnswered _ _ _ env | .peerHello _ _ env =>
    env.openEnv.openOk = true ∧ env.openEnv.codelOk = true
  | .triggerGC _ env => ∀ n, env.delOk n = true
  | _ => True

theorem Event.KernelOk.callback {e : Event} {env : CallbackEnv} {msg : IdentityCallback}
    (hk : e.KernelOk) (he : e.identityCallback = some (env, msg)) :
    env.openEnv.openOk = true ∧ env.openEnv.codelOk = true := by
  cases e <;> cases he
  all_goals exact hk

/-- An interface exists after later calls only if it existed before them or they created it. -/
theorem mem_foldl_liveCommand {x : String} : ∀ {live : List String} {eff : List Effect},
    x ∈ eff.foldl liveCommand live → x ∈ live ∨ x ∈ createdIfaces eff
  | _, [], h => .inl h
  | _, e :: _, h => by
    rw [List.foldl_cons] at h
    rw [← List.singleton_append, createdIfaces_append, List.mem_append]
    rcases mem_foldl_liveCommand h with h | h
    · cases e with
      | setupWgIf iface =>
        rcases List.mem_cons.mp h with rfl | h
        · exact .inr (.inl (List.mem_singleton_self _))
        · exact .inl h
      | delInterface iface _ => exact .inl (List.mem_of_mem_erase h)
      | _ => exact .inl h
    · exact .inr (.inr h)

/-- After calls that create no interface, one exists iff it existed and they did not delete it. -/
theorem mem_foldl_liveCommand_of_nodup {x : String} : ∀ {live : List String} {eff : List Effect},
    live.Nodup → createdIfaces eff = [] →
      (x ∈ eff.foldl liveCommand live ↔ x ∈ live ∧ x ∉ deletedIfaces eff)
  | _, [], _, _ => by simp [deletedIfaces]
  | _, e :: eff, hl, hc => by
    cases e with
    | setupWgIf iface => cases hc
    | delInterface iface ok =>
      refine (@mem_foldl_liveCommand_of_nodup x _ eff (hl.erase iface) hc).trans ?_
      rw [hl.mem_erase_iff]
      simp only [deletedIfaces, List.filterMap_cons, List.mem_cons, not_or]
      tauto
    | _ => exact @mem_foldl_liveCommand_of_nodup _ _ eff hl hc

namespace IfacesAccounted

variable {ts ts' : List Tunnel} {es eff : List Effect}

/-- The interfaces that exist after `eff` are stored, if those of the tunnels stored before that
still exist are, and those `eff` creates are. -/
theorem append (h : IfacesAccounted ts es)
    (hold : ∀ x ∈ ts.map (·.ifaceName), x ∈ eff.foldl liveCommand (liveIfaces es) →
      x ∈ ts'.map (·.ifaceName))
    (hnew : ∀ x ∈ createdIfaces eff, x ∈ ts'.map (·.ifaceName)) :
    IfacesAccounted ts' (es ++ eff) := by
  intro x hx
  rw [liveIfaces_append] at hx
  exact (mem_foldl_liveCommand hx).elim (fun hl => hold x (h x hl) hx) (hnew x)

theorem of_subset (h : IfacesAccounted ts es) (hs : ts.map (·.ifaceName) ⊆ ts'.map (·.ifaceName)) :
    IfacesAccounted ts' es :=
  fun x hx => hs (h x hx)

end IfacesAccounted

section
variable {env : OpenEnv} {theirLocalid : LocalIdentity} {peer : Peer} {ourPort : UInt16}
  {tm tm' : TunnelManager} {r : Except String (Tunnel × Bool)} {eff es : List Effect}

theorem createTunnel_accounted {returnBool : Bool}
    (h : createTunnel env theirLocalid peer ourPort returnBool tm = some (r, tm', eff))
    (hok : env.openOk = true ∧ env.codelOk = true) (hacc : IfacesAccounted tm.allTunnels es) :
    IfacesAccounted tm'.allTunnels (es ++ eff) := by
  obtain ⟨iface, -, -, ⟨hno, -⟩ | ⟨-, -, -, ht, rfl⟩⟩ := createTunnel_spec h
  · exact absurd hok hno
  · have hperm : tm'.allTunnels.map (·.ifaceName) ~ iface :: tm.allTunnels.map (·.ifaceName) := by
      rw [TunnelManager.allTunnels, ht]
      exact (flatMap_pushTunnel _).map _
    refine hacc.append (fun x hx _ => hperm.symm.subset (List.mem_cons_of_mem _ hx)) fun x hx => ?_
    rw [List.mem_singleton.mp hx]
    exact hperm.symm.subset (List.mem_cons_self _ _)

theorem replaceTunnel_accounted {ts : List Tunnel} (hl : tm.tunnels.lookup theirLocalid.global = some ts)
    (h : replaceTunnel env theirLocalid peer ourPort ts tm = some (r, tm', eff))
    (hok : env.openOk = true ∧ env.codelOk = true) (hacc : IfacesAccounted tm.allTunnels es)
    (hnd : (liveIfaces es).Nodup) : IfacesAccounted tm'.allTunnels (es ++ eff) := by
  obtain ⟨value, eff₁, hv, hc, rfl⟩ := replaceTunnel_spec h
  rw [← List.singleton_append, ← List.append_assoc]
  refine createTunnel_accounted hc hok (hacc.append (fun x hx hlive => ?_) fun x hx => by cases hx)
  obtain ⟨t, ht, rfl⟩ := List.mem_map.mp hx
  rcases mem_replaced value hl ht with rfl | ht'
  · exact absurd rfl (hnd.mem_erase_iff.mp hlive).1
  · exact List.mem_map_of_mem _ ht'

/-- **`open_tunnel` leaks no interface when `Tunnel::open` succeeds.** -/
theorem openTunnel_accounted (h : openTunnel env theirLocalid peer ourPort tm = some (r, tm', eff))
    (hok : env.openOk = true ∧ env.codelOk = true) (hacc : IfacesAccounted tm.allTunnels es)
    (hnd : (liveIfaces es).Nodup) : IfacesAccounted tm'.allTunnels (es ++ eff) := by
  rcases openTunnel_spec h with ⟨ts, hl, -, -, -, -, -, rfl, rfl⟩ | ⟨ts, hl, -, -, ho⟩ | ⟨-, ho⟩
  · rw [List.append_nil]
    exact hacc.of_subset (insert_bumped_perm (·.ifaceName) (fun _ _ => rfl) hl).symm.subset
  · exact replaceTunnel_accounted (AList.lookup_insert _) ho hok
      (hacc.of_subset (insert_bumped_perm (·.ifaceName) (fun _ _ => rfl) hl).symm.subset) hnd
  · exact createTunnel_accounted ho hok hacc

end

theorem handleIdentityCallback_accounted {env : CallbackEnv} {msg : IdentityCallback}
    {tm tm' : TunnelManager} {r : Option (Tunnel × Bool)} {eff es : List Effect}
    (h : handleIdentityCallback env msg tm = some (r, tm', eff))
    (hok : env.openEnv.openOk = true ∧ env.openEnv.codelOk = true)
    (hacc : IfacesAccounted tm.allTunnels es) (hnd : (liveIfaces es).Nodup) :
    IfacesAccounted tm'.allTunnels (es ++ eff) := by
  rcases handleIdentityCallback_spec h with ⟨-, _, -, -, rfl, rfl⟩ | ⟨_, _, _, -, ho, -⟩
  · rw [List.append_nil]
    exact hacc
  · exact openTunnel_accounted ho hok hacc hnd

/-- When every deletion succeeds, `TriggerGC` deletes the interface of every tunnel it drops, and
creates none. -/
theorem releaseTimedOut_deletes {delOk : Nat → Bool} (hok : ∀ n, delOk n = true) :
    ∀ (n : Nat) (ts : List Tunnel) (freePorts : List UInt16),
      createdIfaces (releaseTimedOut delOk n ts freePorts).2.2 = [] ∧
        ∀ t ∈ ts, t.ifaceName ∈ deletedIfaces (releaseTimedOut delOk n ts freePorts).2.2
  | _, [], _ => ⟨rfl, fun _ h => by cases h⟩
  | n, t :: ts, freePorts => by
    have ih := releaseTimedOut_deletes hok (n + 1) ts (freePorts ++ [t.listenPort])
    unfold releaseTimedOut
    rw [if_pos (hok n)]
    rcases hr : releaseTimedOut delOk (n + 1) ts (freePorts ++ [t.listenPort]) with ⟨_, _, eff⟩
    rw [hr] at ih
    show createdIfaces eff = [] ∧ ∀ u ∈ t :: ts, u.ifaceName ∈ t.ifaceName :: deletedIfaces eff
    refine ⟨ih.1, fun u hu => ?_⟩
    rcases List.mem_cons.mp hu with rfl | hu
    · exact List.mem_cons_self _ _
    · exact List.mem_cons_of_mem _ (ih.2 u hu)

/-- **`TriggerGC` leaks no interface when every deletion succeeds.** -/
theorem handleTriggerGC_accounted {threshold : Nat} {env : GcEnv} {tm : TunnelManager}
    {es : List Effect} (hok : ∀ n, env.delOk n = true) (hacc : IfacesAccounted tm.allTunnels es)
    (hnd : (liveIfaces es).Nodup) :
    IfacesAccounted (handleTriggerGC threshold env tm).2.1.allTunnels
      (es ++ (handleTriggerGC threshold env tm).2.2) := by
  obtain ⟨hc, hd⟩ := releaseTimedOut_deletes hok 0
    ((splitTunnels threshold env.now tm.tunnels).2.entries.flatMap (·.2)) tm.freePorts
  have hc' : createdIfaces (handleTriggerGC threshold env tm).2.2 = [] := hc
  refine hacc.append (fun x hx hlive => ?_) fun x hx => by rw [hc'] at hx; cases hx
  obtain ⟨t, ht, rfl⟩ := List.mem_map.mp hx
  rcases List.mem_append.mp ((splitTunnels_perm threshold env.now tm.tunnels).symm.subset ht) with hg | ht'
  · exact List.mem_map_of_mem _ hg
  · exact absurd (hd t ht') ((mem_foldl_liveCommand_of_nodup hnd hc').mp hlive).2

theorem createdIfaces_tunnelStateChange (env : BwEnv) (c : TunnelChange)
    (m : HashMap Identity (List Tunnel)) : createdIfaces (tunnelStateChange env c m).2 = [] := by
  unfold tunnelStateChange
  cases m.lookup c.identity with
  | none => rfl
  | some ts =>
    have hts : createdIfaces ((ts.map (changeTunnelState c.action)).flatMap (·.2.1)) = [] :=
      List.filterMap_eq_nil_iff.mpr fun e he => by
        obtain ⟨p, hp, he⟩ := List.mem_flatMap.mp he
        obtain ⟨t, -, rfl⟩ := List.mem_map.mp hp
        exact List.filterMap_eq_nil_iff.mp (changeTunnelState_effects c.action t).1 e he
    dsimp only
    split
    · rw [createdIfaces_append, hts, (tunnelBwLimitUpdate_quiet _ _).1]
      rfl
    · exact hts

theorem handleTunnelStateChange_accounted (env : Nat → BwEnv) :
    ∀ (n : Nat) (changes : List TunnelChange) (tm : TunnelManager) {es : List Effect},
      IfacesAccounted tm.allTunnels es →
      IfacesAccounted (handleTunnelStateChange env n changes tm).1.allTunnels
        (es ++ (handleTunnelStateChange env n changes tm).2)
  | _, [], _, _, h => by simpa [handleTunnelStateChange] using h
  | n, c :: rest, tm, es, h => by
    have h' : IfacesAccounted ((tunnelStateChange (env n) c tm.tunnels).1.entries.flatMap (·.2))
        (es ++ (tunnelStateChange (env n) c tm.tunnels).2) :=
      h.append (fun x hx _ => (tunnelStateChange_map _ changeTunnelState_ifaceName _ _ _).symm.subset hx)
        fun x hx => by rw [createdIfaces_tunnelStateChange] at hx; cases hx
    unfold handleTunnelStateChange
    rcases hres : tunnelStateChange (env n) c tm.tunnels with ⟨tunnels, eff⟩
    rw [hres] at h'
    dsimp only
    rw [← List.append_assoc]
    exact handleTunnelStateChange_accounted env (n + 1) rest _ h'

theorem step_accounted {w w' : World} {e : Event} (h : IfacesAccounted w.tm.allTunnels w.effects)
    (hs : w.step e = some w') (hk : e.KernelOk) (hnd : (liveIfaces w.effects).Nodup) :
    IfacesAccounted w'.tm.allTunnels w'.effects := by
  rcases World.step_tunnels hs with
    ⟨_, _, _, _, he, hc, heff⟩ | ⟨_, _, rfl, htm, heff⟩ | ⟨_, _, rfl, htm, heff⟩ | ⟨-, -, htm, heff⟩ <;>
    rw [heff]
  · exact handleIdentityCallback_accounted hc (hk.callback he) h hnd
  · rw [htm]
    exact handleTriggerGC_accounted hk h hnd
  · rw [htm]
    exact handleTunnelStateChange_accounted _ 0 _ _ h
  · rw [TunnelManager.allTunnels, htm]
    exact h

theorem World.run_effects : ∀ {w w' : World} {es : List Event}, w.run es = some w' →
    w.effects <+: w'.effects
  | _, _, [], h => by
    cases h
    exact List.prefix_refl _
  | _, _, _ :: _, h => by
    simp only [World.run, Option.bind_eq_some] at h
    obtain ⟨_, h₁, h₂⟩ := h
    exact (World.step_effects h₁).trans (World.run_effects h₂)

theorem run_accounted : ∀ {w w' : World} {es : List Event}, w.run es = some w' →
    (∀ e ∈ es, e.KernelOk) → FreshIfaces w'.effects → IfacesAccounted w.tm.allTunnels w.effects →
      IfacesAccounted w'.tm.allTunnels w'.effects
  | _, _, [], h, _, _, hacc => by
    cases h
    exact hacc
  | w, w', e :: es, h, hk, hf, hacc => by
    simp only [World.run, Option.bind_eq_some] at h
    obtain ⟨w₁, h₁, h₂⟩ := h
    have hnd := (hf.of_prefix ((World.step_effects h₁).trans (World.run_effects h₂))).nodup
    exact run_accounted h₂ (fun e' he' => hk e' (List.mem_cons_of_mem _ he')) hf
      (step_accounted hacc h₁ (hk e (List.mem_cons_self _ _)) hnd)

/-- **The interfaces that exist are those of the stored tunnels, while the kernel calls
succeed.** In every run from `TunnelManager::new()` in which `KI.setup_wg_if` never returns the
name of an interface that exists, and every `Tunnel::open` and every `KI.del_interface` of
`TriggerGC` succeeds, the interfaces that exist are the interfaces of the stored tunnels, each of
exactly one tunnel. -/
theorem run_live_ifaces_stored {p : UInt16} {es : List Event} {w : World}
    (h : (World.init p).run es = some w) (hk : ∀ e ∈ es, e.KernelOk) (hf : FreshIfaces w.effects) :
    w.tm.allTunnels.map (·.ifaceName) ~ liveIfaces w.effects := by
  have hwf := reachable_ifacesWF (Reachable.of_run h) hf
  refine (List.perm_ext_iff_of_nodup hwf.nodup hf.nodup).mpr fun x =>
    ⟨fun hx => ?_, run_accounted h hk hf (fun _ h => by cases h) x⟩
  obtain ⟨t, ht, rfl⟩ := List.mem_map.mp hx
  exact (hwf.live t ht).live

/-- A peer says hello twice, the second time with `have_tunnel = Some(false)`: the first tunnel's
interface `wg0` is deleted, and `KI.setup_wg_if` returns `wg0` again for the tunnel that replaces
it. `wg0` is then the one interface that exists, that of the one stored tunnel. -/
theorem reused_iface_stored :
    ∃ w, (World.init 65533).run
        [.peerHello ⟨60000, none, ⟨.v6 7, 7, 7⟩⟩ ⟨3, ⟨.v6 1, 4876⟩⟩
          ⟨fun _ => ⟨.ok [], 0⟩, ⟨0, some "wg0", true, true, true⟩⟩,
         .peerHello ⟨60000, some false, ⟨.v6 7, 7, 7⟩⟩ ⟨3, ⟨.v6 1, 4876⟩⟩
          ⟨fun _ => ⟨.ok [], 0⟩, ⟨0, some "wg0", true, true, true⟩⟩] = some w ∧
      FreshIfaces w.effects ∧ createdIfaces w.effects = ["wg0", "wg0"] ∧
      w.tm.allTunnels.map (·.ifaceName) ~ liveIfaces w.effects :=
  ⟨_, rfl, rfl, rfl, @run_live_ifaces_stored 65533
    [.peerHello ⟨60000, none, ⟨.v6 7, 7, 7⟩⟩ ⟨3, ⟨.v6 1, 4876⟩⟩
      ⟨fun _ => ⟨.ok [], 0⟩, ⟨0, some "wg0", true, true, true⟩⟩,
     .peerHello ⟨60000, some false, ⟨.v6 7, 7, 7⟩⟩ ⟨3, ⟨.v6 1, 4876⟩⟩
      ⟨fun _ => ⟨.ok [], 0⟩, ⟨0, some "wg0", true, true, true⟩⟩] _ rfl
    (by
      simp only [List.mem_cons, List.not_mem_nil, or_false]
      rintro e (rfl | rfl) <;> exact ⟨rfl, rfl⟩) rfl⟩

/-- `KI.open_tunnel` fails after `KI.setup_wg_if` created `wg0`: no tunnel is stored and `wg0`
is never passed to `KI.del_interface`. -/
theorem failed_open_leaks_interface :
    ∃ w, Reachable 65533 w ∧ createdIfaces w.effects = ["wg0"] ∧ deletedIfaces w.effects = [] ∧
      w.tm.allTunnels = [] :=
  have h := @Reachable.of_run 65533 _
    [.peerHello ⟨60000, none, ⟨.v6 7, 7, 7⟩⟩ ⟨3, ⟨.v6 1, 4876⟩⟩
      ⟨fun _ => ⟨.ok [], 0⟩, ⟨0, some "wg0", true, false, true⟩⟩] rfl
  ⟨_, h, rfl, rfl, rfl⟩

end Rita
