import Rita.TunnelManager.Ports

/-! # Interfaces and babel

What the log of calls says about the kernel's interfaces and about what babel monitors.
`createdIfaces` are the interfaces `KI.setup_wg_if` created, `deletedIfaces` those passed to
`KI.del_interface`, `liveIfaces` those that exist (created, and not passed to `KI.del_interface`
since), and `monitoredIfaces` what babel monitors when each `monitor` and `unmonitor` takes
effect in the order issued.

Read interface by interface, the log is simple: babel monitors `x` iff its last command on `x`
was `monitor` (`mem_monitoredIfaces`). `IfacesWF` states what the log says of the stored tunnels,
and every step keeps it as long as `KI.setup_wg_if` never returns the name of an interface that
exists (`FreshIfaces`, `step_ifacesWF`); the kernel may reuse the name of a deleted interface. So
in every such run, the stored tunnels have distinct interfaces, each existing, and monitored iff
the tunnel is `Registered` (`reachable_stored_ifaces`).

Babel may still monitor an interface no tunnel is stored on: `open_tunnel` deletes the interface
of a tunnel it replaces without unmonitoring it, where `TriggerGC` unmonitors before deleting
(`replaced_tunnel_stays_monitored`). -/

namespace Rita

open scoped List

/-- The interfaces `KI.setup_wg_if` created, in order. -/
def createdIfaces (effects : List Effect) : List String :=
  effects.filterMap fun
    | .setupWgIf iface => some iface
    | _ => none

/-- The interfaces passed to `KI.del_interface`, whatever its outcome. -/
def deletedIfaces (effects : List Effect) : List String :=
  effects.filterMap fun
    | .delInterface iface _ => some iface
    | _ => none

/-- One babel command taking effect on the list of monitored interfaces. -/
def monitorCommand (monitored : List String) : Effect → List String
  | .monitor iface => iface :: monitored.erase iface
  | .unmonitor iface => monitored.erase iface
  | _ => monitored

/-- What babel monitors after the log, each command taking effect in the order issued. -/
def monitoredIfaces (effects : List Effect) : List String :=
  effects.foldl monitorCommand []

/-! ## The log, interface by interface -/

/-- The interface a call is about. -/
def Effect.iface : Effect → String
  | .setupWgIf iface | .setCodelShaping iface _
  | .setClasslessLimit iface _ _ | .delInterface iface _ | .monitor iface | .unmonitor iface => iface

/-- The babel command a call gives interface `x`: `true` to monitor it, `false` to unmonitor it. -/
def Effect.monitors (x : String) : Effect → Option Bool
  | .monitor iface => if iface = x then some true else none
  | .unmonitor iface => if iface = x then some false else none
  | _ => none

/-- Babel's last command on `x` in the log. -/
def monitorStatus (x : String) (effects : List Effect) : Option Bool :=
  (effects.filterMap (Effect.monitors x)).getLast?

@[simp] theorem createdIfaces_append (es es' : List Effect) :
    createdIfaces (es ++ es') = createdIfaces es ++ createdIfaces es' :=
  List.filterMap_append ..

/-- The later calls decide, unless they say nothing of `x`. -/
@[simp] theorem monitorStatus_append (x : String) (es es' : List Effect) :
    monitorStatus x (es ++ es') = (monitorStatus x es').or (monitorStatus x es) := by
  simp only [monitorStatus, List.filterMap_append, List.getLast?_append]

theorem Effect.monitors_of_iface_ne {x : String} {e : Effect} (h : e.iface ≠ x) : e.monitors x = none := by
  cases e <;> simp_all [Effect.monitors, Effect.iface]

/-- Calls on other interfaces say nothing of `x`. -/
theorem monitorStatus_of_iface_ne {x : String} {eff : List Effect} (h : ∀ e ∈ eff, e.iface ≠ x) :
    monitorStatus x eff = none := by
  rw [monitorStatus, List.filterMap_eq_nil_iff.mpr fun e he => Effect.monitors_of_iface_ne (h e he)]
  rfl

theorem nodup_monitorCommand {m : List String} (hm : m.Nodup) (e : Effect) : (monitorCommand m e).Nodup := by
  cases e with
  | monitor iface => exact (hm.erase iface).cons fun h => ((hm.mem_erase_iff).mp h).1 rfl
  | unmonitor iface => exact hm.erase iface
  | _ => exact hm

theorem mem_monitorCommand {m : List String} (hm : m.Nodup) (x : String) (e : Effect) :
    x ∈ monitorCommand m e ↔ (e.monitors x).getD (decide (x ∈ m)) = true := by
  cases e with
  | monitor iface =>
    by_cases h : iface = x
    · subst h
      simp [monitorCommand, Effect.monitors]
    · simp [monitorCommand, Effect.monitors, h, List.mem_erase_of_ne (Ne.symm h), Ne.symm h]
  | unmonitor iface =>
    by_cases h : iface = x
    · subst h
      simp [monitorCommand, Effect.monitors, hm.mem_erase_iff]
    · simp [monitorCommand, Effect.monitors, h, List.mem_erase_of_ne (Ne.symm h)]
  | _ => simp [monitorCommand, Effect.monitors]

/-- **Babel monitors what it was last told to.** `x` is monitored iff the last `monitor` or
`unmonitor` on it was a `monitor`. -/
theorem mem_monitoredIfaces (x : String) (effects : List Effect) :
    x ∈ monitoredIfaces effects ↔ monitorStatus x effects = some true := by
  suffices (monitoredIfaces effects).Nodup ∧
      (x ∈ monitoredIfaces effects ↔ monitorStatus x effects = some true) from this.2
  induction effects using List.reverseRecOn with
  | nil => simp [monitoredIfaces, monitorStatus]
  | append_singleton es e ih =>
    have hfold : monitoredIfaces (es ++ [e]) = monitorCommand (monitoredIfaces es) e := by
      simp [monitoredIfaces]
    rw [hfold, mem_monitorCommand ih.1, monitorStatus_append]
    refine ⟨nodup_monitorCommand ih.1 e, ?_⟩
    have hl : monitorStatus x [e] = e.monitors x := by
      simp only [monitorStatus, List.filterMap_cons, List.filterMap_nil]
      cases e.monitors x <;> rfl
    rw [hl]
    cases e.monitors x <;> simp [ih.2]

/-! ## The interfaces that exist -/

/-- One call on the interfaces that exist: `KI.setup_wg_if` adds the one it returns, and
`KI.del_interface` removes its own, whatever its outcome. -/
def liveCommand (live : List String) : Effect → List String
  | .setupWgIf iface => iface :: live
  | .delInterface iface _ => live.erase iface
  | _ => live

/-- The interfaces that exist after the log: created by `KI.setup_wg_if`, and not passed to
`KI.del_interface` since. -/
def liveIfaces (effects : List Effect) : List String :=
  effects.foldl liveCommand []

/-- `KI.setup_wg_if` did not return the name of an interface of `live`. -/
def Effect.freshIn (live : List String) : Effect → Bool
  | .setupWgIf iface => !live.contains iface
  | _ => true

/-- Whether each name `KI.setup_wg_if` returned in the log was that of no interface existing
then, `live` existing before the log. -/
def freshFrom : List String → List Effect → Bool
  | _, [] => true
  | live, e :: es => e.freshIn live && freshFrom (liveCommand live e) es

/-- `KI.setup_wg_if` never returned the name of an interface that existed. -/
def FreshIfaces (effects : List Effect) : Prop :=
  freshFrom [] effects = true

@[simp] theorem liveIfaces_append (es es' : List Effect) :
    liveIfaces (es ++ es') = es'.foldl liveCommand (liveIfaces es) :=
  List.foldl_append ..

theorem freshFrom_append (live : List String) (es es' : List Effect) :
    freshFrom live (es ++ es') = (freshFrom live es && freshFrom (es.foldl liveCommand live) es') := by
  induction es generalizing live with
  | nil => simp [freshFrom]
  | cons e es ih => simp [freshFrom, ih, Bool.and_assoc]

theorem FreshIfaces.of_append {es es' : List Effect} (h : FreshIfaces (es ++ es')) :
    FreshIfaces es := by
  rw [FreshIfaces, freshFrom_append, Bool.and_eq_true] at h
  exact h.1

theorem FreshIfaces.of_prefix {es es' : List Effect} (h : FreshIfaces es') (hp : es <+: es') :
    FreshIfaces es := by
  obtain ⟨_, rfl⟩ := hp
  exact h.of_append

/-- A name `KI.setup_wg_if` returns is that of no interface existing then. -/
theorem FreshIfaces.not_mem {es eff : List Effect} {x : String}
    (h : FreshIfaces (es ++ .setupWgIf x :: eff)) : x ∉ liveIfaces es := by
  rw [FreshIfaces, freshFrom_append, Bool.and_eq_true, freshFrom, Bool.and_eq_true] at h
  simpa [Effect.freshIn, liveIfaces] using h.2.1

theorem nodup_foldl_liveCommand : ∀ {live : List String} {es : List Effect}, live.Nodup →
    freshFrom live es = true → (es.foldl liveCommand live).Nodup
  | _, [], h, _ => h
  | _, e :: _, h, hf => by
    rw [freshFrom, Bool.and_eq_true] at hf
    rw [List.foldl_cons]
    refine nodup_foldl_liveCommand ?_ hf.2
    cases e with
    | setupWgIf iface => exact h.cons (by simpa [Effect.freshIn] using hf.1)
    | delInterface iface _ => exact h.erase iface
    | _ => exact h

/-- The interfaces that exist are distinct. -/
theorem FreshIfaces.nodup {es : List Effect} (h : FreshIfaces es) : (liveIfaces es).Nodup :=
  nodup_foldl_liveCommand List.nodup_nil h

/-- Calls on other interfaces neither create nor delete `x`. -/
theorem mem_foldl_liveCommand_of_iface_ne {x : String} : ∀ {live : List String} {eff : List Effect},
    (∀ e ∈ eff, e.iface ≠ x) → (x ∈ eff.foldl liveCommand live ↔ x ∈ live)
  | _, [], _ => Iff.rfl
  | _, e :: _, h => by
    rw [List.foldl_cons, mem_foldl_liveCommand_of_iface_ne fun e' he' => h e' (List.mem_cons_of_mem _ he')]
    have he : e.iface ≠ x := h e (List.mem_cons_self _ _)
    cases e with
    | setupWgIf iface =>
      exact ⟨fun h' => (List.mem_cons.mp h').resolve_left (Ne.symm he), List.mem_cons_of_mem _⟩
    | delInterface iface _ => exact List.mem_erase_of_ne (Ne.symm he)
    | _ => exact Iff.rfl

/-- Calls that neither create nor delete an interface leave the interfaces that exist. -/
theorem foldl_liveCommand_of_quiet : ∀ {live : List String} {eff : List Effect},
    createdIfaces eff = [] → deletedIfaces eff = [] → eff.foldl liveCommand live = live
  | _, [], _, _ => rfl
  | _, e :: eff, hc, hd => by
    cases e <;> first | cases hc | cases hd | exact @foldl_liveCommand_of_quiet _ eff hc hd

/-! ## The invariant -/

/-- What the log says of interface `x` of a stored tunnel in registration state `s`: the
interface exists, and babel's last command on it monitored it iff `s` is `Registered`. -/
structure IfaceLive (effects : List Effect) (x : String) (s : RegistrationState) : Prop where
  live : x ∈ liveIfaces effects
  status : monitorStatus x effects = some (decide (s = .registered))

/-- What the log says of stored tunnels: their interfaces are distinct and live. -/
structure IfacesWF (tunnels : List Tunnel) (effects : List Effect) : Prop where
  nodup : (tunnels.map (·.ifaceName)).Nodup
  live : ∀ t ∈ tunnels, IfaceLive effects t.ifaceName t.state.registrationState

/-- What `IfacesWF` reads of a tunnel. -/
def Tunnel.ifaceView (t : Tunnel) : String × RegistrationState :=
  (t.ifaceName, t.state.registrationState)

/-- Later calls that leave `x` existing and command babel nothing on it keep it live. -/
theorem IfaceLive.append {es eff : List Effect} {x : String} {s : RegistrationState}
    (h : IfaceLive es x s) (hl : x ∈ eff.foldl liveCommand (liveIfaces es))
    (hm : monitorStatus x eff = none) : IfaceLive (es ++ eff) x s where
  live := by rw [liveIfaces_append]; exact hl
  status := by rw [monitorStatus_append, hm, h.status]; rfl

namespace IfacesWF

variable {ts ts' : List Tunnel} {es eff : List Effect}

theorem nil : IfacesWF [] [] := ⟨List.nodup_nil, fun _ h => by cases h⟩

/-- Fewer stored tunnels, or the same ones with other ports, contacts or payment states. -/
theorem of_subperm (h : IfacesWF ts es) (hs : ts'.map Tunnel.ifaceView <+~ ts.map Tunnel.ifaceView) :
    IfacesWF ts' es where
  nodup := by
    have hsub := subperm_map Prod.fst hs
    rw [List.map_map, List.map_map] at hsub
    exact nodup_of_subperm hsub h.nodup
  live t ht := by
    obtain ⟨u, hu, he⟩ := List.mem_map.mp (hs.subset (List.mem_map_of_mem _ ht))
    obtain ⟨hx, hs⟩ := Prod.mk.inj he
    exact hx ▸ hs ▸ h.live u hu

/-- Calls on no stored tunnel's interface. -/
theorem append (h : IfacesWF ts es) (hq : ∀ t ∈ ts, ∀ e ∈ eff, e.iface ≠ t.ifaceName) :
    IfacesWF ts (es ++ eff) where
  nodup := h.nodup
  live t ht := (h.live t ht).append ((mem_foldl_liveCommand_of_iface_ne (hq t ht)).mpr
    (h.live t ht).live) (monitorStatus_of_iface_ne (hq t ht))

/-- Calls that neither create nor delete an interface, nor command babel. -/
theorem append_quiet (h : IfacesWF ts es) (hc : createdIfaces eff = [])
    (hd : deletedIfaces eff = []) (hm : ∀ x, monitorStatus x eff = none) :
    IfacesWF ts (es ++ eff) where
  nodup := h.nodup
  live t ht := (h.live t ht).append (by rw [foldl_liveCommand_of_quiet hc hd]; exact (h.live t ht).live)
    (hm _)

/-- A registered tunnel on an interface that did not exist, which `KI.setup_wg_if` creates, and
which is then shaped and monitored. -/
theorem cons_fresh {t : Tunnel} (h : IfacesWF ts es) (hx : t.ifaceName ∉ liveIfaces es)
    (hreg : t.state.registrationState = .registered) :
    IfacesWF (t :: ts)
      (es ++ [.setupWgIf t.ifaceName, .setCodelShaping t.ifaceName true, .monitor t.ifaceName]) := by
  have hne : t.ifaceName ∉ ts.map (·.ifaceName) := fun hm => by
    obtain ⟨u, hu, he⟩ := List.mem_map.mp hm
    exact hx (he ▸ (h.live u hu).live)
  have hold : IfacesWF ts (es ++ [.setupWgIf t.ifaceName, .setCodelShaping t.ifaceName true,
      .monitor t.ifaceName]) := h.append fun u hu e he heq => hne <| by
    simp only [List.mem_cons, List.not_mem_nil, or_false] at he
    rcases he with rfl | rfl | rfl <;> exact List.mem_map.mpr ⟨u, hu, heq.symm⟩
  refine ⟨h.nodup.cons hne, ?_⟩
  rintro u (_ | ⟨_, hu⟩)
  · exact ⟨by simp [liveCommand], by simp [monitorStatus, Effect.monitors, hreg]⟩
  · exact hold.live u hu

end IfacesWF

/-! ## Each handler keeps the invariant -/

section
variable {env : OpenEnv} {theirLocalid : LocalIdentity} {peer : Peer} {ourPort : UInt16}
  {tm tm' : TunnelManager} {r : Except String (Tunnel × Bool)} {eff es : List Effect}

theorem createTunnel_ifacesWF {returnBool : Bool}
    (h : createTunnel env theirLocalid peer ourPort returnBool tm = some (r, tm', eff))
    (hwf : IfacesWF tm.allTunnels es) (hf : FreshIfaces (es ++ eff)) :
    IfacesWF tm'.allTunnels (es ++ eff) := by
  obtain ⟨iface, -, -, ⟨-, ht, rfl⟩ | ⟨-, -, -, ht, rfl⟩⟩ := createTunnel_spec h
  · -- `Tunnel::open` failed: its calls are on the new interface, which no stored tunnel is on
    have hx := hf.not_mem
    rw [TunnelManager.allTunnels, ht]
    refine hwf.append fun u hu e he heq => hx ?_
    have hie : e.iface = iface := by
      rcases List.mem_cons.mp he with rfl | he
      · rfl
      · split at he
        · rw [List.mem_singleton.mp he]
          rfl
        · cases he
    exact hie ▸ heq ▸ (hwf.live u hu).live
  · rw [TunnelManager.allTunnels, ht]
    exact (hwf.cons_fresh hf.not_mem rfl).of_subperm ((flatMap_pushTunnel _).map _).subperm

theorem replaceTunnel_ifacesWF {ts : List Tunnel} (hl : tm.tunnels.lookup theirLocalid.global = some ts)
    (h : replaceTunnel env theirLocalid peer ourPort ts tm = some (r, tm', eff))
    (hwf : IfacesWF tm.allTunnels es) (hf : FreshIfaces (es ++ eff)) :
    IfacesWF tm'.allTunnels (es ++ eff) := by
  obtain ⟨value, eff₁, hv, hc, rfl⟩ := replaceTunnel_spec h
  have hmid := hwf.of_subperm (subperm_map _ (replaced_subperm hl (getTunnelByIfidx_mem hv).1))
  obtain ⟨hvm, -⟩ := List.nodup_cons.mp hmid.nodup
  rw [← List.singleton_append, ← List.append_assoc] at hf ⊢
  refine createTunnel_ifacesWF hc ((hmid.of_subperm (List.sublist_cons_self _ _).subperm).append
    fun u hu e he heq => hvm ?_) hf
  rw [List.mem_singleton.mp he] at heq
  exact List.mem_map.mpr ⟨u, hu, heq.symm⟩

/-- **`open_tunnel` keeps the invariant**, when `KI.setup_wg_if` returns the name of no interface
that exists. -/
theorem openTunnel_ifacesWF (h : openTunnel env theirLocalid peer ourPort tm = some (r, tm', eff))
    (hwf : IfacesWF tm.allTunnels es) (hf : FreshIfaces (es ++ eff)) :
    IfacesWF tm'.allTunnels (es ++ eff) := by
  rcases openTunnel_spec h with ⟨ts, hl, -, -, -, -, -, rfl, rfl⟩ | ⟨ts, hl, -, -, ho⟩ | ⟨-, ho⟩
  · rw [List.append_nil]
    exact hwf.of_subperm (insert_bumped_perm Tunnel.ifaceView (fun _ _ => rfl) hl).subperm
  · exact replaceTunnel_ifacesWF (AList.lookup_insert _) ho
      (hwf.of_subperm (insert_bumped_perm Tunnel.ifaceView (fun _ _ => rfl) hl).subperm) hf
  · exact createTunnel_ifacesWF ho hwf hf

end

theorem handleIdentityCallback_ifacesWF {env : CallbackEnv} {msg : IdentityCallback}
    {tm tm' : TunnelManager} {r : Option (Tunnel × Bool)} {eff es : List Effect}
    (h : handleIdentityCallback env msg tm = some (r, tm', eff)) (hwf : IfacesWF tm.allTunnels es)
    (hf : FreshIfaces (es ++ eff)) : IfacesWF tm'.allTunnels (es ++ eff) := by
  rcases handleIdentityCallback_spec h with ⟨-, _, -, -, rfl, rfl⟩ | ⟨_, _, _, -, ho, -⟩
  · rw [List.append_nil]
    exact hwf
  · exact openTunnel_ifacesWF ho hwf hf

/-- `TriggerGC` calls babel and the kernel only on the interfaces of the tunnels it drops. -/
theorem iface_of_mem_releaseTimedOut (delOk : Nat → Bool) : ∀ {n : Nat} {ts : List Tunnel}
    {freePorts : List UInt16} {e : Effect}, e ∈ (releaseTimedOut delOk n ts freePorts).2.2 →
      e.iface ∈ ts.map (·.ifaceName)
  | _, [], _, _, h => by simp [releaseTimedOut] at h
  | n, t :: ts, freePorts, e, h => by
    unfold releaseTimedOut at h
    split at h <;> simp only [List.mem_cons, List.not_mem_nil, or_false] at h
    · rcases h with rfl | rfl | h
      · exact List.mem_cons_self _ _
      · exact List.mem_cons_self _ _
      · exact List.mem_cons_of_mem _ (iface_of_mem_releaseTimedOut delOk h)
    · rcases h with rfl | rfl <;> exact List.mem_cons_self _ _

/-- **`TriggerGC` keeps the invariant**: it deletes and unmonitors only interfaces of tunnels it
no longer stores. -/
theorem handleTriggerGC_ifacesWF {threshold : Nat} {env : GcEnv} {tm : TunnelManager} {es : List Effect}
    (hwf : IfacesWF tm.allTunnels es) :
    IfacesWF (handleTriggerGC threshold env tm).2.1.allTunnels (es ++ (handleTriggerGC threshold env tm).2.2) := by
  have hsplit := hwf.of_subperm (subperm_map _ (splitTunnels_perm threshold env.now tm.tunnels).subperm)
  have hn := hsplit.nodup
  rw [List.map_append] at hn
  have hdisj := List.disjoint_of_nodup_append hn
  have hrel := @iface_of_mem_releaseTimedOut env.delOk 0
    ((splitTunnels threshold env.now tm.tunnels).2.entries.flatMap (·.2)) tm.freePorts
  show IfacesWF ((splitTunnels threshold env.now tm.tunnels).1.entries.flatMap (·.2))
    (es ++ (releaseTimedOut env.delOk 0 ((splitTunnels threshold env.now tm.tunnels).2.entries.flatMap (·.2))
      tm.freePorts).2.2)
  exact (hsplit.of_subperm (by rw [List.map_append]; exact (List.sublist_append_left _ _).subperm)).append
    fun t ht e he hte => hdisj (hte ▸ List.mem_map_of_mem _ ht) (hrel he)

/-- `KI.set_codel_shaping` and `KI.set_classless_limit`. -/
def Effect.isShaping : Effect → Bool
  | .setCodelShaping _ _ | .setClasslessLimit _ _ _ => true
  | _ => false

/-- Shaping calls neither create nor delete an interface, nor command babel. -/
theorem quiet_of_isShaping {es : List Effect} (h : ∀ e ∈ es, e.isShaping = true) :
    createdIfaces es = [] ∧ deletedIfaces es = [] ∧ ∀ x, monitorStatus x es = none := by
  have hnone : ∀ {β : Type} (f : Effect → Option β), (∀ e, e.isShaping = true → f e = none) →
      es.filterMap f = [] := fun f hf => List.filterMap_eq_nil_iff.mpr fun e he => hf e (h e he)
  refine ⟨hnone _ fun e he => ?_, hnone _ fun e he => ?_, fun x => ?_⟩
  · cases e <;> first | rfl | cases he
  · cases e <;> first | rfl | cases he
  · rw [monitorStatus, hnone _ fun e he => by cases e <;> first | rfl | cases he]
    rfl

/-- Every call of the shaping loop of `tunnel_bw_limit_update` is a shaping call: the first
failure ends it. -/
theorem shapeTunnels_isShaping (env : BwEnv) (bw : UInt32) :
    ∀ (n : Nat) (ts : List Tunnel), ∀ e ∈ (shapeTunnels env bw n ts).2, e.isShaping = true
  | _, [] => fun _ h => nomatch h
  | n, t :: ts => by
    have ih := shapeTunnels_isShaping env bw (n + 1) ts
    unfold shapeTunnels
    split
    · exact fun _ h => nomatch h
    · split
      · split
        · simp only [List.mem_cons, forall_eq_or_imp]; exact ⟨rfl, ih⟩
        · simp [Effect.isShaping]
      · split
        · split
          · simp only [List.mem_cons, forall_eq_or_imp]; exact ⟨rfl, ih⟩
          · simp [Effect.isShaping]
        · exact ih

/-- The shaping loop of `tunnel_bw_limit_update` neither creates nor deletes an interface, nor
commands babel. -/
theorem shapeTunnels_quiet (env : BwEnv) (bwPerIface : UInt32) :
    ∀ (n : Nat) (ts : List Tunnel), createdIfaces (shapeTunnels env bwPerIface n ts).2 = [] ∧
      deletedIfaces (shapeTunnels env bwPerIface n ts).2 = [] ∧
      ∀ x, monitorStatus x (shapeTunnels env bwPerIface n ts).2 = none :=
  fun n ts => quiet_of_isShaping (shapeTunnels_isShaping env bwPerIface n ts)

theorem tunnelBwLimitUpdate_quiet (env : BwEnv) (tunnels : HashMap Identity (List Tunnel)) :
    createdIfaces (tunnelBwLimitUpdate env tunnels).2 = [] ∧
      deletedIfaces (tunnelBwLimitUpdate env tunnels).2 = [] ∧
      ∀ x, monitorStatus x (tunnelBwLimitUpdate env tunnels).2 = none :=
  shapeTunnels_quiet env _ 0 _

/-- A state change on a tunnel commands babel only on its interface, in agreement with its new
registration state. -/
theorem IfaceLive.changeTunnelState {es : List Effect} {t : Tunnel} (a : TunnelAction)
    (h : IfaceLive es t.ifaceName t.state.registrationState) :
    IfaceLive (es ++ (changeTunnelState a t).2.1) t.ifaceName
      (changeTunnelState a t).1.state.registrationState := by
  -- Either the registration state stays and no command is issued, or the one command sets it.
  cases a <;> simp only [Rita.changeTunnelState] <;> split <;>
    first
    | simpa using h
    | exact ⟨by simpa [liveCommand] using h.live, by simp [monitorStatus, Effect.monitors]⟩

theorem changeTunnelState_effects (a : TunnelAction) (t : Tunnel) :
    createdIfaces (changeTunnelState a t).2.1 = [] ∧ deletedIfaces (changeTunnelState a t).2.1 = [] ∧
      ∀ e ∈ (changeTunnelState a t).2.1, e.iface = t.ifaceName := by
  cases a <;> simp only [changeTunnelState] <;> split <;> simp [Effect.iface, createdIfaces, deletedIfaces]

/-- The action on one stored tunnel. -/
theorem IfacesWF.change {t : Tunnel} {rest : List Tunnel} {es : List Effect} (a : TunnelAction)
    (h : IfacesWF (t :: rest) es) :
    IfacesWF ((changeTunnelState a t).1 :: rest) (es ++ (changeTunnelState a t).2.1) := by
  obtain ⟨-, -, he⟩ := changeTunnelState_effects a t
  have hi := changeTunnelState_ifaceName a t
  have hnd : t.ifaceName ∉ rest.map (·.ifaceName) := (List.nodup_cons.mp h.nodup).1
  have hold := (h.of_subperm (List.sublist_cons_self _ _).subperm).append fun u hu e hem hue =>
    hnd (by rw [← he e hem, hue]; exact List.mem_map_of_mem _ hu)
  refine ⟨by rw [List.map_cons, hi]; exact h.nodup, ?_⟩
  rintro u (_ | ⟨_, hu⟩)
  · exact hi ▸ (h.live t (List.mem_cons_self _ _)).changeTunnelState a
  · exact hold.live u hu

/-- The action on every tunnel of `ts`, among others that keep their state. -/
theorem IfacesWF.changeAll (a : TunnelAction) :
    ∀ {ts rest : List Tunnel} {es : List Effect}, IfacesWF (ts ++ rest) es →
      IfacesWF ((ts.map (changeTunnelState a)).map (·.1) ++ rest)
        (es ++ (ts.map (changeTunnelState a)).flatMap (·.2.1))
  | [], _, _, h => by simpa using h
  | t :: ts, rest, es, h => by
    have h' := IfacesWF.changeAll a ((h.change a).of_subperm (List.perm_middle.map _).subperm)
    simp only [List.map_cons, List.flatMap_cons, List.cons_append, ← List.append_assoc]
    exact h'.of_subperm (List.perm_middle.map _).symm.subperm

/-- **`TunnelStateChange` keeps the invariant**: each babel command it issues is on the
interface of the tunnel whose registration state it follows. -/
theorem tunnelStateChange_ifacesWF (env : BwEnv) (c : TunnelChange) {m : HashMap Identity (List Tunnel)}
    {es : List Effect} (hwf : IfacesWF (m.entries.flatMap (·.2)) es) :
    IfacesWF ((tunnelStateChange env c m).1.entries.flatMap (·.2)) (es ++ (tunnelStateChange env c m).2) := by
  unfold tunnelStateChange
  cases hl : m.lookup c.identity with
  | none => simpa using hwf
  | some ts =>
    have hall := flatMap_perm_lookup m c.identity
    rw [hl, Option.getD_some] at hall
    have h := (hwf.of_subperm (subperm_map _ hall.symm.subperm)).changeAll c.action
    dsimp only
    split <;> dsimp only <;> rw [flatMap_insert]
    · rw [← List.append_assoc]
      obtain ⟨hc, hd, hm⟩ := tunnelBwLimitUpdate_quiet env (m.insert c.identity
        ((ts.map (changeTunnelState c.action)).map (·.1)))
      exact h.append_quiet hc hd hm
    · exact h

theorem handleTunnelStateChange_ifacesWF (env : Nat → BwEnv) :
    ∀ (n : Nat) (changes : List TunnelChange) (tm : TunnelManager) {es : List Effect},
      IfacesWF tm.allTunnels es →
      IfacesWF (handleTunnelStateChange env n changes tm).1.allTunnels
        (es ++ (handleTunnelStateChange env n changes tm).2)
  | _, [], _, _, h => by simpa [handleTunnelStateChange] using h
  | n, c :: rest, tm, es, h => by
    have h' := tunnelStateChange_ifacesWF (env n) c h
    unfold handleTunnelStateChange
    rcases hres : tunnelStateChange (env n) c tm.tunnels with ⟨tunnels, eff⟩
    rw [hres] at h'
    dsimp only
    rw [← List.append_assoc]
    exact handleTunnelStateChange_ifacesWF env (n + 1) rest _ h'

/-! ## Runs -/

/-- **One step** keeps the invariant, when `KI.setup_wg_if` returns the name of no interface
that exists. -/
theorem step_ifacesWF {w w' : World} {e : Event} (h : IfacesWF w.tm.allTunnels w.effects)
    (hs : w.step e = some w') (hf : FreshIfaces w'.effects) :
    IfacesWF w'.tm.allTunnels w'.effects := by
  rcases World.step_tunnels hs with
    ⟨_, _, _, _, -, hc, he⟩ | ⟨_, _, -, htm, he⟩ | ⟨_, env, -, htm, he⟩ | ⟨-, -, htm, he⟩ <;>
    rw [he] at hf ⊢
  · exact handleIdentityCallback_ifacesWF hc h hf
  · rw [htm]
    exact handleTriggerGC_ifacesWF h
  · rw [htm]
    exact handleTunnelStateChange_ifacesWF env 0 _ _ h
  · rw [TunnelManager.allTunnels, htm]
    exact h

theorem World.step_effects {w w' : World} {e : Event} (hs : w.step e = some w') :
    w.effects <+: w'.effects := by
  rcases World.step_tunnels hs with
    ⟨_, _, _, _, -, -, he⟩ | ⟨_, _, -, -, he⟩ | ⟨_, _, -, -, he⟩ | ⟨-, -, -, he⟩ <;>
    rw [he]
  all_goals exact List.prefix_append _ _

theorem reachable_ifacesWF {p : UInt16} {w : World} (h : Reachable p w)
    (hf : FreshIfaces w.effects) : IfacesWF w.tm.allTunnels w.effects := by
  induction h with
  | init => exact IfacesWF.nil
  | step _ hs ih => exact step_ifacesWF (ih (hf.of_prefix (World.step_effects hs))) hs hf

/-- **The interfaces of stored tunnels.** In every world of every run from
`TunnelManager::new()` in which `KI.setup_wg_if` never returns the name of an interface that
exists, whatever else the kernel answers: no two stored tunnels share an interface, and every
stored tunnel's interface exists (`KI.setup_wg_if` created it and it was not passed to
`KI.del_interface` since), and is monitored by babel iff the tunnel is `Registered`. -/
theorem reachable_stored_ifaces {p : UInt16} {w : World} (h : Reachable p w)
    (hf : FreshIfaces w.effects) :
    (w.tm.allTunnels.map (·.ifaceName)).Nodup ∧ ∀ t ∈ w.tm.allTunnels,
      t.ifaceName ∈ liveIfaces w.effects ∧
      (t.ifaceName ∈ monitoredIfaces w.effects ↔ t.state.registrationState = .registered) := by
  have hwf := reachable_ifacesWF h hf
  refine ⟨hwf.nodup, fun t ht => ?_⟩
  obtain ⟨hl, hs⟩ := hwf.live t ht
  exact ⟨hl, by simp [mem_monitoredIfaces, hs]⟩

/-- A peer re-says hello on the same interface and ip with `have_tunnel = Some(false)`: the old
interface `wg0` is deleted and no tunnel is stored on it, but babel still monitors it. The two
interfaces are distinct names, and the commands took effect in order. -/
theorem replaced_tunnel_stays_monitored :
    ∃ w, Reachable 65533 w ∧ createdIfaces w.effects = ["wg0", "wg1"] ∧
      deletedIfaces w.effects = ["wg0"] ∧ "wg0" ∈ monitoredIfaces w.effects ∧
      w.tm.allTunnels.map (·.ifaceName) = ["wg1"] :=
  have h := @Reachable.of_run 65533 _
    [.peerHello ⟨60000, none, ⟨.v6 7, 7, 7⟩⟩ ⟨3, ⟨.v6 1, 4876⟩⟩
      ⟨fun _ => ⟨.ok [], 0⟩, ⟨0, some "wg0", true, true, true⟩⟩,
     .peerHello ⟨60000, some false, ⟨.v6 7, 7, 7⟩⟩ ⟨3, ⟨.v6 1, 4876⟩⟩
      ⟨fun _ => ⟨.ok [], 0⟩, ⟨0, some "wg1", true, true, true⟩⟩] rfl
  ⟨_, h, rfl, rfl, by decide, rfl⟩

end Rita
