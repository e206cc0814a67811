import Rita.TunnelManager.StorageInv

/-! # Tunnel states over a run

The state of a tunnel moves by the table of §4.3 (`TunnelState.apply`): `PaymentOverdue` takes
a `Paid` tunnel to `Overdue` and `PaidOnTime` takes it back, `MembershipExpired` and
`MembershipConfirmed` move the registration state the same way, and every other combination is a
no-op. `changeTunnelState_fst` says that the action of `tunnel_state_change` on one tunnel is
that table.

The state is kept per tunnel, while the actions are sent per identity, and `open_tunnel` creates
every tunnel `Registered` and `Paid`. `tunnel_state_since_opening` is the run theorem: every
stored tunnel of an identity `n` was opened by the step that handled an `IdentityCallback` of `n`
and set up the tunnel's interface (`OpensAt`), and its state is the table applied, in order, to
the actions for `n` processed since that step; so it is `Overdue` iff the last payment action for
`n` since its opening was `PaymentOverdue`. A tunnel opened after a
`PaymentOverdue` is `Paid` (`overdue_identity_gets_paid_tunnel`). -/

namespace Rita

/-! ## The table -/

/-- The transition table of §4.3. -/
def TunnelState.apply (s : TunnelState) (action : TunnelAction) : TunnelState :=
  match action, s.registrationState, s.paymentState with
  | .membershipExpired, .registered, _ => { s with registrationState := .notRegistered }
  | .membershipConfirmed, .notRegistered, _ => { s with registrationState := .registered }
  | .paymentOverdue, _, .paid => { s with paymentState := .overdue }
  | .paidOnTime, _, .overdue => { s with paymentState := .paid }
  | _, _, _ => s

/-- The table applied to a list of actions, in order. -/
def TunnelState.applyAll (s : TunnelState) (actions : List TunnelAction) : TunnelState :=
  actions.foldl TunnelState.apply s

/-- `PaymentOverdue` and `PaidOnTime`. -/
def TunnelAction.isPayment : TunnelAction → Bool
  | .paymentOverdue | .paidOnTime => true
  | .membershipConfirmed | .membershipExpired => false

/-- The most recent payment action of a list. -/
def lastPaymentAction (actions : List TunnelAction) : Option TunnelAction :=
  (actions.filter TunnelAction.isPayment).getLast?

/-- The most recent membership action of a list. -/
def lastMembershipAction (actions : List TunnelAction) : Option TunnelAction :=
  (actions.filter fun a => !a.isPayment).getLast?

/-- The action of `tunnel_state_change` on one tunnel is the table. -/
theorem changeTunnelState_fst (action : TunnelAction) (t : Tunnel) :
    (changeTunnelState action t).1 = { t with state := t.state.apply action } := by
  rcases t with ⟨_, _, _, _, _, _, ⟨_ | _, _ | _⟩⟩ <;> cases action <;> rfl

section
variable (s : TunnelState)

@[simp] theorem TunnelState.apply_paymentOverdue :
    (s.apply .paymentOverdue).paymentState = .overdue := by
  rcases s with ⟨_ | _, _ | _⟩ <;> rfl

@[simp] theorem TunnelState.apply_paidOnTime : (s.apply .paidOnTime).paymentState = .paid := by
  rcases s with ⟨_ | _, _ | _⟩ <;> rfl

@[simp] theorem TunnelState.apply_membershipExpired :
    (s.apply .membershipExpired).registrationState = .notRegistered := by
  rcases s with ⟨_ | _, _ | _⟩ <;> rfl

@[simp] theorem TunnelState.apply_membershipConfirmed :
    (s.apply .membershipConfirmed).registrationState = .registered := by
  rcases s with ⟨_ | _, _ | _⟩ <;> rfl

/-- A membership action leaves the payment state alone, and a payment action the registration
state: the two axes are independent. -/
theorem TunnelState.apply_paymentState {a : TunnelAction} (h : a.isPayment = false) :
    (s.apply a).paymentState = s.paymentState := by
  rcases s with ⟨_ | _, _ | _⟩ <;> cases a <;> first | rfl | cases h

theorem TunnelState.apply_registrationState {a : TunnelAction} (h : a.isPayment = true) :
    (s.apply a).registrationState = s.registrationState := by
  rcases s with ⟨_ | _, _ | _⟩ <;> cases a <;> first | rfl | cases h

/-- After a list of actions the payment state is that of the last payment action, or the one
before if there is none. -/
theorem TunnelState.applyAll_overdue_iff (actions : List TunnelAction) :
    (s.applyAll actions).paymentState = .overdue ↔
      lastPaymentAction actions = some .paymentOverdue ∨
        lastPaymentAction actions = none ∧ s.paymentState = .overdue := by
  induction actions using List.reverseRecOn with
  | nil => simp [TunnelState.applyAll, lastPaymentAction]
  | append_singleton actions a ih =>
    rw [TunnelState.applyAll, List.foldl_append, List.foldl_cons, List.foldl_nil, lastPaymentAction,
      List.filter_append, List.getLast?_append]
    cases a <;> simp_all [TunnelState.applyAll, lastPaymentAction, TunnelAction.isPayment,
      TunnelState.apply_paymentState]

/-- After a list of actions the registration state is that of the last membership action, or
the one before if there is none. -/
theorem TunnelState.applyAll_notRegistered_iff (actions : List TunnelAction) :
    (s.applyAll actions).registrationState = .notRegistered ↔
      lastMembershipAction actions = some .membershipExpired ∨
        lastMembershipAction actions = none ∧ s.registrationState = .notRegistered := by
  induction actions using List.reverseRecOn with
  | nil => simp [TunnelState.applyAll, lastMembershipAction]
  | append_singleton actions a ih =>
    rw [TunnelState.applyAll, List.foldl_append, List.foldl_cons, List.foldl_nil,
      lastMembershipAction, List.filter_append, List.getLast?_append]
    cases a <;> simp_all [TunnelState.applyAll, lastMembershipAction, TunnelAction.isPayment,
      TunnelState.apply_registrationState]

end

/-! ## What the handlers do to states -/

/-- Every tunnel of `m'` under a key has the state and the interface of a tunnel `m` stores under
that key, or is a tunnel `Tunnel::new` opened for `opened` on an interface that `eff` sets up. -/
def StatesFrom (opened : Option Identity) (eff : List Effect) (m m' : HashMap Identity (List Tunnel)) :
    Prop :=
  ∀ n ts' t', m'.lookup n = some ts' → t' ∈ ts' →
    (opened = some n ∧ t'.state = ⟨.paid, .registered⟩ ∧ Effect.setupWgIf t'.ifaceName ∈ eff) ∨
      ∃ ts t, m.lookup n = some ts ∧ t ∈ ts ∧ t'.state = t.state ∧ t'.ifaceName = t.ifaceName

namespace StatesFrom

variable {o : Option Identity} {eff eff' : List Effect} {m m₁ m₂ : HashMap Identity (List Tunnel)}
  {k : Identity}

theorem refl : StatesFrom o eff m m := fun _ ts' t' hl ht => .inr ⟨ts', t', hl, ht, rfl, rfl⟩

theorem mono (h : StatesFrom o eff m₁ m₂) (hsub : eff ⊆ eff') : StatesFrom o eff' m₁ m₂ :=
  fun n ts' t' hl ht => (h n ts' t' hl ht).imp (fun ⟨ho, hs, hi⟩ => ⟨ho, hs, hsub hi⟩) id

theorem trans (h₁ : StatesFrom o eff m m₁) (h₂ : StatesFrom o eff m₁ m₂) : StatesFrom o eff m m₂ := by
  intro n ts' t' hl ht
  rcases h₂ n ts' t' hl ht with hnew | ⟨ts, t, hl', ht', hs, hi⟩
  · exact .inl hnew
  · rcases h₁ n ts t hl' ht' with ⟨ho, hs', hi'⟩ | ⟨ts₀, t₀, hl₀, ht₀, hs', hi'⟩
    · exact .inl ⟨ho, hs.trans hs', hi ▸ hi'⟩
    · exact .inr ⟨ts₀, t₀, hl₀, ht₀, hs.trans hs', hi.trans hi'⟩

theorem of_subStorage (h : SubStorage m' m) : StatesFrom o eff m m' := by
  intro n ts' t' hl ht
  obtain ⟨ts, hk, ht⟩ := (h n ts' hl).2 t' ht
  exact .inr ⟨ts, t', hk, ht, rfl, rfl⟩

theorem insert {ts' : List Tunnel}
    (h : ∀ t' ∈ ts', ∃ ts t, m.lookup k = some ts ∧ t ∈ ts ∧ t'.state = t.state ∧
      t'.ifaceName = t.ifaceName) :
    StatesFrom o eff m (m.insert k ts') := by
  intro n ts'' t' hl ht
  by_cases hk : n = k
  · subst hk
    rw [AList.lookup_insert, Option.some.injEq] at hl
    exact .inr (h t' (hl ▸ ht))
  · rw [AList.lookup_insert_ne hk] at hl
    exact .inr ⟨ts'', t', hl, ht, rfl, rfl⟩

theorem erase : StatesFrom o eff m (m.erase k) := by
  intro n ts' t' hl ht
  by_cases hk : n = k
  · subst hk
    rw [AList.lookup_erase] at hl
    cases hl
  · rw [AList.lookup_erase_ne hk] at hl
    exact .inr ⟨ts', t', hl, ht, rfl, rfl⟩

theorem pushTunnel {t : Tunnel} (ht : t.state = ⟨.paid, .registered⟩)
    (hi : Effect.setupWgIf t.ifaceName ∈ eff) : StatesFrom (some k) eff m (Rita.pushTunnel m k t) := by
  intro n ts' t' hl ht'
  by_cases hk : n = k
  · subst hk
    rw [Rita.pushTunnel, AList.lookup_insert, Option.some.injEq] at hl
    subst hl
    rcases List.mem_append.mp ht' with ht' | ht'
    · cases hl' : m.lookup n with
      | none => simp [hl'] at ht'
      | some ts => exact .inr ⟨ts, t', rfl, by simpa [hl'] using ht', rfl, rfl⟩
    · obtain rfl := List.mem_singleton.mp ht'
      exact .inl ⟨rfl, ht, hi⟩
  · rw [Rita.pushTunnel, AList.lookup_insert_ne hk] at hl
    exact .inr ⟨ts', t', hl, ht', rfl, rfl⟩

end StatesFrom

section
variable {env : OpenEnv} {theirLocalid : LocalIdentity} {peer : Peer} {ourPort : UInt16}
  {tm tm' : TunnelManager} {r : Except String (Tunnel × Bool)} {eff : List Effect}

theorem mem_bumpLastContact {now : Nat} {ts : List Tunnel} {t' : Tunnel}
    (h : t' ∈ bumpLastContact peer now ts) :
    ∃ t ∈ ts, t'.state = t.state ∧ t'.ifaceName = t.ifaceName := by
  obtain ⟨t, ht, rfl⟩ := List.mem_map.mp h
  exact ⟨t, ht, by split <;> exact ⟨rfl, rfl⟩⟩

theorem createTunnel_statesFrom {returnBool : Bool}
    (hc : createTunnel env theirLocalid peer ourPort returnBool tm = some (r, tm', eff)) :
    StatesFrom (some theirLocalid.global) eff tm.tunnels tm'.tunnels := by
  obtain ⟨_, -, -, ⟨-, ht, -⟩ | ⟨-, -, -, ht, rfl⟩⟩ := createTunnel_spec hc <;> rw [ht]
  · exact .refl
  · exact StatesFrom.pushTunnel rfl (List.mem_cons_self _ _)

/-- The tunnels the bump leaves under the identity's key have the states of the stored ones. -/
theorem bumped_statesFrom {ts : List Tunnel} (hl : tm.tunnels.lookup theirLocalid.global = some ts) :
    StatesFrom (some theirLocalid.global) eff tm.tunnels
      (tm.tunnels.insert theirLocalid.global (bumpLastContact peer env.now ts)) :=
  StatesFrom.insert fun _ ht' =>
    let ⟨t, ht, hs⟩ := mem_bumpLastContact ht'
    ⟨ts, t, hl, ht, hs⟩

theorem replaceTunnel_statesFrom {ts : List Tunnel}
    (hl : tm.tunnels.lookup theirLocalid.global = some ts)
    (hc : replaceTunnel env theirLocalid peer ourPort ts tm = some (r, tm', eff)) :
    StatesFrom (some theirLocalid.global) eff tm.tunnels tm'.tunnels := by
  obtain ⟨value, _, -, hc', rfl⟩ := replaceTunnel_spec hc
  refine StatesFrom.trans ?_ ((createTunnel_statesFrom hc').mono (List.subset_cons_self _ _))
  dsimp only
  split
  · exact .erase
  · exact StatesFrom.insert fun t ht => ⟨ts, t, hl, (mem_delTunnel.mp ht).1, rfl, rfl⟩

theorem openTunnel_statesFrom (ho : openTunnel env theirLocalid peer ourPort tm = some (r, tm', eff)) :
    StatesFrom (some theirLocalid.global) eff tm.tunnels tm'.tunnels := by
  rcases openTunnel_spec ho with ⟨ts, hl, -, -, -, -, -, -, rfl⟩ | ⟨ts, hl, -, -, ho⟩ | ⟨-, ho⟩
  · exact bumped_statesFrom hl
  · exact (bumped_statesFrom hl).trans (replaceTunnel_statesFrom (AList.lookup_insert _) ho)
  · exact createTunnel_statesFrom ho

end

theorem handleIdentityCallback_statesFrom {env : CallbackEnv} {msg : IdentityCallback}
    {tm tm' : TunnelManager} {r : Option (Tunnel × Bool)} {eff : List Effect}
    (hc : handleIdentityCallback env msg tm = some (r, tm', eff)) :
    StatesFrom (some msg.localIdentity.global) eff tm.tunnels tm'.tunnels := by
  rcases handleIdentityCallback_spec hc with ⟨-, _, -, -, rfl, -⟩ | ⟨_, _, _, -, ho, -⟩
  · exact .refl
  · have := openTunnel_statesFrom ho
    exact this

/-- `tunnel_state_change` applies the table to every tunnel of the message's identity. -/
theorem tunnelStateChange_lookup (env : BwEnv) (c : TunnelChange)
    (m : HashMap Identity (List Tunnel)) (n : Identity) :
    (tunnelStateChange env c m).1.lookup n =
      if c.identity = n then (m.lookup n).map (·.map fun t => { t with state := t.state.apply c.action })
      else m.lookup n := by
  have hmap : ∀ ts : List Tunnel, (ts.map (changeTunnelState c.action)).map (·.1) =
      ts.map fun t => { t with state := t.state.apply c.action } := fun ts => by
    simp [Function.comp_def, changeTunnelState_fst]
  unfold tunnelStateChange
  by_cases h : c.identity = n
  · subst h
    cases hl : m.lookup c.identity with
    | none => simp [hl]
    | some ts => dsimp only; split <;> simp [hmap]
  · rw [if_neg h]
    cases m.lookup c.identity with
    | none => rfl
    | some ts => dsimp only; split <;> exact AList.lookup_insert_ne (Ne.symm h)

/-- A batch of `TunnelStateChange` applies to every tunnel of an identity the table on the
batch's actions for it, in order. -/
theorem handleTunnelStateChange_lookup (env : Nat → BwEnv) :
    ∀ (i : Nat) (changes : List TunnelChange) (tm : TunnelManager) (n : Identity),
      (handleTunnelStateChange env i changes tm).1.tunnels.lookup n =
        (tm.tunnels.lookup n).map (·.map fun t =>
          { t with state := t.state.applyAll ((changes.filter (·.identity = n)).map (·.action)) })
  | _, [], tm, n => by simp [handleTunnelStateChange, TunnelState.applyAll]
  | i, c :: rest, tm, n => by
    unfold handleTunnelStateChange
    rcases hres : tunnelStateChange (env i) c tm.tunnels with ⟨tunnels, eff⟩
    have hl := tunnelStateChange_lookup (env i) c tm.tunnels n
    rw [hres] at hl
    dsimp only
    rw [handleTunnelStateChange_lookup env (i + 1) rest, hl]
    split
    · subst n
      cases tm.tunnels.lookup c.identity <;> simp [Function.comp_def, TunnelState.applyAll]
    · simp_all

/-! ## Runs -/

/-- The actions for identity `n` an event processes, in order. -/
def Event.actionsFor (n : Identity) : Event → List TunnelAction
  | .tunnelStateChange changes _ => (changes.filter (·.identity = n)).map (·.action)
  | _ => []

/-- The actions for identity `n` a run processes, in order. -/
def actionsFor (n : Identity) (es : List Event) : List TunnelAction :=
  es.flatMap (Event.actionsFor n)

/-- The event handles an `IdentityCallback` of identity `n`. -/
def Event.OpensFor (n : Identity) : Event → Prop
  | .helloAnswered _ _ theirId _ | .peerHello theirId _ _ => theirId.global = n
  | _ => False

/-- Step `e` of a run from `TunnelManager::new()`, taken after the events `pre`, handled an
`IdentityCallback` of `n`, and its `KI.setup_wg_if` set up the interface `iface`. -/
def OpensAt (p : UInt16) (pre : List Event) (e : Event) (n : Identity) (iface : String) : Prop :=
  e.OpensFor n ∧ ∃ w₁ w₂ eff, (World.init p).run pre = some w₁ ∧ w₁.step e = some w₂ ∧
    w₂.effects = w₁.effects ++ eff ∧ Effect.setupWgIf iface ∈ eff

/-- Every stored tunnel of an identity `n` was opened by the step of the run that set up its
interface for `n`, and its state is the table applied to the actions for `n` since. -/
def StatesTracked (p : UInt16) (es : List Event) (w : World) : Prop :=
  ∀ n ts t, w.tm.tunnels.lookup n = some ts → t ∈ ts →
    ∃ pre e post, es = pre ++ e :: post ∧ OpensAt p pre e n t.ifaceName ∧
      t.state = TunnelState.applyAll ⟨.paid, .registered⟩ (actionsFor n post)

section
variable {p : UInt16} {es : List Event} {w w' : World}

/-- A step that moves no state keeps the tracking; a tunnel it opens was opened by it. -/
theorem StatesTracked.step_of_statesFrom {e : Event} {eff : List Effect} (o : Option Identity)
    (h : StatesTracked p es w) (hrun : (World.init p).run es = some w) (hs : w.step e = some w')
    (heff : w'.effects = w.effects ++ eff) (hsf : StatesFrom o eff w.tm.tunnels w'.tm.tunnels)
    (ho : ∀ n, o = some n → e.OpensFor n) (ha : ∀ n, e.actionsFor n = []) :
    StatesTracked p (es ++ [e]) w' := by
  intro n ts' t' hl ht
  rcases hsf n ts' t' hl ht with ⟨hn, hst, hi⟩ | ⟨ts, t, hl₀, ht₀, hst, hif⟩
  · exact ⟨es, e, [], by simp, ⟨ho n hn, w, w', eff, hrun, hs, heff, hi⟩,
      by simpa [actionsFor, TunnelState.applyAll] using hst⟩
  · obtain ⟨pre, e₀, post, rfl, he₀, hst₀⟩ := h n ts t hl₀ ht₀
    exact ⟨pre, e₀, post ++ [e], by simp, hif ▸ he₀, by simp [actionsFor, ha, hst, hst₀]⟩

theorem StatesTracked.step_tunnelStateChange {changes : List TunnelChange} {env : Nat → BwEnv}
    (h : StatesTracked p es w) (htm : w'.tm = (handleTunnelStateChange env 0 changes w.tm).1) :
    StatesTracked p (es ++ [.tunnelStateChange changes env]) w' := by
  intro n ts' t' hl ht
  rw [htm, handleTunnelStateChange_lookup, Option.map_eq_some'] at hl
  obtain ⟨ts, hl₀, rfl⟩ := hl
  obtain ⟨t, ht₀, rfl⟩ := List.mem_map.mp ht
  obtain ⟨pre, e₀, post, rfl, he₀, hst₀⟩ := h n ts t hl₀ ht₀
  refine ⟨pre, e₀, post ++ [.tunnelStateChange changes env], by simp, he₀, ?_⟩
  simp [actionsFor, Event.actionsFor, hst₀, TunnelState.applyAll, List.foldl_append]

/-- An event that handles an `IdentityCallback` opens for its identity and moves no state. -/
theorem Event.opensFor_of_identityCallback {e : Event} {env : CallbackEnv} {msg : IdentityCallback}
    (he : e.identityCallback = some (env, msg)) :
    e.OpensFor msg.localIdentity.global ∧ ∀ n, e.actionsFor n = [] := by
  cases e <;> cases he <;> exact ⟨rfl, fun _ => rfl⟩

theorem StatesTracked.step {e : Event} (h : StatesTracked p es w)
    (hrun : (World.init p).run es = some w) (hs : w.step e = some w') :
    StatesTracked p (es ++ [e]) w' := by
  rcases World.step_tunnels hs with
    ⟨_, _, _, _, he, hc, heff⟩ | ⟨_, _, rfl, htm, heff⟩ | ⟨_, _, rfl, htm, -⟩ | ⟨-, hne, htm, heff⟩
  · obtain ⟨ho, ha⟩ := Event.opensFor_of_identityCallback he
    exact h.step_of_statesFrom _ hrun hs heff (handleIdentityCallback_statesFrom hc)
      (fun n hn => Option.some.inj hn ▸ ho) ha
  · exact h.step_of_statesFrom none hrun hs heff (htm ▸ .of_subStorage splitTunnels_subStorage)
      (fun _ hn => by cases hn) fun _ => rfl
  · exact h.step_tunnelStateChange htm
  · refine h.step_of_statesFrom none hrun hs (by rw [heff, List.append_nil]) (by rw [htm]; exact .refl)
      (fun _ hn => by cases hn) fun n => ?_
    cases e <;> first | rfl | exact absurd rfl (hne _ _)

theorem run_statesTracked (h : (World.init p).run es = some w) : StatesTracked p es w := by
  induction es using List.reverseRecOn generalizing w with
  | nil =>
    cases h
    intro _ _ _ hl
    cases hl
  | append_singleton es e ih =>
    rw [World.run_append, Option.bind_eq_some] at h
    obtain ⟨w₀, h₀, hs⟩ := h
    exact (ih h₀).step h₀ (by simpa [World.run] using hs)

end

/-- **Tunnel states.** In every run from `TunnelManager::new()`, every stored tunnel `t` of an
identity `n` was opened by the step that handled an `IdentityCallback` of `n` and whose
`KI.setup_wg_if` set up `t`'s interface; `t`'s state is the table applied to the actions for `n`
processed since that step, and so it is `Overdue` iff the last payment action for `n` since then
was `PaymentOverdue`, and `NotRegistered` iff the last membership action since then was
`MembershipExpired`. -/
theorem tunnel_state_since_opening {p : UInt16} {es : List Event} {w : World}
    (h : (World.init p).run es = some w) {n : Identity} {ts : List Tunnel} {t : Tunnel}
    (hl : w.tm.tunnels.lookup n = some ts) (ht : t ∈ ts) :
    ∃ pre e post, es = pre ++ e :: post ∧ OpensAt p pre e n t.ifaceName ∧
      t.state = TunnelState.applyAll ⟨.paid, .registered⟩ (actionsFor n post) ∧
      (t.state.paymentState = .overdue ↔
        lastPaymentAction (actionsFor n post) = some .paymentOverdue) ∧
      (t.state.registrationState = .notRegistered ↔
        lastMembershipAction (actionsFor n post) = some .membershipExpired) := by
  obtain ⟨pre, e, post, hes, he, hst⟩ := run_statesTracked h n ts t hl ht
  refine ⟨pre, e, post, hes, he, hst, ?_, ?_⟩ <;> rw [hst]
  · simpa using TunnelState.applyAll_overdue_iff ⟨.paid, .registered⟩ (actionsFor n post)
  · simpa using TunnelState.applyAll_notRegistered_iff ⟨.paid, .registered⟩ (actionsFor n post)

/-- A peer's hello opens a tunnel on `wg0`, and a `PaymentOverdue` for its identity makes it
`Overdue`: the actions since the step that set up `wg0` end in that `PaymentOverdue`. -/
theorem overdue_tunnel_state_since_opening :
    ∃ pre e post,
      [.peerHello ⟨60000, none, ⟨.v6 7, 7, 7⟩⟩ ⟨1, ⟨.v6 1, 4876⟩⟩
          ⟨fun _ => ⟨.ok [], 0⟩, ⟨0, some "wg0", true, true, true⟩⟩,
        .tunnelStateChange [⟨⟨.v6 7, 7, 7⟩, .paymentOverdue⟩]
          (fun _ => ⟨1000, fun _ => .ok false, fun _ => true⟩)] = pre ++ e :: post ∧
      OpensAt 65533 pre e ⟨.v6 7, 7, 7⟩ "wg0" ∧
      lastPaymentAction (actionsFor ⟨.v6 7, 7, 7⟩ post) = some .paymentOverdue :=
  let ⟨pre, e, post, hes, he, _, hpay, _⟩ := @tunnel_state_since_opening 65533
    [.peerHello ⟨60000, none, ⟨.v6 7, 7, 7⟩⟩ ⟨1, ⟨.v6 1, 4876⟩⟩
        ⟨fun _ => ⟨.ok [], 0⟩, ⟨0, some "wg0", true, true, true⟩⟩,
      .tunnelStateChange [⟨⟨.v6 7, 7, 7⟩, .paymentOverdue⟩]
        (fun _ => ⟨1000, fun _ => .ok false, fun _ => true⟩)] _ rfl
    ⟨.v6 7, 7, 7⟩ _ _ rfl (List.mem_singleton_self _)
  ⟨pre, e, post, hes, he, hpay.mp rfl⟩

/-- The identity's tunnel on interface `1` is made `Overdue`, then a hello on interface `2`
opens a second tunnel, `Paid`, though the last payment action for the identity was
`PaymentOverdue`. -/
theorem overdue_identity_gets_paid_tunnel :
    ¬∀ (es : List Event) (w : World), (World.init 65533).run es = some w →
      ∀ n ts, w.tm.tunnels.lookup n = some ts → ∀ t ∈ ts,
        (t.state.paymentState = .overdue ↔
          lastPaymentAction (actionsFor n es) = some .paymentOverdue) := by
  intro h
  have h' := h
    [.peerHello ⟨60000, none, ⟨.v6 7, 7, 7⟩⟩ ⟨1, ⟨.v6 1, 4876⟩⟩
        ⟨fun _ => ⟨.ok [], 0⟩, ⟨0, some "wg0", true, true, true⟩⟩,
      .tunnelStateChange [⟨⟨.v6 7, 7, 7⟩, .paymentOverdue⟩]
        (fun _ => ⟨1000, fun _ => .ok false, fun _ => true⟩),
      .peerHello ⟨60000, none, ⟨.v6 7, 7, 7⟩⟩ ⟨2, ⟨.v6 2, 4876⟩⟩
        ⟨fun _ => ⟨.ok [], 0⟩, ⟨0, some "wg1", true, true, true⟩⟩] _ rfl ⟨.v6 7, 7, 7⟩ _ rfl
  revert h'
  decide

end Rita
