import Rita.TunnelManager.Interfaces
import Rita.TunnelManager.TunnelStates

/-! # A batch of tunnel state changes

`Handler<TunnelStateChange>` runs `tunnel_state_change` on the changes of its batch in order.
Each change applies the table of §4.3 to every tunnel of its identity, issues the babel command
of each registration move, and, when a payment state moved, runs `tunnel_bw_limit_update` over
the whole storage at once.

What §4.3 asks of a batch is stated here from the table alone: the babel commands
(`batchBabelCalls`), whether a payment moves (`PaymentMoves`) and the shaping of a pass
(`shapeCall`). The handler meets it (`tunnel_state_change_batch_law`): the stored states are the
table applied to each identity's actions, the babel commands are those of the table, and when
every kernel call succeeds the last pass of the batch is the one of §4.3 over a storage with the
final interfaces and payment states, with the budget divided by the number `k` of `Overdue`
tunnels. That last part needs `k < 65536`: the count is a `u16`, and at `k = 65536` it wraps to
`0`, so every `Overdue` tunnel gets the whole free tier (`overdue_count_wraps`). -/

namespace Rita

open scoped List

/-! ## What a batch should do, by the table -/

/-- The actions of a batch for identity `n`, in order. -/
def actionsOf (n : Identity) (batch : List TunnelChange) : List TunnelAction :=
  (batch.filter (·.identity = n)).map (·.action)

/-- The babel command of a tunnel on `iface` that the table moves from `s` by `a`: `monitor` when
it moves to `Registered`, `unmonitor` when it moves to `NotRegistered`. -/
def TunnelState.babelCalls (iface : String) (s : TunnelState) (a : TunnelAction) : List Effect :=
  match s.registrationState, (s.apply a).registrationState with
  | .notRegistered, .registered => [.monitor iface]
  | .registered, .notRegistered => [.unmonitor iface]
  | _, _ => []

/-- The babel commands of a batch by the table: for each change, and each tunnel `m` stores under
its identity, the command of its move from the state the earlier changes `done` left it in. -/
def batchBabelCalls (m : HashMap Identity (List Tunnel)) :
    List TunnelChange → List TunnelChange → List Effect
  | _, [] => []
  | done, c :: rest =>
    ((m.lookup c.identity).getD []).flatMap (fun t =>
      (t.state.applyAll (actionsOf c.identity done)).babelCalls t.ifaceName c.action) ++
    batchBabelCalls m (done ++ [c]) rest

/-- Some change of the batch moves, by the table, the payment state of a tunnel `m` stores. -/
def PaymentMoves (m : HashMap Identity (List Tunnel)) (batch : List TunnelChange) : Prop :=
  ∃ pre c post, batch = pre ++ c :: post ∧ ∃ t ∈ (m.lookup c.identity).getD [],
    ((t.state.applyAll (actionsOf c.identity pre)).apply c.action).paymentState ≠
      (t.state.applyAll (actionsOf c.identity pre)).paymentState

/-- Babel's `monitor` and `unmonitor`. -/
def Effect.isBabel : Effect → Bool
  | .monitor _ | .unmonitor _ => true
  | _ => false

/-- Every `KI.has_limit` and every shaping call of a pass succeeds. -/
def BwEnv.AllOk (env : BwEnv) : Prop :=
  ∀ n, (∃ b, env.hasLimit n = .ok b) ∧ env.shapeOk n = true

/-- The shaping §4.3 asks for the `n`-th tunnel of a pass with budget `bw`: an `Overdue` tunnel is
limited to `bw`, a `Paid` one that has a limit has it removed. -/
def shapeCall (env : BwEnv) (bw : UInt32) (n : Nat) (t : Tunnel) : List Effect :=
  match t.state.paymentState, env.hasLimit n with
  | .overdue, _ => [.setClasslessLimit t.ifaceName bw true]
  | .paid, .ok true => [.setCodelShaping t.ifaceName true]
  | .paid, _ => []

/-- What the bandwidth pass reads of a tunnel. -/
def ifacePayment (t : Tunnel) : String × PaymentState :=
  (t.ifaceName, t.state.paymentState)

/-- The number of `Overdue` tunnels, as `tunnel_bw_limit_update` counts them before the cast. -/
def overdueCount (ts : List Tunnel) : Nat :=
  (ts.filter (·.state.paymentState = .overdue)).length

/-! ## One change -/

theorem changeTunnelState_babel (a : TunnelAction) (t : Tunnel) :
    (changeTunnelState a t).2.1 = t.state.babelCalls t.ifaceName a := by
  rcases t with ⟨_, _, _, _, _, _, ⟨_ | _, _ | _⟩⟩ <;> cases a <;> rfl

theorem changeTunnelState_moves (a : TunnelAction) (t : Tunnel) :
    (changeTunnelState a t).2.2 =
      decide ((t.state.apply a).paymentState ≠ t.state.paymentState) := by
  rcases t with ⟨_, _, _, _, _, _, ⟨_ | _, _ | _⟩⟩ <;> cases a <;> rfl

theorem babelCalls_isBabel (iface : String) (s : TunnelState) (a : TunnelAction) :
    ∀ e ∈ s.babelCalls iface a, e.isBabel = true := by
  unfold TunnelState.babelCalls
  split <;> simp [Effect.isBabel]

theorem tunnelBwLimitUpdate_isShaping (env : BwEnv) (m : HashMap Identity (List Tunnel)) :
    ∀ e ∈ (tunnelBwLimitUpdate env m).2, e.isShaping = true :=
  shapeTunnels_isShaping env _ 0 _

theorem Effect.isBabel_eq_false {e : Effect} (h : e.isShaping = true) : e.isBabel = false := by
  cases e <;> first | rfl | cases h

theorem Effect.isShaping_eq_false {e : Effect} (h : e.isBabel = true) : e.isShaping = false := by
  cases e <;> first | rfl | cases h

/-- What `tunnel_state_change` emits: the babel commands of the table on the tunnels of the
identity, then a bandwidth pass over the new storage if one of their payment states moved. -/
theorem tunnelStateChange_snd (env : BwEnv) (c : TunnelChange)
    (m : HashMap Identity (List Tunnel)) :
    (tunnelStateChange env c m).2 =
      ((m.lookup c.identity).getD []).flatMap (fun t => t.state.babelCalls t.ifaceName c.action) ++
        if ((m.lookup c.identity).getD []).any fun t =>
            (t.state.apply c.action).paymentState ≠ t.state.paymentState then
          (tunnelBwLimitUpdate env (tunnelStateChange env c m).1).2
        else [] := by
  unfold tunnelStateChange
  cases m.lookup c.identity with
  | none => rfl
  | some ts =>
    have hany : (ts.map (changeTunnelState c.action)).any (·.2.2) =
        ts.any fun t => (t.state.apply c.action).paymentState ≠ t.state.paymentState := by
      rw [Bool.eq_iff_iff]; simp [changeTunnelState_moves]
    have heff : (ts.map (changeTunnelState c.action)).flatMap (·.2.1) =
        ts.flatMap fun t => t.state.babelCalls t.ifaceName c.action := by
      simp only [List.flatMap_map, changeTunnelState_babel]
    dsimp only
    rw [hany, heff, Option.getD_some]
    split <;> simp

/-- What `tunnel_state_change` stores: the table applied to every tunnel of the identity. -/
theorem tunnelStateChange_fst (env : BwEnv) (c : TunnelChange)
    (m : HashMap Identity (List Tunnel)) :
    (tunnelStateChange env c m).1 = match m.lookup c.identity with
      | some ts => m.insert c.identity (ts.map fun t => { t with state := t.state.apply c.action })
      | none => m := by
  unfold tunnelStateChange
  cases m.lookup c.identity with
  | none => rfl
  | some ts =>
    simp only [List.map_map, Function.comp_def, changeTunnelState_fst]
    split <;> rfl

/-- A change that moves no payment state issues only babel commands and keeps the interfaces and
payment states of the storage. -/
theorem tunnelStateChange_of_stays (env : BwEnv) (c : TunnelChange)
    (m : HashMap Identity (List Tunnel)) (hc : ∀ t ∈ (m.lookup c.identity).getD [],
      (t.state.apply c.action).paymentState = t.state.paymentState) :
    (∀ e ∈ (tunnelStateChange env c m).2, e.isShaping = false) ∧
      ((tunnelStateChange env c m).1.entries.flatMap (·.2)).map ifacePayment ~
        (m.entries.flatMap (·.2)).map ifacePayment := by
  have hany : ((m.lookup c.identity).getD []).any
      (fun t => (t.state.apply c.action).paymentState ≠ t.state.paymentState) = false := by
    simpa using hc
  refine ⟨fun e he => ?_, tunnelStateChange_map_of_stored ifacePayment env c m fun t ht => ?_⟩
  · rw [tunnelStateChange_snd, hany, if_neg Bool.false_ne_true, List.append_nil] at he
    obtain ⟨t, -, he⟩ := List.mem_flatMap.mp he
    exact Effect.isShaping_eq_false (babelCalls_isBabel _ _ _ e he)
  · simp [ifacePayment, changeTunnelState_fst, hc t ht]

/-- A change that moves a payment state ends with a bandwidth pass over the storage it leaves. -/
theorem tunnelStateChange_of_moves (env : BwEnv) (c : TunnelChange)
    (m : HashMap Identity (List Tunnel)) (hc : ∃ t ∈ (m.lookup c.identity).getD [],
      (t.state.apply c.action).paymentState ≠ t.state.paymentState) :
    (tunnelStateChange env c m).2 =
      ((m.lookup c.identity).getD []).flatMap (fun t => t.state.babelCalls t.ifaceName c.action) ++
        (tunnelBwLimitUpdate env (tunnelStateChange env c m).1).2 := by
  have hany : ((m.lookup c.identity).getD []).any
      (fun t => (t.state.apply c.action).paymentState ≠ t.state.paymentState) = true := by
    simpa using hc
  rw [tunnelStateChange_snd, hany, if_pos rfl]

/-- `tms` is `m` with the table applied to each stored tunnel, identity by identity, on the actions
of `done`. -/
def StatesApplied (m tms : HashMap Identity (List Tunnel)) (done : List TunnelChange) : Prop :=
  ∀ n, tms.lookup n = (m.lookup n).map (·.map fun t =>
    { t with state := t.state.applyAll (actionsOf n done) })

theorem actionsOf_append_singleton (n : Identity) (done : List TunnelChange) (c : TunnelChange) :
    actionsOf n (done ++ [c]) =
      if c.identity = n then actionsOf n done ++ [c.action] else actionsOf n done := by
  unfold actionsOf
  split <;> simp_all

namespace StatesApplied

variable {m tms : HashMap Identity (List Tunnel)} {done : List TunnelChange}

theorem nil (m : HashMap Identity (List Tunnel)) : StatesApplied m m [] := fun n => by
  cases m.lookup n <;> simp [actionsOf, TunnelState.applyAll]

theorem getD (h : StatesApplied m tms done) (n : Identity) :
    (tms.lookup n).getD [] =
      ((m.lookup n).getD []).map fun t =>
        { t with state := t.state.applyAll (actionsOf n done) } := by
  rw [h n]
  cases m.lookup n <;> rfl

/-- One more change applies its action to the tunnels of its identity. -/
theorem change (h : StatesApplied m tms done) (env : BwEnv) (c : TunnelChange) :
    StatesApplied m (tunnelStateChange env c tms).1 (done ++ [c]) := fun n => by
  rw [tunnelStateChange_lookup, h n, actionsOf_append_singleton]
  split
  · cases m.lookup n <;> simp [TunnelState.applyAll, Function.comp_def]
  · rfl

end StatesApplied

/-! ## A batch -/

section
variable (env : Nat → BwEnv)

theorem handleTunnelStateChange_freePorts :
    ∀ (i : Nat) (batch : List TunnelChange) (tm : TunnelManager),
      (handleTunnelStateChange env i batch tm).1.freePorts = tm.freePorts
  | _, [], _ => rfl
  | i, _ :: rest, _ => handleTunnelStateChange_freePorts (i + 1) rest _

theorem handleTunnelStateChange_cons (i : Nat) (c : TunnelChange) (rest : List TunnelChange)
    (tm : TunnelManager) :
    handleTunnelStateChange env i (c :: rest) tm =
      ((handleTunnelStateChange env (i + 1) rest
          { tm with tunnels := (tunnelStateChange (env i) c tm.tunnels).1 }).1,
        (tunnelStateChange (env i) c tm.tunnels).2 ++
          (handleTunnelStateChange env (i + 1) rest
            { tm with tunnels := (tunnelStateChange (env i) c tm.tunnels).1 }).2) := by
  rw [handleTunnelStateChange.eq_2]

theorem handleTunnelStateChange_singleton (i : Nat) (c : TunnelChange) (tm : TunnelManager) :
    handleTunnelStateChange env i [c] tm =
      ({ tm with tunnels := (tunnelStateChange (env i) c tm.tunnels).1 },
        (tunnelStateChange (env i) c tm.tunnels).2) := by
  simp [handleTunnelStateChange_cons, handleTunnelStateChange]

/-- A batch is its first part, then the rest on the storage the first part left. -/
theorem handleTunnelStateChange_append :
    ∀ (i : Nat) (xs ys : List TunnelChange) (tm : TunnelManager),
      handleTunnelStateChange env i (xs ++ ys) tm =
        ((handleTunnelStateChange env (i + xs.length) ys
            (handleTunnelStateChange env i xs tm).1).1,
          (handleTunnelStateChange env i xs tm).2 ++
            (handleTunnelStateChange env (i + xs.length) ys
              (handleTunnelStateChange env i xs tm).1).2)
  | i, [], ys, tm => by simp [handleTunnelStateChange]
  | i, c :: xs, ys, tm => by
    rw [List.cons_append, handleTunnelStateChange_cons, handleTunnelStateChange_cons,
      handleTunnelStateChange_append (i + 1) xs ys]
    simp only [List.length_cons, List.append_assoc, Nat.add_assoc, Nat.add_comm 1]

theorem handleTunnelStateChange_statesApplied (m : HashMap Identity (List Tunnel)) :
    ∀ (i : Nat) (rest done : List TunnelChange) (tm : TunnelManager),
      StatesApplied m tm.tunnels done →
        StatesApplied m (handleTunnelStateChange env i rest tm).1.tunnels (done ++ rest)
  | _, [], done, _, h => by simpa using h
  | i, c :: rest, done, tm, h => by
    rw [handleTunnelStateChange_cons]
    simpa using
      handleTunnelStateChange_statesApplied m (i + 1) rest (done ++ [c]) _ (h.change (env i) c)

/-! ### Babel -/

/-- The babel commands of one change on a storage where `done` has been applied to `m`. -/
theorem StatesApplied.tunnelStateChange_babel {m tms : HashMap Identity (List Tunnel)}
    {done : List TunnelChange} (h : StatesApplied m tms done) (env : BwEnv) (c : TunnelChange) :
    (tunnelStateChange env c tms).2.filter Effect.isBabel =
      ((m.lookup c.identity).getD []).flatMap fun t =>
        (t.state.applyAll (actionsOf c.identity done)).babelCalls t.ifaceName c.action := by
  have hbabel : (((tms.lookup c.identity).getD []).flatMap fun t =>
      t.state.babelCalls t.ifaceName c.action).filter Effect.isBabel =
        ((tms.lookup c.identity).getD []).flatMap fun t =>
          t.state.babelCalls t.ifaceName c.action :=
    List.filter_eq_self.mpr fun e he => by
      obtain ⟨t, -, he⟩ := List.mem_flatMap.mp he
      exact babelCalls_isBabel _ _ _ e he
  have hpass :
      ((tunnelBwLimitUpdate env (tunnelStateChange env c tms).1).2).filter Effect.isBabel = [] :=
    List.filter_eq_nil_iff.mpr fun e he => by
      simp [Effect.isBabel_eq_false (tunnelBwLimitUpdate_isShaping _ _ e he)]
  rw [tunnelStateChange_snd, List.filter_append, hbabel, h.getD, List.flatMap_map]
  split
  · rw [hpass, List.append_nil]
  · rw [List.filter_nil, List.append_nil]

/-- The babel commands of a batch are those of the table. -/
theorem handleTunnelStateChange_babel (m : HashMap Identity (List Tunnel)) :
    ∀ (i : Nat) (rest done : List TunnelChange) (tm : TunnelManager),
      StatesApplied m tm.tunnels done →
        (handleTunnelStateChange env i rest tm).2.filter Effect.isBabel =
          batchBabelCalls m done rest
  | _, [], _, _, _ => rfl
  | i, c :: rest, done, tm, h => by
    rw [handleTunnelStateChange_cons, List.filter_append, h.tunnelStateChange_babel,
      handleTunnelStateChange_babel m (i + 1) rest (done ++ [c]) _ (h.change (env i) c)]
    rfl

/-! ### The last bandwidth pass -/

/-- If no tunnel of its identity moves its payment state, the change before the last left a
batch in which one did. -/
theorem PaymentMoves.of_append_singleton {m tms : HashMap Identity (List Tunnel)}
    {xs : List TunnelChange} {c : TunnelChange} (h : PaymentMoves m (xs ++ [c]))
    (happ : StatesApplied m tms xs)
    (hc : ∀ t ∈ (tms.lookup c.identity).getD [],
      (t.state.apply c.action).paymentState = t.state.paymentState) :
    PaymentMoves m xs := by
  obtain ⟨pre, c', post, heq, t, ht, hmv⟩ := h
  rcases List.eq_nil_or_concat post with rfl | ⟨L, b, rfl⟩
  · obtain ⟨rfl, hcc⟩ := List.append_inj' heq rfl
    obtain rfl : c = c' := List.singleton_inj.mp hcc
    exact absurd (hc _ (happ.getD c.identity ▸ List.mem_map_of_mem _ ht)) hmv
  · have heq' : xs ++ [c] = (pre ++ c' :: L) ++ [b] := by simpa using heq
    exact ⟨pre, c', L, (List.append_inj' heq' rfl).1, t, ht, hmv⟩

/-- The last bandwidth pass of a batch in which a payment state moves: after it come only babel
commands, and it read the interfaces and payment states the batch ends with. -/
theorem handleTunnelStateChange_lastPass (i : Nat) (tm : TunnelManager) (batch : List TunnelChange)
    (hmoves : PaymentMoves tm.tunnels batch) :
    ∃ j m pre post, (handleTunnelStateChange env i batch tm).2 =
        pre ++ (tunnelBwLimitUpdate (env j) m).2 ++ post ∧
      (∀ e ∈ post, e.isShaping = false) ∧
      (m.entries.flatMap (·.2)).map ifacePayment ~
        (handleTunnelStateChange env i batch tm).1.allTunnels.map ifacePayment := by
  induction batch using List.reverseRecOn with
  | nil =>
    obtain ⟨pre, c, post, h, -⟩ := hmoves
    simp at h
  | append_singleton xs c ih =>
    have happ := handleTunnelStateChange_statesApplied env tm.tunnels i xs [] tm (.nil _)
    rw [List.nil_append] at happ
    rw [handleTunnelStateChange_append, handleTunnelStateChange_singleton]
    generalize handleTunnelStateChange env i xs tm = r at happ ih ⊢
    dsimp only [TunnelManager.allTunnels] at ih ⊢
    by_cases hc : ∀ t ∈ (r.1.tunnels.lookup c.identity).getD [],
        (t.state.apply c.action).paymentState = t.state.paymentState
    · -- `c` moves no payment state: the last pass is one of `xs`, and `c` only commands babel
      obtain ⟨j, m, pre, post, heff, hpost, hperm⟩ := ih (hmoves.of_append_singleton happ hc)
      obtain ⟨hshape, hkeep⟩ :=
        tunnelStateChange_of_stays (env (i + xs.length)) c r.1.tunnels hc
      refine ⟨j, m, pre, post ++ _, by rw [heff, List.append_assoc], fun e he => ?_,
        hperm.trans hkeep.symm⟩
      rcases List.mem_append.mp he with he | he
      exacts [hpost e he, hshape e he]
    · -- `c` moves one: the last pass is its own
      push_neg at hc
      refine ⟨i + xs.length, _, r.2 ++ ((r.1.tunnels.lookup c.identity).getD []).flatMap
        (fun t => t.state.babelCalls t.ifaceName c.action), [], ?_, by simp, .refl _⟩
      rw [tunnelStateChange_of_moves _ c _ hc, List.append_nil, List.append_assoc]

/-! ### A pass in which every kernel call succeeds -/

theorem shapeTunnels_of_allOk {env : BwEnv} (h : env.AllOk) (bw : UInt32) :
    ∀ (n : Nat) (ts : List Tunnel),
      shapeTunnels env bw n ts = (.ok (), (ts.enumFrom n).flatMap fun p => shapeCall env bw p.1 p.2)
  | _, [] => rfl
  | n, t :: ts => by
    obtain ⟨⟨b, hb⟩, hs⟩ := h n
    have ih := shapeTunnels_of_allOk h bw (n + 1) ts
    rw [shapeTunnels, List.enumFrom_cons, List.flatMap_cons, hb]
    cases hp : t.state.paymentState <;> cases b <;> simp [hs, ih, shapeCall, hp, hb]

/-- A pass over `Overdue` tunnels only limits each of them to the budget. -/
theorem flatMap_shapeCall_of_overdue (env : BwEnv) (bw : UInt32) :
    ∀ (n : Nat) (ts : List Tunnel), (∀ t ∈ ts, t.state.paymentState = .overdue) →
      (ts.enumFrom n).flatMap (fun p => shapeCall env bw p.1 p.2) =
        ts.map fun t => .setClasslessLimit t.ifaceName bw true
  | _, [], _ => rfl
  | n, t :: ts, h => by
    rw [List.enumFrom_cons, List.flatMap_cons, List.map_cons,
      flatMap_shapeCall_of_overdue env bw (n + 1) ts fun u hu => h u (List.mem_cons_of_mem _ hu)]
    simp [shapeCall, h t (List.mem_cons_self _ _)]

/-- The `u16` count read back as a `u32`, below 65536. -/
theorem toUInt16_toUInt32_of_lt {k : Nat} (hk : k < 65536) :
    k.toUInt16.toUInt32 = UInt32.ofNat k := by
  apply UInt32.eq_of_toBitVec_eq
  apply BitVec.eq_of_toNat_eq
  simp [UInt16.toUInt32, UInt16.toNat_ofNat_of_lt hk, UInt32.ofNat, BitVec.toNat_ofNat]
  omega

/-- When every kernel call succeeds and fewer than 65536 tunnels are `Overdue`, a pass is the
shaping of §4.3, tunnel by tunnel, with the free tier divided by their number. -/
theorem tunnelBwLimitUpdate_of_allOk {env : BwEnv} (h : env.AllOk)
    (m : HashMap Identity (List Tunnel)) (hk : overdueCount (m.entries.flatMap (·.2)) < 65536) :
    (tunnelBwLimitUpdate env m).2 = (m.entries.flatMap (·.2)).enum.flatMap fun p =>
      shapeCall env
        (env.freeTierThroughput / UInt32.ofNat (overdueCount (m.entries.flatMap (·.2))))
        p.1 p.2 := by
  unfold tunnelBwLimitUpdate
  rw [shapeTunnels_of_allOk h, ← overdueCount]
  generalize m.entries.flatMap (·.2) = all at hk ⊢
  rcases Nat.eq_zero_or_pos (overdueCount all) with hk0 | hk0
  · -- no tunnel is `Overdue`, so the budget is never read
    refine List.flatMap_congr fun p hp => ?_
    have hpaid : p.2.state.paymentState = .paid := by
      have := List.filter_eq_nil_iff.mp (List.length_eq_zero.mp hk0) p.2
        (List.snd_mem_of_mem_enumFrom hp)
      cases hp : p.2.state.paymentState <;> simp_all
    unfold shapeCall
    rw [hpaid]
    rcases env.hasLimit p.1 with _ | _ | _ <;> rfl
  · have hpos : (overdueCount all).toUInt16 > 0 := by
      show (0 : UInt16).toNat < (Nat.toUInt16 _).toNat
      rw [UInt16.toNat_ofNat_of_lt hk]
      exact hk0
    rw [if_pos hpos, toUInt16_toUInt32_of_lt hk]
    rfl

theorem overdueCount_eq_of_perm {l₁ l₂ : List Tunnel}
    (h : l₁.map ifacePayment ~ l₂.map ifacePayment) :
    overdueCount l₁ = overdueCount l₂ := by
  have := h.countP_eq fun x => x.2 = .overdue
  simpa [overdueCount, List.countP_map, ← List.countP_eq_length_filter, Function.comp_def,
    ifacePayment] using this

end

/-- A batch leaves the tunnels of an identity it does not name as they were. -/
theorem handleTunnelStateChange_lookup_of_not_mem (env : Nat → BwEnv) (i : Nat)
    (batch : List TunnelChange) (tm : TunnelManager) {n : Identity}
    (hn : n ∉ batch.map (·.identity)) :
    (handleTunnelStateChange env i batch tm).1.tunnels.lookup n = tm.tunnels.lookup n := by
  have hnil : actionsOf n batch = [] := by
    simp only [actionsOf, List.map_eq_nil_iff, List.filter_eq_nil_iff, decide_eq_true_eq]
    exact fun c hc h => hn (List.mem_map.mpr ⟨c, hc, h⟩)
  rw [handleTunnelStateChange_statesApplied env tm.tunnels i batch [] tm (.nil _) n,
    List.nil_append, hnil]
  cases tm.tunnels.lookup n <;> simp [TunnelState.applyAll]

/-! ## The handler against §4.3 -/

/-- `Handler<TunnelStateChange>` against §4.3, for every storage and every batch. Each stored
tunnel keeps its fields but its state, which is the table applied to the batch's actions for its
identity, in order, so the identities the batch does not name keep their tunnels; membership
actions keep the payment state and payment actions the registration state; the free ports stay;
babel gets exactly the commands of the table. When a payment state moves and every kernel call
succeeds, the last bandwidth pass is followed by babel commands only, it read the interfaces and
payment states the batch ends with, and it is the shaping of §4.3 with the free tier divided by
the number `k` of `Overdue` tunnels, as long as `k` fits the `u16` count. -/
theorem tunnel_state_change_batch_law (env : Nat → BwEnv) (batch : List TunnelChange)
    (tm : TunnelManager) :
    let r := handleTunnelStateChange env 0 batch tm
    (∀ n, r.1.tunnels.lookup n = (tm.tunnels.lookup n).map (·.map fun t =>
      { t with state := t.state.applyAll (actionsOf n batch) })) ∧
    (∀ n, n ∉ batch.map (·.identity) → r.1.tunnels.lookup n = tm.tunnels.lookup n) ∧
    (∀ (s : TunnelState) (a : TunnelAction), a.isPayment = false →
      (s.apply a).paymentState = s.paymentState) ∧
    (∀ (s : TunnelState) (a : TunnelAction), a.isPayment = true →
      (s.apply a).registrationState = s.registrationState) ∧
    r.1.freePorts = tm.freePorts ∧
    r.2.filter Effect.isBabel = batchBabelCalls tm.tunnels [] batch ∧
    ((∀ j, (env j).AllOk) → PaymentMoves tm.tunnels batch →
      overdueCount r.1.allTunnels < 65536 →
      ∃ j m pre post, r.2 = pre ++ (tunnelBwLimitUpdate (env j) m).2 ++ post ∧
        (∀ e ∈ post, e.isShaping = false) ∧
        (m.entries.flatMap (·.2)).map ifacePayment ~ r.1.allTunnels.map ifacePayment ∧
        (tunnelBwLimitUpdate (env j) m).2 = (m.entries.flatMap (·.2)).enum.flatMap fun p =>
          shapeCall (env j)
            ((env j).freeTierThroughput / UInt32.ofNat (overdueCount r.1.allTunnels)) p.1 p.2) := by
  intro r
  refine ⟨by simpa using
      handleTunnelStateChange_statesApplied env tm.tunnels 0 batch [] tm (.nil _),
    fun n hn => handleTunnelStateChange_lookup_of_not_mem env 0 batch tm hn,
    fun s _ => s.apply_paymentState, fun s _ => s.apply_registrationState,
    handleTunnelStateChange_freePorts env 0 batch tm,
    handleTunnelStateChange_babel env tm.tunnels 0 batch [] tm (.nil _), fun henv hmoves hk => ?_⟩
  obtain ⟨j, m, pre, post, heff, hpost, hperm⟩ :=
    handleTunnelStateChange_lastPass env 0 tm batch hmoves
  have hcount := overdueCount_eq_of_perm hperm
  refine ⟨j, m, pre, post, heff, hpost, hperm, ?_⟩
  rw [← hcount]
  exact tunnelBwLimitUpdate_of_allOk (henv j) m (hcount ▸ hk)

/-- At `k = 65536` the `u16` count of `tunnel_bw_limit_update` wraps to `0`: one
`PaymentOverdue` on 65536 `Paid` tunnels, every kernel call succeeding, and the pass gives each
of them the whole free tier of 65536 where §4.3 gives `65536 / 65536 = 1`. -/
theorem overdue_count_wraps :
    let a : Identity := ⟨.v6 0xfd, 0, 0⟩
    let t : Tunnel :=
      ⟨.v6 1, "wg0", 4, 65533, ⟨60000, none, a⟩, 0, ⟨.paid, .registered⟩⟩
    let env : BwEnv := ⟨65536, fun _ => .ok false, fun _ => true⟩
    let tm : TunnelManager :=
      ⟨[], (∅ : HashMap Identity (List Tunnel)).insert a (List.replicate 65536 t)⟩
    let r := handleTunnelStateChange (fun _ => env) 0 [⟨a, .paymentOverdue⟩] tm
    env.AllOk ∧ PaymentMoves tm.tunnels [⟨a, .paymentOverdue⟩] ∧
      overdueCount r.1.allTunnels = 65536 ∧
      env.freeTierThroughput / UInt32.ofNat 65536 = 1 ∧
      r.2 = List.replicate 65536 (.setClasslessLimit "wg0" 65536 true) := by
  intro a t env tm r
  have henv : env.AllOk := fun _ => ⟨⟨false, rfl⟩, rfl⟩
  have ht : t ∈ (tm.tunnels.lookup a).getD [] := by
    rw [AList.lookup_insert, Option.getD_some]
    exact List.mem_replicate.mpr ⟨by decide, rfl⟩
  -- The literal is generalized so that no step unfolds a list of 65536 tunnels.
  have hmoves : PaymentMoves tm.tunnels [⟨a, .paymentOverdue⟩] :=
    ⟨[], _, [], rfl, t, ht, by decide⟩
  refine ⟨henv, hmoves, ?_, by decide, ?_⟩ <;> dsimp only [r, tm] at ht ⊢ <;>
    generalize hk : (65536 : Nat) = k at ht ⊢
  all_goals
    let t' : Tunnel := { t with state := ⟨.overdue, .registered⟩ }
    have hover : ∀ u ∈ List.replicate k t', u.state.paymentState = .overdue := fun u hu => by
      rw [(List.mem_replicate.mp hu).2]
    have hstore : (tunnelStateChange env ⟨a, .paymentOverdue⟩
        ((∅ : HashMap Identity (List Tunnel)).insert a (List.replicate k t))).1.entries.flatMap
          (·.2) = List.replicate k t' := by
      rw [tunnelStateChange_fst, AList.lookup_insert]
      simp only [AList.insert_entries, List.map_replicate, List.kerase_cons_eq, AList.empty_entries,
        List.kerase_nil, List.flatMap_cons, List.flatMap_nil, List.append_nil]
      rfl
    have hcount : overdueCount (List.replicate k t') = k := by
      rw [overdueCount, List.filter_eq_self.mpr fun u hu => by simp [hover u hu],
        List.length_replicate]
  · rw [handleTunnelStateChange_singleton]
    dsimp only [TunnelManager.allTunnels]
    rw [hstore, hcount]
  · have hku : k.toUInt16 = 0 := hk ▸ rfl
    have hb : t.state.babelCalls t.ifaceName .paymentOverdue = [] := rfl
    rw [handleTunnelStateChange_singleton, tunnelStateChange_of_moves _ _ _ ⟨t, ht, by decide⟩,
      AList.lookup_insert, Option.getD_some, List.flatMap_replicate, hb, List.flatten_replicate_nil,
      List.nil_append]
    dsimp only [tunnelBwLimitUpdate]
    rw [hstore, ← overdueCount, hcount, hku, if_neg (by decide), shapeTunnels_of_allOk henv,
      flatMap_shapeCall_of_overdue _ _ 0 _ hover, List.map_replicate]

end Rita
