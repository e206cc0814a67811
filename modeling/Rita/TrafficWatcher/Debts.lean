import Rita.TrafficWatcher.Watch

/-! # What a round of `watch` sends to `DebtKeeper`

The debts table is keyed by the identities of `identities`, which is keyed by mesh ip: it has one
entry per mesh ip of the neighbor list, for the last neighbor listed with that mesh ip
(`mem_initDebts_iff`). Each counter loop adds, to every entry, the deltas of the rows whose
interface belongs to that identity and whose destination is priced (`lookup_foldl_applyCounter`).
`watch_traffic` puts the two together for a whole round.

The traffic of a neighbor whose mesh ip a later neighbor shares has no entry to go to, and is
dropped, although the source says of that branch that it "should be impossible";
`watch_drops_shared_mesh_ip` runs a round where this happens, together with a `u32` price that
wraps. -/

namespace Rita

/-! ## The helper maps -/

theorem prepareHelperMaps_eq (neighbors : List Neighbor) :
    prepareHelperMaps neighbors =
      ((neighbors.map fun n => (n.identity.global.meshIp, n.identity.global)).foldl
          (fun m p => m.insert p.1 p.2) ∅,
        (neighbors.map fun n => (n.ifaceName, n.identity.global)).foldl
          (fun m p => m.insert p.1 p.2) ∅) := by
  unfold prepareHelperMaps
  generalize (∅ : HashMap IpAddr Identity) = m₁
  generalize (∅ : HashMap String Identity) = m₂
  induction neighbors generalizing m₁ m₂ with
  | nil => rfl
  | cons n ns ih => exact ih _ _

/-- `identities` maps a mesh ip to the identity of the last neighbor listed with it. -/
theorem lookup_identities (neighbors : List Neighbor) (ip : IpAddr) :
    (prepareHelperMaps neighbors).1.lookup ip =
      (neighbors.reverse.find? (·.identity.global.meshIp == ip)).map (·.identity.global) := by
  rw [prepareHelperMaps_eq, lookup_foldl_insert_empty, ← List.map_reverse, List.find?_map,
    Option.map_map]
  rfl

/-- `if_to_id` maps an interface to the identity of the last neighbor listed with it. -/
theorem lookup_ifToId (neighbors : List Neighbor) (iface : String) :
    (prepareHelperMaps neighbors).2.lookup iface =
      (neighbors.reverse.find? (·.ifaceName == iface)).map (·.identity.global) := by
  rw [prepareHelperMaps_eq, lookup_foldl_insert_empty, ← List.map_reverse, List.find?_map,
    Option.map_map]
  rfl

/-- `identities` files each identity under its own mesh ip. -/
theorem meshIp_of_lookup_identities {neighbors : List Neighbor} {ip : IpAddr} {id : Identity}
    (h : (prepareHelperMaps neighbors).1.lookup ip = some id) : id.meshIp = ip := by
  rw [lookup_identities, Option.map_eq_some'] at h
  obtain ⟨n, hn, rfl⟩ := h
  simpa using List.find?_some hn

/-! ## The debts table -/

/-- The delta that one counter row adds to the debt of `id`: the row's delta when its
destination is priced and its interface belongs to `id`, and `0` otherwise. -/
def rowDelta (destinations : HashMap IpAddr Int) (ifToId : HashMap String Identity)
    (delta : Int → UInt64 → Int) (id : Identity) (row : Σ _ : IpAddr × String, UInt64) : Int :=
  match destinations.lookup row.1.1, ifToId.lookup row.1.2 with
  | some dest, some i => if i = id then delta dest row.2 else 0
  | _, _ => 0

/-- Every amount of a debts table is an `i128`: its own wrap. -/
def DebtsWrapped (debts : HashMap Identity Int) : Prop :=
  ∀ id d, debts.lookup id = some d → wrapI128 d = d

section
variable {destinations : HashMap IpAddr Int} {ifToId : HashMap String Identity}
  {delta : Int → UInt64 → Int} {debts : HashMap Identity Int}

theorem lookup_applyCounter (hw : DebtsWrapped debts) (row : Σ _ : IpAddr × String, UInt64)
    (id : Identity) :
    (applyCounter destinations ifToId delta debts row).lookup id =
      (debts.lookup id).map fun d => wrapI128 (d + rowDelta destinations ifToId delta id row) := by
  -- a row that does not count for `id` leaves its amount, which is already wrapped
  have hkeep : debts.lookup id = (debts.lookup id).map fun d => wrapI128 (d + 0) := by
    cases h : debts.lookup id with
    | none => rfl
    | some d => simp [hw id d h]
  unfold applyCounter rowDelta
  cases destinations.lookup row.1.1 with
  | none => exact hkeep
  | some dest =>
    cases ifToId.lookup row.1.2 with
    | none => exact hkeep
    | some i =>
      by_cases h : i = id
      · subst h
        cases hdebt : debts.lookup i <;> simp [hdebt, AList.lookup_insert]
      · dsimp only
        rw [if_neg h]
        cases hdebt : debts.lookup i <;>
          simp only [hdebt, AList.lookup_insert_ne (Ne.symm h)] <;> exact hkeep

theorem applyCounter_wrapped (hw : DebtsWrapped debts) (row : Σ _ : IpAddr × String, UInt64) :
    DebtsWrapped (applyCounter destinations ifToId delta debts row) := fun id d h => by
  rw [lookup_applyCounter hw, Option.map_eq_some'] at h
  obtain ⟨_, -, rfl⟩ := h
  exact wrapI128_wrapI128 _

theorem foldl_applyCounter_wrapped :
    ∀ (rows : List (Σ _ : IpAddr × String, UInt64)) {debts : HashMap Identity Int},
      DebtsWrapped debts → DebtsWrapped (rows.foldl (applyCounter destinations ifToId delta) debts)
  | [], _, hw => hw
  | row :: rows, _, hw => foldl_applyCounter_wrapped rows (applyCounter_wrapped hw row)

/-- A counter loop adds to each existing entry the deltas of its rows, an `i128` sum, and creates
no entry. -/
theorem lookup_foldl_applyCounter (rows : List (Σ _ : IpAddr × String, UInt64))
    (hw : DebtsWrapped debts) (id : Identity) :
    (rows.foldl (applyCounter destinations ifToId delta) debts).lookup id =
      (debts.lookup id).map fun d =>
        wrapI128 (d + (rows.map (rowDelta destinations ifToId delta id)).sum) := by
  induction rows generalizing debts with
  | nil =>
    cases h : debts.lookup id with
    | none => simpa using h
    | some d => simp [h, hw id d h]
  | cons row rows ih =>
    rw [List.foldl_cons, ih (applyCounter_wrapped hw row), lookup_applyCounter hw]
    cases debts.lookup id <;> simp [wrapI128_wrapI128_add, Int.add_assoc]

end

/-- The debts table starts at `0` for the identities of `identities`, and nowhere else. -/
theorem lookup_initDebts (identities : HashMap IpAddr Identity) (id : Identity) :
    (initDebts identities).lookup id =
      if id ∈ identities.entries.map (·.2) then some 0 else none := by
  have h : initDebts identities = (identities.entries.map fun e => (e.2, (0 : Int))).foldl
      (fun m p => m.insert p.1 p.2) ∅ := by
    rw [initDebts, List.foldl_map]
  rw [h, lookup_foldl_insert_empty, ← List.map_reverse, List.find?_map, Option.map_map]
  split
  · rename_i hmem
    obtain ⟨e, he, rfl⟩ := List.mem_map.mp hmem
    cases hf : identities.entries.reverse.find? _ with
    | none => simp only [List.find?_eq_none] at hf; exact absurd he (by simpa using hf e)
    | some _ => rfl
  · rename_i hmem
    cases hf : identities.entries.reverse.find? _ with
    | none => rfl
    | some e =>
      have := List.find?_some hf
      simp only [Function.comp_apply, beq_iff_eq] at this
      exact absurd (List.mem_map.mpr ⟨e, List.mem_reverse.mp (List.mem_of_find?_eq_some hf),
        this⟩) hmem

theorem initDebts_wrapped (identities : HashMap IpAddr Identity) :
    DebtsWrapped (initDebts identities) := fun id d h => by
  rw [lookup_initDebts] at h
  split at h <;> cases h
  rfl

/-- The identities that get a debts entry: those that the last neighbor listed with their mesh
ip carries. -/
theorem mem_initDebts_iff (neighbors : List Neighbor) (id : Identity) :
    id ∈ (prepareHelperMaps neighbors).1.entries.map (·.2) ↔
      (prepareHelperMaps neighbors).1.lookup id.meshIp = some id := by
  constructor
  · intro h
    obtain ⟨e, he, rfl⟩ := List.mem_map.mp h
    have hl : (prepareHelperMaps neighbors).1.lookup e.1 = some e.2 := AList.mem_lookup_iff.mpr he
    rwa [meshIp_of_lookup_identities hl]
  · intro h
    exact List.mem_map.mpr ⟨⟨id.meshIp, id⟩, AList.mem_lookup_iff.mp h, rfl⟩

/-- After both counter loops, an identity of `identities` owes the deltas of its input rows and
of its output rows, an `i128` sum; no other identity has an entry. -/
theorem lookup_collateDebts (identities : HashMap IpAddr Identity)
    (ifToId : HashMap String Identity) (destinations : HashMap IpAddr Int) (localFee : UInt32)
    (input output : Counters) (id : Identity) :
    (collateDebts identities ifToId destinations localFee input output).lookup id =
      if id ∈ identities.entries.map (·.2) then
        some (wrapI128 ((input.entries.map (rowDelta destinations ifToId inputDelta id)).sum +
          (output.entries.map (rowDelta destinations ifToId (outputDelta localFee) id)).sum))
      else none := by
  have hw := initDebts_wrapped identities
  rw [collateDebts, lookup_foldl_applyCounter _ (foldl_applyCounter_wrapped _ hw),
    lookup_foldl_applyCounter _ hw, lookup_initDebts]
  split <;> simp [wrapI128_wrapI128_add]

/-! ## A whole round -/

theorem getBabelInfo_eq_ok {settings : WatchSettings} {routes : List Route}
    {destinations : HashMap IpAddr Int} {localFee : UInt32}
    (h : getBabelInfo settings routes = .ok (destinations, localFee)) :
    localFee = settings.localFee ∧
      ∃ ip, settings.meshIp = some ip ∧ destinations = (routes.foldl (addRoute settings) ∅).insert ip 0 := by
  unfold getBabelInfo at h
  cases hm : settings.meshIp with
  | none => simp [hm] at h
  | some ip =>
    simp only [hm, Except.ok.injEq, Prod.mk.injEq] at h
    exact ⟨h.2.symm, ip, rfl, h.1.symm⟩

/-- A round that returns `Ok` read its prices and both counter totals, and sent the usage record
and the debts table of those. -/
theorem watch_eq_ok {settings : WatchSettings} {readCounters : FilterTarget → Except String Counters}
    {routes : List Route} {neighbors : List Neighbor} {r : UpdateUsage × TrafficUpdate}
    (h : watch settings readCounters routes neighbors = .ok r) :
    ∃ destinations input output, getBabelInfo settings routes = .ok (destinations, settings.localFee) ∧
      getInputCounters readCounters = .ok input ∧ getOutputCounters readCounters = .ok output ∧
      r = (updateUsage input output settings.localFee,
        ⟨(collateDebts (prepareHelperMaps neighbors).1 (prepareHelperMaps neighbors).2 destinations
          settings.localFee input output).entries.map fun e => ⟨e.1, e.2⟩⟩) := by
  unfold watch at h
  cases hb : getBabelInfo settings routes with
  | error e => simp [hb, bind, Except.bind] at h
  | ok p =>
    obtain ⟨destinations, localFee⟩ := p
    obtain ⟨rfl, -⟩ := getBabelInfo_eq_ok hb
    cases hi : getInputCounters readCounters with
    | error e => simp [hb, hi, bind, Except.bind] at h
    | ok input =>
      cases ho : getOutputCounters readCounters with
      | error e => simp [hb, hi, ho, bind, Except.bind] at h
      | ok output =>
        simp only [hb, hi, ho, bind, Except.bind, pure, Except.pure, Except.ok.injEq] at h
        exact ⟨destinations, input, output, rfl, rfl, rfl, h.symm⟩

/-- **What a round sends to `DebtKeeper`.** One entry per identity that the last neighbor listed
with its mesh ip carries, and no other; the amount of identity `id` is the `i128` sum of the
deltas of the counter rows on interfaces of `id` toward priced destinations. -/
theorem watch_traffic {settings : WatchSettings}
    {readCounters : FilterTarget → Except String Counters} {routes : List Route}
    {neighbors : List Neighbor} {usage : UpdateUsage} {update : TrafficUpdate}
    (h : watch settings readCounters routes neighbors = .ok (usage, update)) :
    ∃ destinations input output, getBabelInfo settings routes = .ok (destinations, settings.localFee) ∧
      getInputCounters readCounters = .ok input ∧ getOutputCounters readCounters = .ok output ∧
      (update.traffic.map (·.from)).Nodup ∧
      ∀ id amount, ⟨id, amount⟩ ∈ update.traffic ↔
        (prepareHelperMaps neighbors).1.lookup id.meshIp = some id ∧
        amount = wrapI128 ((input.entries.map
            (rowDelta destinations (prepareHelperMaps neighbors).2 inputDelta id)).sum +
          (output.entries.map (rowDelta destinations (prepareHelperMaps neighbors).2
            (outputDelta settings.localFee) id)).sum) := by
  obtain ⟨destinations, input, output, hb, hi, ho, hr⟩ := watch_eq_ok h
  simp only [Prod.mk.injEq] at hr
  obtain ⟨-, rfl⟩ := hr
  refine ⟨destinations, input, output, hb, hi, ho, ?_, fun id amount => ?_⟩
  · simpa [List.map_map, Function.comp_def] using AList.keys_nodup _
  · rw [← mem_initDebts_iff]
    simp only [List.mem_map]
    constructor
    · rintro ⟨e, he, heq⟩
      simp only [Traffic.mk.injEq] at heq
      obtain ⟨rfl, rfl⟩ := heq
      have hl := AList.mem_lookup_iff.mpr he
      rw [lookup_collateDebts] at hl
      split at hl
      · rename_i hmem
        exact ⟨List.mem_map.mp hmem, (Option.some.inj hl).symm⟩
      · cases hl
    · rintro ⟨hmem, rfl⟩
      refine ⟨⟨id, _⟩, AList.mem_lookup_iff.mp ?_, rfl⟩
      rw [lookup_collateDebts, if_pos (List.mem_map.mpr hmem)]
      exact rfl

/-- Two neighbors with one mesh ip, and a route priced at `max_fee = 2^32 - 1` with
`local_fee = 1`: the first neighbor gets no entry, and the second owes `0` for a byte toward a
destination whose `u32` price `2^32` wrapped to `0`. -/
theorem watch_drops_shared_mesh_ip :
    watch ⟨1, 4294967295, some (.v6 99)⟩
        (fun target => match target with
          | .input => .ok (((∅ : Counters).insert (.v6 10, "wg0") 1).insert (.v6 10, "wg1") 1)
          | _ => .ok ∅)
        [⟨.v6 10 128, true, 0, 0, 4294967295⟩]
        [⟨⟨0, none, ⟨.v6 1, 1, 1⟩⟩, "wg0", .v6 1⟩, ⟨⟨0, none, ⟨.v6 1, 2, 2⟩⟩, "wg1", .v6 1⟩] =
      .ok (⟨.relay, 0, 2, 1⟩, ⟨[⟨⟨.v6 1, 2, 2⟩, 0⟩]⟩) := by
  rfl

end Rita
