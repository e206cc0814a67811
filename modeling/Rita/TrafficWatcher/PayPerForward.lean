import Rita.TrafficWatcher.Debts
import Mathlib.Algebra.BigOperators.Ring
import Mathlib.Algebra.Order.BigOperators.Group.Finset
import Mathlib.Tactic.Linarith

/-! # Pay per forward across two neighbors

Two adjacent nodes each run a round of `watch`, each with the other in its neighbor list. The
sender acknowledges, on egress, its price toward the destination less its own fee, and the
receiver charges, on ingress, its own price; when the receiver counts no more bytes than the
sender and charges no more than the sender acknowledges, what the two amounts add up to is at
least `0`, and packet loss is overpayment.

`TrafficUpdate.amountFor` is what an update gives an identity, `0` when it has no entry, as for
`DebtKeeper` an identity without an entry has no change; `watch_amountFor` is that amount after a
round, an `i128` sum. Every price `get_babel_info` reads is a `u32` and every count a `u64`, so a
row's delta is below `2^96` and no `i128` operation of a round wraps on counter tables of fewer
than `2^31` rows in all. Then the amount, regrouped by destination (`watch_amountFor_eq_sum`),
pairs each byte one node sent toward `d` with the bytes the other counted toward `d`, and the law
holds destination by destination: `pay_per_forward_nonneg`. It asks that each node files the
other under its own identity. A neighbor that shares its mesh ip with a later neighbor in the
list has no entry, so the sender acknowledges nothing for the bytes it forwarded to it, while the
receiver charges them (`shared_mesh_ip_breaks_pay_per_forward`). -/

namespace Rita

/-- What an update gives identity `n`: the amount of its entry, `0` if it has none. -/
def TrafficUpdate.amountFor (update : TrafficUpdate) (n : Identity) : Int :=
  ((update.traffic.find? (·.«from» = n)).map (·.amount)).getD 0

theorem TrafficUpdate.amountFor_of_mem {update : TrafficUpdate} {n : Identity} {a : Int}
    (hnd : (update.traffic.map (·.«from»)).Nodup) (h : ⟨n, a⟩ ∈ update.traffic) :
    update.amountFor n = a := by
  unfold TrafficUpdate.amountFor
  cases hf : update.traffic.find? (·.«from» = n) with
  | none => simpa using List.find?_eq_none.mp hf _ h
  | some t =>
    have ht : t.«from» = n := by simpa using List.find?_some hf
    have heq := List.inj_on_of_nodup_map hnd (List.mem_of_find?_eq_some hf) h ht
    rw [heq]
    rfl

theorem TrafficUpdate.amountFor_of_not_mem {update : TrafficUpdate} {n : Identity}
    (h : ∀ a, ⟨n, a⟩ ∉ update.traffic) : update.amountFor n = 0 := by
  unfold TrafficUpdate.amountFor
  cases hf : update.traffic.find? (·.«from» = n) with
  | none => rfl
  | some t =>
    have ht : t.«from» = n := by simpa using List.find?_some hf
    exact absurd (ht ▸ List.mem_of_find?_eq_some hf) (h t.amount)

/-- The amount a round gives a neighbor: the `i128` sum of the deltas of its rows if the last
neighbor listed with its mesh ip carries its identity, and `0` otherwise. -/
theorem watch_amountFor {settings : WatchSettings}
    {readCounters : FilterTarget → Except String Counters} {routes : List Route}
    {neighbors : List Neighbor} {usage : UpdateUsage} {update : TrafficUpdate}
    (h : watch settings readCounters routes neighbors = .ok (usage, update)) (n : Identity) :
    ∃ destinations input output, getBabelInfo settings routes = .ok (destinations, settings.localFee) ∧
      getInputCounters readCounters = .ok input ∧ getOutputCounters readCounters = .ok output ∧
      update.amountFor n =
        if (prepareHelperMaps neighbors).1.lookup n.meshIp = some n then
          wrapI128 ((input.entries.map
              (rowDelta destinations (prepareHelperMaps neighbors).2 inputDelta n)).sum +
            (output.entries.map (rowDelta destinations (prepareHelperMaps neighbors).2
              (outputDelta settings.localFee) n)).sum)
        else 0 := by
  obtain ⟨destinations, input, output, hb, hi, ho, hnd, hmem⟩ := watch_traffic h
  refine ⟨destinations, input, output, hb, hi, ho, ?_⟩
  split
  · exact TrafficUpdate.amountFor_of_mem hnd ((hmem n _).mpr ⟨‹_›, rfl⟩)
  · exact TrafficUpdate.amountFor_of_not_mem fun a ha => ‹¬_› ((hmem n a).mp ha).1

/-! ## Per destination -/

/-- Every price of a destinations table is a `u32`. -/
def PricesU32 (destinations : HashMap IpAddr Int) : Prop :=
  ∀ d p, destinations.lookup d = some p → 0 ≤ p ∧ p < 2 ^ 32

theorem PricesU32.insert {m : HashMap IpAddr Int} {k : IpAddr} {v : Int} (hm : PricesU32 m)
    (hv : 0 ≤ v ∧ v < 2 ^ 32) : PricesU32 (m.insert k v) := by
  intro d p hp
  by_cases hd : d = k
  · subst hd
    rw [AList.lookup_insert, Option.some.injEq] at hp
    exact hp ▸ hv
  · rw [AList.lookup_insert_ne hd] at hp
    exact hm d p hp

theorem getBabelInfo_pricesU32 {settings : WatchSettings} {routes : List Route}
    {destinations : HashMap IpAddr Int} {localFee : UInt32}
    (h : getBabelInfo settings routes = .ok (destinations, localFee)) : PricesU32 destinations := by
  have hroutes : ∀ (rs : List Route) (m : HashMap IpAddr Int), PricesU32 m →
      PricesU32 (rs.foldl (addRoute settings) m) := by
    intro rs
    induction rs with
    | nil => exact fun _ h => h
    | cons r rs ih =>
      refine fun m hm => ih _ ?_
      unfold addRoute
      split
      · split
        · refine hm.insert ⟨Int.natCast_nonneg _, ?_⟩
          have := UInt32.toNat_lt_size ((if r.price > settings.maxFee then settings.maxFee
            else r.price) + settings.localFee)
          simp only [UInt32.size] at this
          omega
        · exact hm
      · exact hm
  obtain ⟨-, ip, -, rfl⟩ := getBabelInfo_eq_ok h
  exact (hroutes routes ∅ fun _ _ h => by cases h).insert ⟨le_rfl, by norm_num⟩

theorem rowDelta_congr {destinations : HashMap IpAddr Int} {ifToId : HashMap String Identity}
    {delta delta' : Int → UInt64 → Int} (n : Identity)
    (h : ∀ d p, destinations.lookup d = some p → ∀ b, delta p b = delta' p b) :
    rowDelta destinations ifToId delta n = rowDelta destinations ifToId delta' n := by
  funext row
  unfold rowDelta
  cases hd : destinations.lookup row.1.1 with
  | none => rfl
  | some p => cases ifToId.lookup row.1.2 <;> simp only [h row.1.1 p hd]

/-- On a `u32` price and a `u64` count, the products of both counter loops are below `2^96`, and
no `i128` operation of a row wraps. -/
theorem delta_eq_of_u32 {p : Int} (h₀ : 0 ≤ p) (h₁ : p < 2 ^ 32) (localFee : UInt32) (b : UInt64) :
    inputDelta p b = -p * b.toNat ∧ outputDelta localFee p b = (p - localFee.toNat) * b.toNat ∧
      -2 ^ 96 ≤ -p * b.toNat ∧ -p * b.toNat ≤ 2 ^ 96 ∧
      -2 ^ 96 ≤ (p - localFee.toNat) * b.toNat ∧ (p - localFee.toNat) * b.toNat ≤ 2 ^ 96 := by
  have hb : (b.toNat : Int) < 2 ^ 64 := by
    have := b.toNat_lt_size
    simp only [UInt64.size] at this
    omega
  have hf : (localFee.toNat : Int) < 2 ^ 32 := by
    have := localFee.toNat_lt_size
    simp only [UInt32.size] at this
    omega
  have hb₀ : (0 : Int) ≤ b.toNat := Int.natCast_nonneg _
  have hf₀ : (0 : Int) ≤ localFee.toNat := Int.natCast_nonneg _
  have hin₁ : p * b.toNat ≤ 2 ^ 32 * b.toNat := mul_le_mul_of_nonneg_right h₁.le hb₀
  have hin₂ : 0 ≤ p * b.toNat := mul_nonneg h₀ hb₀
  have hout₁ : (p - localFee.toNat) * b.toNat ≤ 2 ^ 32 * b.toNat :=
    mul_le_mul_of_nonneg_right (by omega) hb₀
  have hout₂ : -2 ^ 32 * (b.toNat : Int) ≤ (p - localFee.toNat) * b.toNat :=
    mul_le_mul_of_nonneg_right (by omega) hb₀
  have hneg : -p * (b.toNat : Int) = -(p * b.toNat) := neg_mul _ _
  refine ⟨?_, ?_, by omega, by omega, by omega, by omega⟩
  · rw [inputDelta, wrapI128_of_mem (by omega) (by omega), neg_mul]
  · rw [outputDelta, @wrapI128_of_mem (p - localFee.toNat) (by omega) (by omega),
      wrapI128_of_mem (by omega) (by omega)]

theorem sum_mem_of_bounded {α : Type} (f : α → Int) :
    ∀ l : List α, (∀ a ∈ l, -2 ^ 96 ≤ f a ∧ f a ≤ 2 ^ 96) →
      -((l.length : Int) * 2 ^ 96) ≤ (l.map f).sum ∧ (l.map f).sum ≤ l.length * 2 ^ 96
  | [], _ => by simp
  | a :: l, h => by
    have ha := h a (List.mem_cons_self _ _)
    have ih := sum_mem_of_bounded f l fun b hb => h b (List.mem_cons_of_mem _ hb)
    simp only [List.map_cons, List.sum_cons, List.length_cons, Nat.cast_succ]
    omega

theorem rowDelta_mem {destinations : HashMap IpAddr Int} {ifToId : HashMap String Identity}
    {delta : Int → UInt64 → Int} {n : Identity}
    (h : ∀ d p, destinations.lookup d = some p → ∀ b, -2 ^ 96 ≤ delta p b ∧ delta p b ≤ 2 ^ 96)
    (row : Σ _ : IpAddr × String, UInt64) :
    -2 ^ 96 ≤ rowDelta destinations ifToId delta n row ∧
      rowDelta destinations ifToId delta n row ≤ 2 ^ 96 := by
  unfold rowDelta
  cases hd : destinations.lookup row.1.1 with
  | none => norm_num
  | some p =>
    cases ifToId.lookup row.1.2 with
    | none => norm_num
    | some i =>
      dsimp only
      split
      · exact h row.1.1 p hd row.2
      · norm_num

/-- The bytes a counter table counts toward `d` on the interfaces that `ifToId` gives `n`. -/
def bytesToward (ifToId : HashMap String Identity) (n : Identity) (counters : Counters)
    (d : IpAddr) : Nat :=
  (counters.entries.map fun r => if r.1.1 = d ∧ ifToId.lookup r.1.2 = some n then r.2.toNat else 0).sum

theorem bytesToward_insert_empty_of_ne {ifToId : HashMap String Identity} {n : Identity}
    {key : IpAddr × String} {b : UInt64} {d : IpAddr} (hd : key.1 ≠ d) :
    bytesToward ifToId n ((∅ : Counters).insert key b) d = 0 := by
  simp [bytesToward, AList.insert_entries, hd]

theorem sum_map_finset_sum {α β : Type} (l : List α) (T : Finset β) (F : α → β → Int) :
    (l.map fun a => ∑ q ∈ T, F a q).sum = ∑ q ∈ T, (l.map fun a => F a q).sum := by
  induction l with
  | nil => simp
  | cons a l ih => simp [ih, Finset.sum_add_distrib]

/-- A counter loop, destination by destination: when each byte toward a priced destination
counts `perByte` of its price, the deltas of a table's rows for `n` add up, over any set `T` of
destinations holding those of the rows, to the bytes toward each `d` at `perByte` of `d`'s price. -/
theorem sum_rowDelta_eq_sum_toward {destinations : HashMap IpAddr Int}
    {ifToId : HashMap String Identity} {n : Identity} (perByte : Int → Int) (counters : Counters)
    {T : Finset IpAddr} (hT : ∀ r ∈ counters.entries, r.1.1 ∈ T) :
    (counters.entries.map (rowDelta destinations ifToId (fun p b => perByte p * b.toNat) n)).sum =
      ∑ d ∈ T, ((destinations.lookup d).map fun p => perByte p * bytesToward ifToId n counters d).getD 0 := by
  have hrow : ∀ r ∈ counters.entries,
      rowDelta destinations ifToId (fun p b => perByte p * b.toNat) n r =
        ∑ d ∈ T, ((destinations.lookup d).map fun p =>
          perByte p * ((if r.1.1 = d ∧ ifToId.lookup r.1.2 = some n then r.2.toNat else 0 : Nat) : Int)).getD 0 := by
    intro r hr
    rw [Finset.sum_eq_single_of_mem r.1.1 (hT r hr) fun d _ hd => by
      cases destinations.lookup d <;> simp [Ne.symm hd]]
    unfold rowDelta
    cases destinations.lookup r.1.1 with
    | none => rfl
    | some p =>
      cases hi : ifToId.lookup r.1.2 with
      | none => simp
      | some i => by_cases h : i = n <;> simp [h]
  rw [List.map_congr_left hrow, sum_map_finset_sum]
  refine Finset.sum_congr rfl fun d _ => ?_
  unfold bytesToward
  cases destinations.lookup d with
  | none => simp
  | some p => simp [← List.sum_map_mul_left, Nat.cast_list_sum, List.map_map, Function.comp_def, mul_ite]

/-- **A round's amount, destination by destination.** On counter tables of fewer than `2^31`
rows in all, when the last neighbor listed with `n`'s mesh ip carries `n`, its amount is, summed
over the destinations `d`, its price of `d` times what it sent toward `d` less its price of `d`,
after its own fee, times what it forwarded there: no `i128` operation wraps. -/
theorem watch_amountFor_eq_sum {settings : WatchSettings}
    {readCounters : FilterTarget → Except String Counters} {routes : List Route}
    {neighbors : List Neighbor} {usage : UpdateUsage} {update : TrafficUpdate}
    {destinations : HashMap IpAddr Int} {input output : Counters} {n : Identity}
    (h : watch settings readCounters routes neighbors = .ok (usage, update))
    (hd : getBabelInfo settings routes = .ok (destinations, settings.localFee))
    (hi : getInputCounters readCounters = .ok input) (ho : getOutputCounters readCounters = .ok output)
    (hrows : input.entries.length + output.entries.length < 2 ^ 31)
    (hn : (prepareHelperMaps neighbors).1.lookup n.meshIp = some n) {T : Finset IpAddr}
    (hT : ∀ r ∈ input.entries ++ output.entries, r.1.1 ∈ T) :
    update.amountFor n = ∑ d ∈ T,
      (((destinations.lookup d).map fun p : Int =>
          -p * bytesToward (prepareHelperMaps neighbors).2 n input d).getD 0 +
        ((destinations.lookup d).map fun p : Int =>
          (p - settings.localFee.toNat) * bytesToward (prepareHelperMaps neighbors).2 n output d).getD 0) := by
  obtain ⟨destinations', input', output', hd', hi', ho', heq⟩ := watch_amountFor h n
  obtain ⟨rfl, -⟩ := Prod.mk.inj (Except.ok.inj (hd'.symm.trans hd))
  cases Except.ok.inj (hi'.symm.trans hi)
  cases Except.ok.inj (ho'.symm.trans ho)
  have hp := getBabelInfo_pricesU32 hd
  -- on `u32` prices the deltas are the plain products, each below `2^96`
  have hdel := fun d p hdp b => delta_eq_of_u32 (hp d p hdp).1 (hp d p hdp).2 settings.localFee b
  have hin := @rowDelta_congr _ (prepareHelperMaps neighbors).2 _ _ n fun d p hdp b =>
    (hdel d p hdp b).1
  have hout := @rowDelta_congr _ (prepareHelperMaps neighbors).2 _ _ n fun d p hdp b =>
    (hdel d p hdp b).2.1
  have bin := sum_mem_of_bounded (rowDelta _ (prepareHelperMaps neighbors).2
      (fun p b => -p * (b.toNat : Int)) n) input.entries fun r _ =>
    rowDelta_mem (fun d p hdp b => ⟨(hdel d p hdp b).2.2.1, (hdel d p hdp b).2.2.2.1⟩) r
  have bout := sum_mem_of_bounded (rowDelta _ (prepareHelperMaps neighbors).2
      (fun p b => (p - settings.localFee.toNat) * (b.toNat : Int)) n) output.entries fun r _ =>
    rowDelta_mem (fun d p hdp b => ⟨(hdel d p hdp b).2.2.2.2.1, (hdel d p hdp b).2.2.2.2.2⟩) r
  rw [heq, if_pos hn, hin, hout, wrapI128_of_mem (by omega) (by omega),
    sum_rowDelta_eq_sum_toward (fun p => -p) _ fun r hr => hT r (List.mem_append_left _ hr),
    sum_rowDelta_eq_sum_toward (fun p => p - settings.localFee.toNat) _
      fun r hr => hT r (List.mem_append_right _ hr), ← Finset.sum_add_distrib]

/-- One direction at one destination: when the receiver counts no more bytes than the sender, and
the sender prices what it sent at least at the receiver's price after its own fee, what the sender
acknowledges covers what the receiver charges. -/
theorem forward_nonneg {priceS priceR : Option Int} {fee : Int} {sent recv : Nat}
    (hrecv : recv ≤ sent)
    (hprice : 0 < sent → ∃ ps pr, priceS = some ps ∧ priceR = some pr ∧ 0 ≤ pr ∧ pr ≤ ps - fee) :
    0 ≤ (priceS.map fun p : Int => (p - fee) * sent).getD 0 + (priceR.map fun p : Int => -p * recv).getD 0 := by
  rcases Nat.eq_zero_or_pos sent with rfl | hpos
  · obtain rfl := Nat.le_zero.mp hrecv
    cases priceS <;> cases priceR <;> simp
  · obtain ⟨ps, pr, rfl, rfl, hpr, hle⟩ := hprice hpos
    have hr : (recv : Int) ≤ sent := Int.ofNat_le.mpr hrecv
    simp only [Option.map_some', Option.getD_some]
    nlinarith [mul_le_mul_of_nonneg_left hr hpr, mul_le_mul_of_nonneg_right hle (Int.natCast_nonneg sent)]

section TwoNodes

variable {sA sB : WatchSettings} {readA readB : FilterTarget → Except String Counters}
  {routesA routesB : List Route} {neighborsA neighborsB : List Neighbor}
  {usageA usageB : UpdateUsage} {updateA updateB : TrafficUpdate}
  {destA destB : HashMap IpAddr Int} {inA outA inB outB : Counters} {idA idB : Identity}
  (hA : watch sA readA routesA neighborsA = .ok (usageA, updateA))
  (hB : watch sB readB routesB neighborsB = .ok (usageB, updateB))
  (hdA : getBabelInfo sA routesA = .ok (destA, sA.localFee))
  (hdB : getBabelInfo sB routesB = .ok (destB, sB.localFee))
  (hiA : getInputCounters readA = .ok inA) (hoA : getOutputCounters readA = .ok outA)
  (hiB : getInputCounters readB = .ok inB) (hoB : getOutputCounters readB = .ok outB)
  (hrowsA : inA.entries.length + outA.entries.length < 2 ^ 31)
  (hrowsB : inB.entries.length + outB.entries.length < 2 ^ 31)
  (hidB : (prepareHelperMaps neighborsA).1.lookup idB.meshIp = some idB)
  (hidA : (prepareHelperMaps neighborsB).1.lookup idA.meshIp = some idA)
include hA hB hdA hdB hiA hoA hiB hoB hrowsA hrowsB hidB hidA

/-- What `A`'s round gives `B` and `B`'s gives `A`, destination by destination: at each `d`,
what `A` acknowledges for the bytes it forwarded to `B` with what `B` charges for the bytes it
counted in from `A`, and the other way round. -/
theorem pair_amountFor_eq_sum :
    updateA.amountFor idB + updateB.amountFor idA =
      ∑ d ∈ ((inA.entries ++ outA.entries ++ inB.entries ++ outB.entries).map (·.1.1)).toFinset,
        ((((destA.lookup d).map fun p : Int =>
            (p - sA.localFee.toNat) * bytesToward (prepareHelperMaps neighborsA).2 idB outA d).getD 0 +
          ((destB.lookup d).map fun p : Int =>
            -p * bytesToward (prepareHelperMaps neighborsB).2 idA inB d).getD 0) +
        (((destB.lookup d).map fun p : Int =>
            (p - sB.localFee.toNat) * bytesToward (prepareHelperMaps neighborsB).2 idA outB d).getD 0 +
          ((destA.lookup d).map fun p : Int =>
            -p * bytesToward (prepareHelperMaps neighborsA).2 idB inA d).getD 0)) := by
  have hT : ∀ r ∈ inA.entries ++ outA.entries ++ inB.entries ++ outB.entries,
      r.1.1 ∈ ((inA.entries ++ outA.entries ++ inB.entries ++ outB.entries).map (·.1.1)).toFinset :=
    fun r hr => List.mem_toFinset.mpr (List.mem_map_of_mem _ hr)
  rw [watch_amountFor_eq_sum hA hdA hiA hoA hrowsA hidB
      fun r hr => hT r (by simp only [List.mem_append] at hr ⊢; tauto),
    watch_amountFor_eq_sum hB hdB hiB hoB hrowsB hidA
      fun r hr => hT r (by simp only [List.mem_append] at hr ⊢; tauto),
    ← Finset.sum_add_distrib]
  exact Finset.sum_congr rfl fun d _ => by omega

/-- **Pay per forward.** Two neighbors `A` and `B` each run a round on counter tables of fewer
than `2^31` rows in all, and neither lists a neighbor after the other that shares the other's
mesh ip. For every destination `d`, `B` counts in from `A` no more bytes than `A` counts out to
`B`, and the other way round; and when one of them forwarded bytes toward `d` to the other, both
price `d` and the sender's price less its fee is at least the receiver's price. Then what `A`'s round gives `B` and what `B`'s gives `A` add up
to at least `0`: each sender acknowledges at least what its receiver charges. -/
theorem pay_per_forward_nonneg
    (hbytesAB : ∀ d, bytesToward (prepareHelperMaps neighborsB).2 idA inB d ≤
      bytesToward (prepareHelperMaps neighborsA).2 idB outA d)
    (hbytesBA : ∀ d, bytesToward (prepareHelperMaps neighborsA).2 idB inA d ≤
      bytesToward (prepareHelperMaps neighborsB).2 idA outB d)
    (hpriceAB : ∀ d, 0 < bytesToward (prepareHelperMaps neighborsA).2 idB outA d →
      ∃ pA pB, destA.lookup d = some pA ∧ destB.lookup d = some pB ∧ pB ≤ pA - sA.localFee.toNat)
    (hpriceBA : ∀ d, 0 < bytesToward (prepareHelperMaps neighborsB).2 idA outB d →
      ∃ pA pB, destA.lookup d = some pA ∧ destB.lookup d = some pB ∧ pA ≤ pB - sB.localFee.toNat) :
    0 ≤ updateA.amountFor idB + updateB.amountFor idA := by
  rw [pair_amountFor_eq_sum hA hB hdA hdB hiA hoA hiB hoB hrowsA hrowsB hidB hidA]
  refine Finset.sum_nonneg fun d _ => add_nonneg (forward_nonneg (hbytesAB d) fun h => ?_)
    (forward_nonneg (hbytesBA d) fun h => ?_)
  · obtain ⟨pA, pB, hpA, hpB, hle⟩ := hpriceAB d h
    exact ⟨pA, pB, hpA, hpB, (getBabelInfo_pricesU32 hdB d pB hpB).1, hle⟩
  · obtain ⟨pA, pB, hpA, hpB, hle⟩ := hpriceBA d h
    exact ⟨pB, pA, hpB, hpA, (getBabelInfo_pricesU32 hdA d pA hpA).1, hle⟩

end TwoNodes

/-- `A` (mesh ip `1`, fee `1`) forwards `100` bytes toward `10` to its one neighbor `B` at price
`4 + 1`, and `B` (mesh ip `2`, fee `1`), whose one neighbor is `A`, counts them in at price
`3 + 1`. Each files the other under its own identity, and the two amounts add up to at least
`0`. -/
theorem forward_to_one_neighbor_pays :
    ∃ a b,
      watch ⟨1, 100, some (.v6 1)⟩
          (fun target => match target with
            | .forwardOutput => .ok ((∅ : Counters).insert (.v6 10, "wgB") 100)
            | _ => .ok ∅)
          [⟨.v6 10 128, true, 0, 0, 4⟩] [⟨⟨0, none, ⟨.v6 2, 2, 2⟩⟩, "wgB", .v6 2⟩] = .ok a ∧
      watch ⟨1, 100, some (.v6 2)⟩
          (fun target => match target with
            | .forwardInput => .ok ((∅ : Counters).insert (.v6 10, "wgA") 100)
            | _ => .ok ∅)
          [⟨.v6 10 128, true, 0, 0, 3⟩] [⟨⟨0, none, ⟨.v6 1, 1, 1⟩⟩, "wgA", .v6 1⟩] = .ok b ∧
      0 ≤ a.2.amountFor ⟨.v6 2, 2, 2⟩ + b.2.amountFor ⟨.v6 1, 1, 1⟩ :=
  ⟨_, _, rfl, rfl, @pay_per_forward_nonneg ⟨1, 100, some (.v6 1)⟩ ⟨1, 100, some (.v6 2)⟩
    (fun target => match target with
      | .forwardOutput => .ok ((∅ : Counters).insert (.v6 10, "wgB") 100)
      | _ => .ok ∅)
    (fun target => match target with
      | .forwardInput => .ok ((∅ : Counters).insert (.v6 10, "wgA") 100)
      | _ => .ok ∅)
    [⟨.v6 10 128, true, 0, 0, 4⟩] [⟨.v6 10 128, true, 0, 0, 3⟩]
    [⟨⟨0, none, ⟨.v6 2, 2, 2⟩⟩, "wgB", .v6 2⟩] [⟨⟨0, none, ⟨.v6 1, 1, 1⟩⟩, "wgA", .v6 1⟩]
    _ _ _ _ _ _ ∅ ((∅ : Counters).insert (.v6 10, "wgB") 100)
    ((∅ : Counters).insert (.v6 10, "wgA") 100) ∅ ⟨.v6 1, 1, 1⟩ ⟨.v6 2, 2, 2⟩
    rfl rfl rfl rfl rfl rfl rfl rfl (by decide) (by decide) rfl rfl
    (fun d => by
      by_cases hd : d = .v6 10
      · subst hd; decide
      · exact (bytesToward_insert_empty_of_ne (Ne.symm hd)).trans_le (Nat.zero_le _))
    (fun _ => Nat.zero_le _)
    (fun d h => by
      by_cases hd : d = .v6 10
      · subst hd; exact ⟨5, 4, rfl, rfl, by decide⟩
      · exact absurd (h.trans_eq (bytesToward_insert_empty_of_ne (Ne.symm hd))) (Nat.lt_irrefl 0))
    (fun _ h => absurd h (Nat.lt_irrefl 0))⟩

/-- Node `A` (mesh ip `1`, fee `1`) forwards `100` bytes toward `10` to `B` (mesh ip `2`) at
price `4 + 1`, and lists a neighbor `C` with `B`'s mesh ip after `B`. `B` (fee `1`) counts the
`100` bytes in from `A` at price `3 + 1`. The byte counts agree and `A` acknowledges
`5 - 1 = 4`, what `B` charges, yet the two amounts add up to `-400`. -/
theorem shared_mesh_ip_breaks_pay_per_forward :
    ∃ a b,
      watch ⟨1, 100, some (.v6 1)⟩
          (fun target => match target with
            | .forwardOutput => .ok ((∅ : Counters).insert (.v6 10, "wgB") 100)
            | _ => .ok ∅)
          [⟨.v6 10 128, true, 0, 0, 4⟩]
          [⟨⟨0, none, ⟨.v6 2, 2, 2⟩⟩, "wgB", .v6 2⟩, ⟨⟨0, none, ⟨.v6 2, 3, 3⟩⟩, "wgC", .v6 2⟩] =
        .ok a ∧
      watch ⟨1, 100, some (.v6 2)⟩
          (fun target => match target with
            | .forwardInput => .ok ((∅ : Counters).insert (.v6 10, "wgA") 100)
            | _ => .ok ∅)
          [⟨.v6 10 128, true, 0, 0, 3⟩]
          [⟨⟨0, none, ⟨.v6 1, 1, 1⟩⟩, "wgA", .v6 1⟩] =
        .ok b ∧
      a.2.amountFor ⟨.v6 2, 2, 2⟩ + b.2.amountFor ⟨.v6 1, 1, 1⟩ = -400 :=
  ⟨_, _, rfl, rfl, rfl⟩

end Rita
