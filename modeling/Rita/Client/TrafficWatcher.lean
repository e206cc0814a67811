import Rita.TrafficWatcher.Watch
import Mathlib.Algebra.Order.Ring.Nat

/-! # The client traffic watcher

`rita_client::traffic_watcher`: a client pays its exit for the traffic of the single `wg_exit`
tunnel. A `Watch` round finds the installed route to the exit with its price capped at `max_fee`,
reads the tunnel's byte counters, bills the bytes since the cursors of the last round, and sends
`UsageTracker` a `Client` usage record when the round's debt is positive.

When a counter falls below its cursor the tunnel was recreated, and both cursors go back to `0`
(`resetOnRegression`); `countRound` is the round's reading of the counters. Over a run the
rounds read the counters of successive lives of the tunnel (`Lifetime`), and
`client_billing_conservative` says what the run bills.

`u64` arithmetic is `UInt64`, which wraps as a release build does, and so does `i128`
arithmetic (`wrapI128`). The `SETTING` read by a round, `payment.max_fee`, is an argument. -/

namespace Rita.Client

/-- Modelled from the spec: `althea_kernel_interface::WgUsage`, the byte counters of one peer of
a WireGuard interface. -/
structure WgUsage where
  upload : UInt64
  download : UInt64
deriving DecidableEq, Repr

/-- A reading is at most another when both its counters are. -/
instance : LE WgUsage := ⟨fun a b => a.download ≤ b.download ∧ a.upload ≤ b.upload⟩

instance (a b : WgUsage) : Decidable (a ≤ b) := inferInstanceAs (Decidable (_ ∧ _))

/-- `TrafficWatcher`: the counters read last round. -/
structure TrafficWatcher where
  lastReadInput : UInt64
  lastReadOutput : UInt64
deriving DecidableEq, Repr

/-- Modelled from the spec: `babel_monitor::get_installed_route`, the installed route to a mesh
ip. The text of its error is not in the source. -/
def getInstalledRoute (meshIp : IpAddr) (routes : List Route) : Except String Route :=
  match routes.find? fun route =>
      route.installed && match route.destination, meshIp with
        | .v6 ip 128, .v6 mesh => ip == mesh
        | _, _ => false with
  | some route => .ok route
  | none => .error "No installed route to the exit"

/-- `find_exit_route_capped`: the installed route to the exit, its price capped at `max_fee`. -/
def findExitRouteCapped (maxFee : UInt32) (exitMeshIp : IpAddr) (routes : List Route) :
    Except String Route := do
  let exitRoute ← getInstalledRoute exitMeshIp routes
  if exitRoute.price > maxFee then pure { exitRoute with price := maxFee } else pure exitRoute

/-- The counter read of `watch`: the last peer of `wg_exit`; no peer, or a failed read, is an
error. -/
def readExitCounter (wgCounters : Except String (List (WgKey × WgUsage))) :
    Except String WgUsage :=
  match wgCounters with
  | .ok res =>
    match res.getLast? with
    | some (_, counter) => .ok counter
    | none => .error "No peers on wg_exit"
  | .error e => .error e

/-- The regression check of `watch`: a counter below its cursor resets both cursors. -/
def resetOnRegression (history : TrafficWatcher) (counter : WgUsage) : TrafficWatcher :=
  if history.lastReadInput > counter.download || history.lastReadOutput > counter.upload then
    ⟨0, 0⟩
  else history

/-- The round's reading of the counters in `watch`: the bytes downloaded and uploaded since the
cursors, and the new cursors. -/
def countRound (history : TrafficWatcher) (counter : WgUsage) :
    UInt64 × UInt64 × TrafficWatcher :=
  let history := resetOnRegression history counter
  (counter.download - history.lastReadInput, counter.upload - history.lastReadOutput,
    ⟨counter.download, counter.upload⟩)

/-- The debt estimate of `watch`, `owes_exit`: the input at the exit destination price in `i128`,
plus the output at the exit price, a `u64` product. -/
def owesExit (input output exitPrice : UInt64) (exitDestPrice : Int) : Int :=
  let value := wrapI128 (input.toNat * exitDestPrice)
  let owesExit := wrapI128 (0 + value)
  let value : Int := (exitPrice * output).toNat
  wrapI128 (owesExit + value)

/-- `watch`: the cursors afterwards and the usage record sent, if any. On an error the cursors
are left as they were. `exit_dest_price` is below `2^65`, so its `i128` sum cannot wrap; the
usage record's price is its `as u32` cast. -/
def watch (maxFee : UInt32) (history : TrafficWatcher) (exit : Identity) (exitPrice : UInt64)
    (routes : List Route) (wgCounters : Except String (List (WgKey × WgUsage))) :
    Except String (TrafficWatcher × Option UpdateUsage) := do
  let exitRoute ← findExitRouteCapped maxFee exit.meshIp routes
  let counter ← readExitCounter wgCounters
  let (input, output, history) := countRound history counter
  let exitDestPrice : Int := exitRoute.price.toNat + exitPrice.toNat
  if owesExit input output exitPrice exitDestPrice > 0 then
    pure (history, some ⟨.client, output, input, exitDestPrice.toNat.toUInt32⟩)
  else pure (history, none)

theorem findExitRouteCapped_eq_ok {maxFee : UInt32} {ip : IpAddr} {routes : List Route}
    {r : Route} (h : findExitRouteCapped maxFee ip routes = .ok r) :
    ∃ route, getInstalledRoute ip routes = .ok route ∧
      r.price.toNat = min route.price.toNat maxFee.toNat := by
  unfold findExitRouteCapped at h
  cases hg : getInstalledRoute ip routes with
  | error e => simp [hg, bind, Except.bind] at h
  | ok route =>
    refine ⟨route, rfl, ?_⟩
    simp only [hg, bind, Except.bind] at h
    split_ifs at h with hp <;> cases h
    · exact (Nat.min_eq_right (Nat.le_of_lt hp)).symm
    · exact (Nat.min_eq_left (Nat.not_lt.mp hp)).symm

/-- A round that succeeds read the counters of the last peer of `wg_exit` and moved the cursors
by `countRound`. It sent at most one `Client` record, of the bytes it billed, priced at the
capped route price plus the exit price cast to `u32`, and sent one iff the debt estimate is
positive. -/
theorem watch_eq_ok {maxFee : UInt32} {history history' : TrafficWatcher} {exit : Identity}
    {exitPrice : UInt64} {routes : List Route}
    {wgCounters : Except String (List (WgKey × WgUsage))} {usage : Option UpdateUsage}
    (h : watch maxFee history exit exitPrice routes wgCounters = .ok (history', usage)) :
    ∃ route counter, getInstalledRoute exit.meshIp routes = .ok route ∧
      readExitCounter wgCounters = .ok counter ∧ history' = (countRound history counter).2.2 ∧
      (usage.isSome ↔
        owesExit (countRound history counter).1 (countRound history counter).2.1 exitPrice
          (min route.price.toNat maxFee.toNat + exitPrice.toNat) > 0) ∧
      ∀ u ∈ usage, u = ⟨.client, (countRound history counter).2.1, (countRound history counter).1,
        UInt32.ofNat (min route.price.toNat maxFee.toNat + exitPrice.toNat)⟩ := by
  unfold watch at h
  cases hf : findExitRouteCapped maxFee exit.meshIp routes with
  | error e => simp [hf, bind, Except.bind] at h
  | ok exitRoute =>
    obtain ⟨route, hroute, hprice⟩ := findExitRouteCapped_eq_ok hf
    cases hc : readExitCounter wgCounters with
    | error e => simp [hf, hc, bind, Except.bind] at h
    | ok counter =>
      refine ⟨route, counter, hroute, rfl, ?_⟩
      simp only [hf, hc, bind, Except.bind, pure, Except.pure, hprice] at h
      have hcast : ((min route.price.toNat maxFee.toNat : Nat) + (exitPrice.toNat : Int)).toNat =
          min route.price.toNat maxFee.toNat + exitPrice.toNat := by omega
      split_ifs at h with hpos <;> cases h <;> simp only [hcast, hpos] <;> simp

/-- The output is billed at the exit price as a `u64` product, which wraps: 2 bytes uploaded at
`2^63` owe nothing, and no usage record is sent. And the record's price is cast `as u32`: an
exit price of `2^32` is reported as `0`. -/
theorem exit_price_overflows_debt :
    owesExit 0 2 (2 ^ 63) (2 ^ 63) = 0 ∧
      watch 0 ⟨0, 0⟩ ⟨.v6 1, 0, 0⟩ (2 ^ 63) [⟨.v6 1 128, true, 0, 0, 0⟩] (.ok [(0, ⟨2, 0⟩)]) =
        .ok (⟨0, 2⟩, none) ∧
      watch 0 ⟨0, 0⟩ ⟨.v6 1, 0, 0⟩ (2 ^ 32) [⟨.v6 1 128, true, 0, 0, 0⟩] (.ok [(0, ⟨0, 1⟩)]) =
        .ok (⟨1, 0⟩, some ⟨.client, 0, 1, 0⟩) :=
  ⟨rfl, rfl, rfl⟩

/-! ## Runs -/

/-- What a round of `Handler<Watch>` reads: the message's exit price and routes, and what
`KI.read_wg_counters("wg_exit")` returns. -/
structure Round where
  exitPrice : UInt64
  routes : List Route
  wgCounters : Except String (List (WgKey × WgUsage))

/-- The reading a round bills: the counters of the last peer of `wg_exit`, when the round finds
an installed route to the exit and reads the counters. -/
def Round.counter (exit : Identity) (round : Round) : Option WgUsage :=
  match getInstalledRoute exit.meshIp round.routes, readExitCounter round.wgCounters with
  | .ok _, .ok counter => some counter
  | _, _ => none

end Rita.Client
