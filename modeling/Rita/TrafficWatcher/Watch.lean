import Rita.Types

/-! # The relay traffic watcher

`rita_common::traffic_watcher`: one `Watch` round reads the four iptables counter tables, prices
each destination from the babel routes, and sends `DebtKeeper` one `TrafficUpdate` with a signed
amount per neighbor, and `UsageTracker` one `UpdateUsage` with the round's totals.

The kernel calls (`KI.read_counters`) are the argument `readCounters`, so that a round is a
function of what the kernel answers. `u32` and `u64` arithmetic is `UInt32` and `UInt64`, and
every `i128` operation on the debts is wrapped by `wrapI128`: each wraps as a release build does,
where a debug build would panic. Log lines are left out. -/

namespace Rita

/-- `ipnetwork::IpNetwork`: an address with its prefix length. -/
inductive IpNetwork where
  | v4 (ip : UInt32) (len : UInt8)
  | v6 (ip : BitVec 128) (len : UInt8)
deriving DecidableEq, Repr

/-- Modelled from the spec: `babel_monitor::Route`, whose declaration is not in the source. The
source calls `destination` the route's `prefix`. -/
structure Route where
  destination : IpNetwork
  installed : Bool
  metric : UInt16
  refmetric : UInt16
  price : UInt32
deriving DecidableEq, Repr

/-- `althea_kernel_interface::FilterTarget`. -/
inductive FilterTarget where
  | input
  | output
  | forwardInput
  | forwardOutput
deriving DecidableEq, Repr

/-- A counter table: bytes per (destination, interface). -/
abbrev Counters := HashMap (IpAddr × String) UInt64

/-- The part of `SETTING` that a round reads: `payment.local_fee`, `payment.max_fee` and
`network.mesh_ip`. -/
structure WatchSettings where
  localFee : UInt32
  maxFee : UInt32
  meshIp : Option IpAddr
deriving DecidableEq, Repr

/-- `rita_common::usage_tracker::UsageType`. -/
inductive UsageType where
  | client
  | relay
  | exit
deriving DecidableEq, Repr

/-- `rita_common::usage_tracker::UpdateUsage`. -/
structure UpdateUsage where
  kind : UsageType
  up : UInt64
  down : UInt64
  price : UInt32
deriving DecidableEq, Repr

/-- `rita_common::debt_keeper::Traffic`; the `Int256` amount is an `Int`. -/
structure Traffic where
  «from» : Identity
  amount : Int
deriving DecidableEq, Repr

/-- `rita_common::debt_keeper::TrafficUpdate`. -/
structure TrafficUpdate where
  traffic : List Traffic
deriving DecidableEq, Repr

/-! ## The helper maps -/

/-- `prepare_helper_maps`: mesh ip to identity, and interface name to identity. -/
def prepareHelperMaps (neighbors : List Neighbor) :
    HashMap IpAddr Identity × HashMap String Identity :=
  neighbors.foldl (fun (identities, ifToId) neigh =>
    (identities.insert neigh.identity.global.meshIp neigh.identity.global,
      ifToId.insert neigh.ifaceName neigh.identity.global)) (∅, ∅)

/-- The body of the route loop of `get_babel_info`: an installed IPv6 `/128` route prices its
destination at `min price max_fee + local_fee`, a `u32` sum. -/
def addRoute (settings : WatchSettings) (destinations : HashMap IpAddr Int) (route : Route) :
    HashMap IpAddr Int :=
  match route.destination with
  | .v6 ip len =>
    if len = 128 ∧ route.installed = true then
      let price := if route.price > settings.maxFee then settings.maxFee else route.price
      destinations.insert (.v6 ip) ((price + settings.localFee).toNat : Int)
    else destinations
  | .v4 _ _ => destinations

/-- `get_babel_info`: the price of each destination, the own mesh ip at price `0`. -/
def getBabelInfo (settings : WatchSettings) (routes : List Route) :
    Except String (HashMap IpAddr Int × UInt32) :=
  let destinations := routes.foldl (addRoute settings) ∅
  match settings.meshIp with
  | some ip => .ok (destinations.insert ip 0, settings.localFee)
  | none => .error "No mesh IP configured yet"

/-! ## The counters -/

/-- `for (k, v) in counters { *total.entry(k).or_insert(0) += v }`. -/
def addCounters (total counters : Counters) : Counters :=
  counters.entries.foldl (fun total e => total.insert e.1 ((total.lookup e.1).getD 0 + e.2)) total

/-- The common body of `get_input_counters` and `get_output_counters`: read a direct and a
forwarded table, and add them key by key. A failed read is returned as it is. -/
def readTotalCounters (readCounters : FilterTarget → Except String Counters)
    (direct forward : FilterTarget) : Except String Counters := do
  let counters ← readCounters direct
  let fwdCounters ← readCounters forward
  pure (addCounters (addCounters ∅ counters) fwdCounters)

/-- `get_input_counters`. -/
def getInputCounters (readCounters : FilterTarget → Except String Counters) :
    Except String Counters :=
  readTotalCounters readCounters .input .forwardInput

/-- `get_output_counters`. -/
def getOutputCounters (readCounters : FilterTarget → Except String Counters) :
    Except String Counters :=
  readTotalCounters readCounters .output .forwardOutput

/-- `update_usage`: the round's totals, for the usage tracker. -/
def updateUsage (input output : Counters) (ourFee : UInt32) : UpdateUsage :=
  { kind := .relay, up := (output.entries.map (·.2)).sum, down := (input.entries.map (·.2)).sum,
    price := ourFee }

/-! ## The round -/

/-- The debts table of `watch` before the counter loops: `0` for every identity of
`identities`. -/
def initDebts (identities : HashMap IpAddr Identity) : HashMap Identity Int :=
  identities.entries.foldl (fun debts e => debts.insert e.2 0) ∅

/-- The common body of the two counter loops of `watch`: a row whose destination is priced and
whose interface belongs to a neighbor with a debts entry adds `delta price bytes` to that entry,
an `i128` addition; every other row is skipped. -/
def applyCounter (destinations : HashMap IpAddr Int) (ifToId : HashMap String Identity)
    (delta : Int → UInt64 → Int) (debts : HashMap Identity Int)
    (row : Σ _ : IpAddr × String, UInt64) : HashMap Identity Int :=
  match destinations.lookup row.1.1, ifToId.lookup row.1.2 with
  | some dest, some idFromIf =>
    match debts.lookup idFromIf with
    | some debt => debts.insert idFromIf (wrapI128 (debt + delta dest row.2))
    | none => debts
  | _, _ => debts

/-- The input loop, `*debt -= dest * i128::from(bytes)`: the neighbor that sent us bytes toward a
destination owes its full price. -/
def inputDelta (dest : Int) (bytes : UInt64) : Int := -wrapI128 (dest * bytes.toNat)

/-- The output loop, `*debt += (dest - i128::from(local_fee)) * i128::from(bytes)`: the neighbor
we forwarded bytes to is owed the price less our own fee. -/
def outputDelta (localFee : UInt32) (dest : Int) (bytes : UInt64) : Int :=
  wrapI128 (wrapI128 (dest - localFee.toNat) * bytes.toNat)

/-- The debts table after both counter loops. -/
def collateDebts (identities : HashMap IpAddr Identity) (ifToId : HashMap String Identity)
    (destinations : HashMap IpAddr Int) (localFee : UInt32) (input output : Counters) :
    HashMap Identity Int :=
  let debts := input.entries.foldl (applyCounter destinations ifToId inputDelta)
    (initDebts identities)
  output.entries.foldl (applyCounter destinations ifToId (outputDelta localFee)) debts

/-- `watch`: the usage record and the traffic update of one round, or the first error. -/
def watch (settings : WatchSettings) (readCounters : FilterTarget → Except String Counters)
    (routes : List Route) (neighbors : List Neighbor) :
    Except String (UpdateUsage × TrafficUpdate) := do
  let (identities, ifToId) := prepareHelperMaps neighbors
  let (destinations, localFee) ← getBabelInfo settings routes
  let totalInputCounters ← getInputCounters readCounters
  let totalOutputCounters ← getOutputCounters readCounters
  let usage := updateUsage totalInputCounters totalOutputCounters localFee
  let debts := collateDebts identities ifToId destinations localFee totalInputCounters
    totalOutputCounters
  pure (usage, ⟨debts.entries.map fun e => ⟨e.1, e.2⟩⟩)

end Rita
