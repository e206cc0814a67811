import Rita.Types

/-! # The exit's client table

`rita_exit::database::database_tools`: the exit gives every new client an internal ip, the first
address from `exit_start_ip` on that no row of the `clients` table holds, stepping over its own
`own_internal_ip`. `create_or_update_user_record` inserts the row of a client seen for the first
time.

The table is the list of its rows. The column `internal_ip` is text that the code reads back
through `str::parse::<Ipv4Addr>`, so a row holds what that parse returns. Since `Display` and
`FromStr` of `Ipv4Addr` round-trip, `new_ip.to_string().parse()` is the address of `new_ip`
itself. `ip_increment::increment` is not in the source; it is the section variable `increment`,
and every result holds for every function in its place. The `while` loop that calls it runs with
`fuel`.

A signup is three operations on the database: `get_client`, the load of the table in
`get_next_client_ip`, and the insert. Several signups run at once on pooled connections, so
their operations interleave (`runSignups`). -/

namespace Rita

/-- A row of the `clients` table (`exit_db::models::Client`): the identity columns that
`get_client` filters on, and `internal_ip` as `str::parse::<Ipv4Addr>` reads it. -/
structure Client where
  meshIp : IpAddr
  wgPubkey : WgKey
  ethAddress : Address
  internalIp : Option UInt32
deriving DecidableEq, Repr

/-- The settings that `get_next_client_ip` reads: `exit_network.netmask` (cast `as u8`),
`exit_start_ip` and `own_internal_ip`. -/
structure ExitNetwork where
  netmask : UInt8
  exitStartIp : UInt32
  ownInternalIp : IpAddr
deriving DecidableEq, Repr

/-- `get_internal_ips`: the addresses of the rows whose `internal_ip` parses, sorted. -/
def getInternalIps (clients : List Client) : List UInt32 :=
  (clients.filterMap (·.internalIp)).mergeSort fun a b => decide (a ≤ b)

/-- `new_ip.to_string().parse::<Ipv4Addr>()`. The text of the error is not in the source. -/
def parseIpv4 : IpAddr → Except String UInt32
  | .v4 a => .ok a
  | .v6 _ => .error "invalid IP address syntax"

/-- Modelled from the spec: `struct_tools::client_to_new_db_client`, which is not in the source;
the spec and the source only name it. The new row holds the client's identity columns and
`new_ip.to_string()` as its `internal_ip`. -/
def clientToNewDbClient (client : Identity) (newIp : IpAddr) : Client :=
  { meshIp := client.meshIp, wgPubkey := client.wgPublicKey, ethAddress := client.ethAddress,
    internalIp := (parseIpv4 newIp).toOption }

/-- `get_client`: the row with the client's `mesh_ip`, `wg_pubkey` and `eth_address`; more than
one such row panics. -/
def getClient (client : Identity) (clients : List Client) : Option (Option Client) :=
  match clients.filter fun c =>
      c.meshIp == client.meshIp && c.wgPubkey == client.wgPublicKey &&
        c.ethAddress == client.ethAddress with
  | [] => some none
  | [c] => some (some c)
  | _ :: _ :: _ => none

/-- How far one `create_or_update_user_record` has got. -/
inductive Signup where
  /-- Before `get_client`. -/
  | start
  /-- `get_client` found no row; before the load of `get_next_client_ip`. -/
  | absent
  /-- `get_next_client_ip` chose `newIp`; before the insert. -/
  | chosen (newIp : IpAddr)
  /-- The new row is inserted. -/
  | inserted
  /-- The client had a row (`update_client` follows), or an error or a panic ended the call. -/
  | other
deriving DecidableEq, Repr

section
variable (increment : IpAddr → UInt8 → Except String IpAddr)

/-- The body of the `while` loop of `get_next_client_ip`: `increment`, and once more when that
lands on the gateway. -/
def skipToNextIp (netmask : UInt8) (gatewayIp newIp : IpAddr) : Except String IpAddr := do
  let newIp ← increment newIp netmask
  if newIp = gatewayIp then increment newIp netmask else pure newIp

/-- The `while` loop of `get_next_client_ip` from `newIp`, with `fuel` iterations left (`none`
when they run out): it stops at the first address not in `ipsList`. -/
def nextClientIpLoop (ipsList : List UInt32) (netmask : UInt8) (gatewayIp : IpAddr) :
    Nat → IpAddr → Option (Except String IpAddr)
  | fuel, newIp =>
    match parseIpv4 newIp, fuel with
    | .error e, _ => some (.error e)
    | .ok a, 0 => if ipsList.contains a then none else some (.ok newIp)
    | .ok a, fuel + 1 =>
      if ipsList.contains a then
        match skipToNextIp increment netmask gatewayIp newIp with
        | .error e => some (.error e)
        | .ok newIp => nextClientIpLoop ipsList netmask gatewayIp fuel newIp
      else some (.ok newIp)

/-- `get_next_client_ip` on the table `clients`. -/
def getNextClientIp (settings : ExitNetwork) (clients : List Client) (fuel : Nat) :
    Option (Except String IpAddr) :=
  nextClientIpLoop increment (getInternalIps clients) settings.netmask settings.ownInternalIp fuel
    (.v4 settings.exitStartIp)

theorem nextClientIpLoop_ok {ipsList : List UInt32} {netmask : UInt8} {gatewayIp : IpAddr} :
    ∀ {fuel : Nat} {newIp ip : IpAddr},
      nextClientIpLoop increment ipsList netmask gatewayIp fuel newIp = some (.ok ip) →
        ∃ a, ip = .v4 a ∧ a ∉ ipsList
  | fuel, newIp, ip, h => by
    have stop : ∀ {a}, parseIpv4 newIp = .ok a → ipsList.contains a = false → newIp = ip →
        ∃ a, ip = .v4 a ∧ a ∉ ipsList := by
      rintro a hp hc rfl
      cases newIp with
      | v4 b =>
        obtain rfl : b = a := by simpa [parseIpv4] using hp
        exact ⟨b, rfl, by simpa using hc⟩
      | v6 _ => cases hp
    unfold nextClientIpLoop at h
    split at h
    · cases h
    · split_ifs at h with hc
      cases h
      exact stop (by assumption) (by simpa using hc) rfl
    · split_ifs at h with hc
      · split at h
        · cases h
        · exact nextClientIpLoop_ok h
      · cases h
        exact stop (by assumption) (by simpa using hc) rfl


/-- An address handed out is held by no row whose `internal_ip` parses. -/
theorem getNextClientIp_fresh {settings : ExitNetwork} {clients : List Client} {fuel : Nat}
    {ip : IpAddr} (h : getNextClientIp increment settings clients fuel = some (.ok ip)) :
    ∃ a, ip = .v4 a ∧ ∀ c ∈ clients, c.internalIp ≠ some a := by
  obtain ⟨a, rfl, ha⟩ := nextClientIpLoop_ok increment h
  refine ⟨a, rfl, fun c hc hca => ha ?_⟩
  simp only [getInternalIps, List.mem_mergeSort, List.mem_filterMap]
  exact ⟨c, hc, hca⟩

/-- The gateway is stepped over only after an increment: when the range starts at the exit's own
address and the table is empty, the first client gets the exit's address, whatever `increment`
does. -/
theorem gateway_handed_out_first (fuel : Nat) :
    getNextClientIp increment ⟨24, 0x0A000001, .v4 0x0A000001⟩ [] fuel =
      some (.ok (.v4 0x0A000001)) := by
  unfold getNextClientIp nextClientIpLoop
  cases fuel <;> simp [getInternalIps, parseIpv4]

/-! ## Signups -/

/-- The next database operation of the signup of `client` on the table `clients`. -/
def signupStep (settings : ExitNetwork) (fuel : Nat) (client : Identity) :
    Signup → List Client → Signup × List Client
  | .start, clients =>
    match getClient client clients with
    | some none => (.absent, clients)
    | _ => (.other, clients)
  | .absent, clients =>
    match getNextClientIp increment settings clients fuel with
    | some (.ok newIp) => (.chosen newIp, clients)
    | _ => (.other, clients)
  | .chosen newIp, clients => (.inserted, clients ++ [clientToNewDbClient client newIp])
  | s, clients => (s, clients)

/-- Two signups, of `a` and of `b`, on one table, their operations in the order of `schedule`:
`false` is the next operation of `a`, `true` the next of `b`. -/
def runSignups (settings : ExitNetwork) (fuel : Nat) (a b : Identity) :
    List Bool → Signup × Signup × List Client → Signup × Signup × List Client
  | [], st => st
  | false :: schedule, (sa, sb, clients) =>
    let (sa, clients) := signupStep increment settings fuel a sa clients
    runSignups settings fuel a b schedule (sa, sb, clients)
  | true :: schedule, (sa, sb, clients) =>
    let (sb, clients) := signupStep increment settings fuel b sb clients
    runSignups settings fuel a b schedule (sa, sb, clients)

/-- One signup run to its end before another starts. -/
def signup (settings : ExitNetwork) (fuel : Nat) (client : Identity) (clients : List Client) :
    List Client :=
  let (s, clients) := signupStep increment settings fuel client .start clients
  let (s, clients) := signupStep increment settings fuel client s clients
  (signupStep increment settings fuel client s clients).2

/-- Signups one after another. -/
def serialSignups (settings : ExitNetwork) (fuel : Nat) : List Identity → List Client → List Client
  | [], clients => clients
  | client :: rest, clients =>
    serialSignups settings fuel rest (signup increment settings fuel client clients)

theorem runSignups_serial (settings : ExitNetwork) (fuel : Nat) (a b : Identity)
    (clients : List Client) :
    (runSignups increment settings fuel a b [false, false, false, true, true, true]
        (.start, .start, clients)).2.2 =
      serialSignups increment settings fuel [a, b] clients := by
  simp only [runSignups, serialSignups, signup]

/-- No two rows hold the same parsed `internal_ip`. -/
def InternalIpsUnique (clients : List Client) : Prop :=
  (clients.filterMap (·.internalIp)).Nodup

/-- A signup leaves the table as it was, or appends the row of an address `get_next_client_ip`
handed out. -/
theorem signup_cases (settings : ExitNetwork) (fuel : Nat) (client : Identity) (clients : List Client) :
    signup increment settings fuel client clients = clients ∨
      ∃ ip, getNextClientIp increment settings clients fuel = some (.ok ip) ∧
        signup increment settings fuel client clients = clients ++ [clientToNewDbClient client ip] := by
  unfold signup
  rcases hg : getClient client clients with _ | _ | _ <;> simp only [signupStep, hg, true_or]
  rcases hn : getNextClientIp increment settings clients fuel with _ | _ | ip <;>
    simp [signupStep, hn]

theorem signup_internalIpsUnique {settings : ExitNetwork} {fuel : Nat} {client : Identity}
    {clients : List Client} (h : InternalIpsUnique clients) :
    InternalIpsUnique (signup increment settings fuel client clients) := by
  rcases signup_cases increment settings fuel client clients with hs | ⟨ip, hn, hs⟩
  · rwa [hs]
  · obtain ⟨a, rfl, ha⟩ := getNextClientIp_fresh increment hn
    rw [hs, InternalIpsUnique, List.filterMap_append]
    refine h.append (List.nodup_singleton _) ?_
    simpa [clientToNewDbClient, parseIpv4, Except.toOption] using ha

theorem serialSignups_internalIpsUnique {settings : ExitNetwork} {fuel : Nat} :
    ∀ {clients : List Client} (ids : List Identity), InternalIpsUnique clients →
      InternalIpsUnique (serialSignups increment settings fuel ids clients)
  | _, [], h => h
  | _, _ :: ids, h => serialSignups_internalIpsUnique ids (signup_internalIpsUnique increment h)

/-- **Serial signups keep internal ips distinct.** From a table where no two rows share an
internal ip, whatever `increment` does: the schedule of the signup machine that runs one signup to
its end before the other starts, and any signups one after another, leave that so. -/
theorem serial_signups_keep_internal_ips_unique (settings : ExitNetwork) (fuel : Nat)
    (a b : Identity) {clients : List Client} (h : InternalIpsUnique clients) :
    InternalIpsUnique (runSignups increment settings fuel a b [false, false, false, true, true, true]
        (.start, .start, clients)).2.2 ∧
      ∀ ids, InternalIpsUnique (serialSignups increment settings fuel ids clients) := by
  rw [runSignups_serial]
  exact ⟨serialSignups_internalIpsUnique increment _ h, fun ids => serialSignups_internalIpsUnique increment ids h⟩

/-- The two signups of `interleaved_signups_share_internal_ip`, run one after the other. -/
theorem serial_signups_from_empty :
    InternalIpsUnique [] ∧
      InternalIpsUnique (runSignups (fun ip _ => match ip with | .v4 a => .ok (.v4 (a + 1)) | ip => .ok ip)
        ⟨24, 0x0A000002, .v4 0x0A000001⟩ 4 ⟨.v6 1, 0, 1⟩ ⟨.v6 2, 0, 2⟩
        [false, false, false, true, true, true] (.start, .start, [])).2.2 :=
  ⟨List.nodup_nil, (@serial_signups_keep_internal_ips_unique _ _ _ _ _ [] List.nodup_nil).1⟩

/-- Both signups read the table before either inserts, so both rows get the first free
address. -/
theorem interleaved_signups_share_internal_ip :
    runSignups increment ⟨24, 0x0A000002, .v4 0x0A000001⟩ 0 ⟨.v6 1, 0, 1⟩ ⟨.v6 2, 0, 2⟩
        [false, true, false, true, false, true] (.start, .start, []) =
      (.inserted, .inserted, [⟨.v6 1, 1, 0, some 0x0A000002⟩, ⟨.v6 2, 2, 0, some 0x0A000002⟩]) := by
  simp [runSignups, signupStep, getClient, getNextClientIp, nextClientIpLoop, getInternalIps, parseIpv4,
    clientToNewDbClient, Except.toOption]

end

end Rita
