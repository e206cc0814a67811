import Rita.Exit.DatabaseTools

/-! # The exit's client table, row by row

The other functions of `rita_exit::database::database_tools`, and `TruncateTables` of `DbClient`,
read and write columns of the `clients` table that the signup model leaves out. A `ClientRow` is a
`Client` (the identity columns and `internal_ip`) with the columns these functions write. Each
`diesel::update(clients.filter(..)).set(..)` is `updateRows`: the rows the filter selects get one
column set. `delete` drops the rows it selects, and an `insert` appends.

The table of rows projects to the table of `Client`s that the signup model runs on
(`ClientRow.client`). On that projection `create_or_update_user_record` is `signup`
(`createOrUpdateUserRecord_client`), and every other operation keeps the identity columns and
`internal_ip` of the rows it keeps and adds none (`KeepsClients`). So distinct internal ips, the
invariant of the signup model, hold after every serial run of database operations
(`runDbOps_internalIpsUnique`); it is the interleaving of two signups that breaks it.

Database errors are left out: every statement here succeeds. Each call of
`secs_since_unix_epoch()` is an argument. The `i64` timestamps and the `i32` count `text_sent` are
`BitVec`s, which wrap as a release build does. `ONE_DAY`, and the columns that
`client_to_new_db_client` gives a new row besides its identity and `internal_ip`, are not in the
source: they are the section variables `oneDay` and `newColumns`. -/

namespace Rita

/-- The columns of a row that the functions below write, besides those of `Client`. -/
structure Columns where
  email : String
  phone : String
  verified : Bool
  textSent : BitVec 32
  lastSeen : BitVec 64
  emailSentTime : BitVec 64
  lastBalanceWarningTime : BitVec 64
deriving DecidableEq, Repr

/-- A row of the `clients` table (`exit_db::models::Client`). -/
structure ClientRow where
  client : Client
  columns : Columns
deriving DecidableEq, Repr

/-- The part of `althea_types::ExitRegistrationDetails` that the functions read; its declaration
is not in the source. -/
structure ExitRegistrationDetails where
  email : Option String
  phone : Option String
deriving DecidableEq, Repr

/-! ## Statements -/

/-- The filter that `get_client`, `update_client`, `verify_client`, `text_sent` and
`client_exists` build: the row's `mesh_ip`, `wg_pubkey` and `eth_address` are those of
`client`. -/
def matchesIdentity (client : Identity) (r : ClientRow) : Bool :=
  r.client.meshIp == client.meshIp && r.client.wgPubkey == client.wgPublicKey &&
    r.client.ethAddress == client.ethAddress

/-- What one `update ... set` does to one row. -/
def updateRow (p : ClientRow → Bool) (set : Columns → Columns) (r : ClientRow) : ClientRow :=
  if p r then { r with columns := set r.columns } else r

/-- `diesel::update(clients.filter(p)).set(..)`: every row that `p` selects gets `set`. -/
def updateRows (p : ClientRow → Bool) (set : Columns → Columns) (rows : List ClientRow) :
    List ClientRow :=
  rows.map (updateRow p set)

/-- `get_client` on the rows; more than one row with the client's identity panics (`none`). -/
def getClientRow (client : Identity) (rows : List ClientRow) : Option (Option ClientRow) :=
  match rows.filter (matchesIdentity client) with
  | [] => some none
  | [r] => some (some r)
  | _ :: _ :: _ => none

@[simp] theorem updateRow_client (p : ClientRow → Bool) (set : Columns → Columns) (r : ClientRow) :
    (updateRow p set r).client = r.client := by
  unfold updateRow
  split <;> rfl

@[simp] theorem updateRows_client (p : ClientRow → Bool) (set : Columns → Columns)
    (rows : List ClientRow) :
    (updateRows p set rows).map (·.client) = rows.map (·.client) := by
  simp [updateRows]

theorem matchesIdentity_updateRow (client : Identity) (p : ClientRow → Bool)
    (set : Columns → Columns) (r : ClientRow) :
    matchesIdentity client (updateRow p set r) = matchesIdentity client r := by
  simp only [matchesIdentity, updateRow_client]

/-- The row level refines the signup model: `get_client` finds the projection of what it finds on
the rows. -/
theorem getClientRow_client (client : Identity) (rows : List ClientRow) :
    (getClientRow client rows).map (·.map (·.client)) = getClient client (rows.map (·.client)) := by
  unfold getClientRow getClient
  rw [List.filter_map]
  change _ = match ((rows.filter (matchesIdentity client)).map (·.client)) with
    | [] => some none | [c] => some (some c) | _ :: _ :: _ => none
  rcases rows.filter (matchesIdentity client) with _ | ⟨r, _ | ⟨r', rest⟩⟩ <;> rfl

theorem mem_of_getClientRow {client : Identity} {rows : List ClientRow} {r : ClientRow}
    (h : getClientRow client rows = some (some r)) : r ∈ rows ∧ matchesIdentity client r := by
  unfold getClientRow at h
  split at h <;> cases h
  rename_i hf
  exact List.mem_filter.mp (hf ▸ List.mem_singleton_self r)

/-- **Update, then look up.** An update statement never changes which row `get_client` finds, nor
whether it panics; the row it finds has the statement applied. -/
theorem getClientRow_updateRows (client : Identity) (p : ClientRow → Bool) (set : Columns → Columns)
    (rows : List ClientRow) :
    getClientRow client (updateRows p set rows) =
      (getClientRow client rows).map (·.map (updateRow p set)) := by
  have hf : (updateRows p set rows).filter (matchesIdentity client) =
      (rows.filter (matchesIdentity client)).map (updateRow p set) := by
    rw [updateRows, List.filter_map]
    congr 1
    exact List.filter_congr fun r _ => matchesIdentity_updateRow client p set r
  unfold getClientRow
  rw [hf]
  rcases rows.filter (matchesIdentity client) with _ | ⟨r, _ | ⟨r', rest⟩⟩ <;> rfl

/-! ## The functions -/

section
variable (oneDay : BitVec 64)

/-- `verify_client`. -/
def verifyClient (client : Identity) (clientVerified : Bool) (rows : List ClientRow) :
    List ClientRow :=
  updateRows (matchesIdentity client) (fun c => { c with verified := clientVerified }) rows

/-- `verify_db_client`: the filter is built from the columns of a row read before. -/
def verifyDbClient (client : Client) (clientVerified : Bool) (rows : List ClientRow) :
    List ClientRow :=
  updateRows (matchesIdentity ⟨client.meshIp, client.ethAddress, client.wgPubkey⟩)
    (fun c => { c with verified := clientVerified }) rows

/-- `text_sent`: the count is set to `val + 1`. -/
def textSent (client : Identity) (val : BitVec 32) (rows : List ClientRow) : List ClientRow :=
  updateRows (matchesIdentity client) (fun c => { c with textSent := val + 1 }) rows

/-- `set_client_timestamp`: the row found by its key `mesh_ip`. -/
def setClientTimestamp (meshIp : IpAddr) (now : BitVec 64) (rows : List ClientRow) :
    List ClientRow :=
  updateRows (·.client.meshIp == meshIp) (fun c => { c with lastSeen := now }) rows

/-- `update_mail_sent_time`: every row with the client's email, whoever it belongs to. The
`Debug` rendering of the client after the error text is left out. -/
def updateMailSentTime (regDetails : ExitRegistrationDetails) (now : BitVec 64)
    (rows : List ClientRow) : Except String (List ClientRow) :=
  match regDetails.email with
  | some mail => .ok (updateRows (·.columns.email == mail) (fun c => { c with emailSentTime := now }) rows)
  | none => .error "Cloud not find email for"

/-- `update_low_balance_notification_time`: every row with the client's `wg_pubkey`. -/
def updateLowBalanceNotificationTime (client : Identity) (now : BitVec 64) (rows : List ClientRow) :
    List ClientRow :=
  updateRows (·.client.wgPubkey == client.wgPublicKey)
    (fun c => { c with lastBalanceWarningTime := now }) rows

/-- The check that `update_client` makes for the email and for the phone number: when `value` is
given and differs from `old`, the column of the client's rows is set to it. -/
def updateIfChanged (client : Identity) (old : String) (value : Option String)
    (set : String → Columns → Columns) (rows : List ClientRow) : List ClientRow :=
  match value with
  | some v => if old ≠ v then updateRows (matchesIdentity client) (set v) rows else rows
  | none => rows

/-- `update_client`: the email and the phone number of `regDetails` when given and different
from `theirRecord`'s, and `last_seen` when `theirRecord`'s is more than half a day old.
`secs_since_unix_epoch()` is read twice: `currentTime` for the age, `now` for the new value. -/
def updateClient (client : Identity) (regDetails : ExitRegistrationDetails) (theirRecord : ClientRow)
    (currentTime now : BitVec 64) (rows : List ClientRow) : List ClientRow :=
  let rows := updateIfChanged client theirRecord.columns.email regDetails.email
    (fun mail c => { c with email := mail }) rows
  let rows := updateIfChanged client theirRecord.columns.phone regDetails.phone
    (fun number c => { c with phone := number }) rows
  let timeSinceLastUpdate := currentTime - theirRecord.columns.lastSeen
  if (oneDay.sdiv 2).slt timeSinceLastUpdate then
    updateRows (matchesIdentity client) (fun c => { c with lastSeen := now }) rows
  else rows

/-- `delete_client`: the row found by its key `mesh_ip`, the one column of the `ExitClient` it
reads. -/
def deleteClient (meshIp : IpAddr) (rows : List ClientRow) : List ClientRow :=
  rows.filter (·.client.meshIp != meshIp)

/-- `Handler<TruncateTables>`: every row is deleted. -/
def truncateTables (_rows : List ClientRow) : List ClientRow :=
  []

/-- `client_exists`. -/
def clientExists (client : Identity) (rows : List ClientRow) : Bool :=
  rows.any (matchesIdentity client)

/-- `client_conflict`: no conflict with the client's own row; otherwise a conflict when a row
shares the client's `mesh_ip`, `eth_address` or `wg_pubkey`. -/
def clientConflict (client : Identity) (rows : List ClientRow) : Bool :=
  if clientExists client rows then false
  else
    let ipExists := rows.any (·.client.meshIp == client.meshIp)
    let wgExists := rows.any (·.client.wgPubkey == client.wgPublicKey)
    let ethExists := rows.any (·.client.ethAddress == client.ethAddress)
    ipExists || ethExists || wgExists

theorem getClientRow_updateRows_self {client : Identity} {rows : List ClientRow} {r : ClientRow}
    (h : getClientRow client rows = some (some r)) (set : Columns → Columns) :
    getClientRow client (updateRows (matchesIdentity client) set rows) =
      some (some { r with columns := set r.columns }) := by
  rw [getClientRow_updateRows, h]
  simp [updateRow, (mem_of_getClientRow h).2]

theorem getClientRow_updateIfChanged {client : Identity} {rows : List ClientRow} {r : ClientRow}
    (h : getClientRow client rows = some (some r)) (old : String) (set : String → Columns → Columns)
    (hset : set old r.columns = r.columns) (value : Option String) :
    getClientRow client (updateIfChanged client old value set rows) =
      some (some { r with columns := (value.map (set · r.columns)).getD r.columns }) := by
  cases value with
  | none => exact h
  | some v =>
    simp only [updateIfChanged, Option.map_some', Option.getD_some]
    split_ifs with hne
    · exact getClientRow_updateRows_self h (set v)
    · rw [not_not.mp hne] at hset
      simpa [hset] using h

/-- **What `update_client` leaves in the client's row**: the email and the phone number of
`regDetails` when given, and `now` as `last_seen` when the old one is more than half a day old.
The checks for a change only skip statements that would write what the row already holds. -/
theorem getClientRow_updateClient {client : Identity} {regDetails : ExitRegistrationDetails}
    {rows : List ClientRow} {r : ClientRow} (h : getClientRow client rows = some (some r))
    (currentTime now : BitVec 64) :
    getClientRow client (updateClient oneDay client regDetails r currentTime now rows) =
      some (some { r with columns := { r.columns with
        email := regDetails.email.getD r.columns.email,
        phone := regDetails.phone.getD r.columns.phone,
        lastSeen := if (oneDay.sdiv 2).slt (currentTime - r.columns.lastSeen) then now
          else r.columns.lastSeen } }) := by
  have h₁ := getClientRow_updateIfChanged h r.columns.email (fun mail c => { c with email := mail })
    rfl regDetails.email
  have h₂ := getClientRow_updateIfChanged h₁ r.columns.phone
    (fun number c => { c with phone := number }) (by cases regDetails.email <;> rfl) regDetails.phone
  dsimp only [updateClient]
  split_ifs with hold
  · rw [getClientRow_updateRows_self h₂]
    rcases regDetails with ⟨_ | _, _ | _⟩ <;> rfl
  · rw [h₂]
    rcases regDetails with ⟨_ | _, _ | _⟩ <;> rfl

/-- A client with a day-old `last_seen` signs up again with a new email: its row gets the email
and `last_seen = now`, and keeps its phone number. -/
theorem updateClient_new_email_day_old :
    getClientRow ⟨.v6 1, 1, 1⟩ [⟨⟨.v6 1, 1, 1, some 0x0A000002⟩, ⟨"a", "p", false, 0, 0, 0, 0⟩⟩] =
        some (some ⟨⟨.v6 1, 1, 1, some 0x0A000002⟩, ⟨"a", "p", false, 0, 0, 0, 0⟩⟩) ∧
      getClientRow ⟨.v6 1, 1, 1⟩ (updateClient 86400 ⟨.v6 1, 1, 1⟩ ⟨some "b", none⟩
          ⟨⟨.v6 1, 1, 1, some 0x0A000002⟩, ⟨"a", "p", false, 0, 0, 0, 0⟩⟩ 86400 86401
          [⟨⟨.v6 1, 1, 1, some 0x0A000002⟩, ⟨"a", "p", false, 0, 0, 0, 0⟩⟩]) =
        some (some ⟨⟨.v6 1, 1, 1, some 0x0A000002⟩, ⟨"b", "p", false, 0, 86401, 0, 0⟩⟩) :=
  ⟨rfl, @getClientRow_updateClient 86400 ⟨.v6 1, 1, 1⟩ ⟨some "b", none⟩
    [⟨⟨.v6 1, 1, 1, some 0x0A000002⟩, ⟨"a", "p", false, 0, 0, 0, 0⟩⟩]
    ⟨⟨.v6 1, 1, 1, some 0x0A000002⟩, ⟨"a", "p", false, 0, 0, 0, 0⟩⟩ rfl 86400 86401⟩

@[simp] theorem updateIfChanged_client (client : Identity) (old : String) (value : Option String)
    (set : String → Columns → Columns) (rows : List ClientRow) :
    (updateIfChanged client old value set rows).map (·.client) = rows.map (·.client) := by
  cases value with
  | none => rfl
  | some v =>
    simp only [updateIfChanged]
    split_ifs <;> simp

@[simp] theorem updateClient_client (client : Identity) (regDetails : ExitRegistrationDetails)
    (theirRecord : ClientRow) (currentTime now : BitVec 64) (rows : List ClientRow) :
    (updateClient oneDay client regDetails theirRecord currentTime now rows).map (·.client) =
      rows.map (·.client) := by
  dsimp only [updateClient]
  split_ifs <;> simp

/-- **Delete, then look up.** After `delete_client` of a mesh ip, `get_client` finds no row for an
identity with that mesh ip, and finds for every other identity what it found before. -/
theorem getClientRow_deleteClient (meshIp : IpAddr) (client : Identity) (rows : List ClientRow) :
    getClientRow client (deleteClient meshIp rows) =
      if client.meshIp = meshIp then some none else getClientRow client rows := by
  -- a row of the client has the client's mesh ip, so the two filters meet in one test
  have hp : ∀ r, (matchesIdentity client r && r.client.meshIp != meshIp) =
      (matchesIdentity client r && !decide (client.meshIp = meshIp)) := fun r => by
    cases hm : matchesIdentity client r <;> simp_all [matchesIdentity, bne, Bool.beq_eq_decide_eq]
  unfold getClientRow deleteClient
  rw [List.filter_filter, List.filter_congr fun r _ => hp r]
  split_ifs with hc <;> simp [hc]

end

/-! ## Runs of database operations -/

section
variable (increment : IpAddr → UInt8 → Except String IpAddr) (oneDay : BitVec 64)
  (newColumns : Identity → ExitRegistrationDetails → String → Columns)

/-- `create_or_update_user_record` on the rows: `update_client` on the client's row when it has
one, and otherwise the insert of a row with the address `get_next_client_ip` hands out. `none`
when `get_client` panics or the loop of `get_next_client_ip` runs out of `fuel`. -/
def createOrUpdateUserRecord (settings : ExitNetwork) (fuel : Nat) (client : Identity)
    (regDetails : ExitRegistrationDetails) (userCountry : String) (currentTime now : BitVec 64)
    (rows : List ClientRow) : Option (Except String (ClientRow × List ClientRow)) :=
  match getClientRow client rows with
  | none => none
  | some (some val) => some (.ok (val, updateClient oneDay client regDetails val currentTime now rows))
  | some none =>
    match getNextClientIp increment settings (rows.map (·.client)) fuel with
    | none => none
    | some (.error e) => some (.error e)
    | some (.ok newIp) =>
      let c : ClientRow := ⟨clientToNewDbClient client newIp, newColumns client regDetails userCountry⟩
      some (.ok (c, rows ++ [c]))

/-- The table after a call: what the call wrote, or the table as it was when the call failed. -/
def tableAfter (rows : List ClientRow) : Option (Except String (ClientRow × List ClientRow)) →
    List ClientRow
  | some (.ok (_, rows')) => rows'
  | _ => rows

theorem signup_of_getClient {settings : ExitNetwork} {fuel : Nat} {client : Identity}
    {clients : List Client} (h : getClient client clients ≠ some none) :
    signup increment settings fuel client clients = clients := by
  unfold signup
  rcases hg : getClient client clients with _ | _ | _
  · simp only [signupStep, hg]
  · exact absurd hg h
  · simp only [signupStep, hg]

/-- **The two levels agree.** On the identity columns and `internal_ip`, the rows that
`create_or_update_user_record` leaves are the table that `signup` leaves. -/
theorem createOrUpdateUserRecord_client (settings : ExitNetwork) (fuel : Nat) (client : Identity)
    (regDetails : ExitRegistrationDetails) (userCountry : String) (currentTime now : BitVec 64)
    (rows : List ClientRow) :
    (tableAfter rows (createOrUpdateUserRecord increment oneDay newColumns settings fuel client
        regDetails userCountry currentTime now rows)).map (·.client) =
      signup increment settings fuel client (rows.map (·.client)) := by
  have hg := getClientRow_client client rows
  unfold createOrUpdateUserRecord
  rcases hc : getClientRow client rows with _ | _ | val <;> rw [hc] at hg
  · rw [signup_of_getClient increment (by rw [← hg]; simp)]
    rfl
  · unfold signup
    simp only [signupStep, ← hg, Option.map_some', Option.map_none']
    rcases hn : getNextClientIp increment settings (rows.map (·.client)) fuel with _ | _ | _ <;>
      simp [tableAfter, hn]
  · rw [signup_of_getClient increment (by rw [← hg]; simp)]
    exact updateClient_client ..

/-- A call of one of the database functions, with its arguments. -/
inductive DbOp where
  | createOrUpdateUserRecord (client : Identity) (regDetails : ExitRegistrationDetails)
      (userCountry : String) (currentTime now : BitVec 64)
  | updateClient (client : Identity) (regDetails : ExitRegistrationDetails) (theirRecord : ClientRow)
      (currentTime now : BitVec 64)
  | verifyClient (client : Identity) (clientVerified : Bool)
  | verifyDbClient (client : Client) (clientVerified : Bool)
  | textSent (client : Identity) (val : BitVec 32)
  | deleteClient (meshIp : IpAddr)
  | setClientTimestamp (meshIp : IpAddr) (now : BitVec 64)
  | updateMailSentTime (regDetails : ExitRegistrationDetails) (now : BitVec 64)
  | updateLowBalanceNotificationTime (client : Identity) (now : BitVec 64)
  | truncateTables

/-- The table after one call; a failed call leaves it as it was. -/
def DbOp.apply (settings : ExitNetwork) (fuel : Nat) : DbOp → List ClientRow → List ClientRow
  | .createOrUpdateUserRecord client regDetails userCountry currentTime now, rows =>
    tableAfter rows (Rita.createOrUpdateUserRecord increment oneDay newColumns settings fuel client
      regDetails userCountry currentTime now rows)
  | .updateClient client regDetails theirRecord currentTime now, rows =>
    Rita.updateClient oneDay client regDetails theirRecord currentTime now rows
  | .verifyClient client clientVerified, rows => Rita.verifyClient client clientVerified rows
  | .verifyDbClient client clientVerified, rows => Rita.verifyDbClient client clientVerified rows
  | .textSent client val, rows => Rita.textSent client val rows
  | .deleteClient meshIp, rows => Rita.deleteClient meshIp rows
  | .setClientTimestamp meshIp now, rows => Rita.setClientTimestamp meshIp now rows
  | .updateMailSentTime regDetails now, rows =>
    match Rita.updateMailSentTime regDetails now rows with
    | .ok rows' => rows'
    | .error _ => rows
  | .updateLowBalanceNotificationTime client now, rows =>
    Rita.updateLowBalanceNotificationTime client now rows
  | .truncateTables, rows => Rita.truncateTables rows

/-- The calls one after another. -/
def runDbOps (settings : ExitNetwork) (fuel : Nat) (ops : List DbOp) (rows : List ClientRow) :
    List ClientRow :=
  ops.foldl (fun rows op => op.apply increment oneDay newColumns settings fuel rows) rows

/-- `rows'` adds no row to `rows` and changes neither the identity columns nor `internal_ip` of a
row it keeps. -/
def KeepsClients (rows rows' : List ClientRow) : Prop :=
  (rows'.map (·.client)).Sublist (rows.map (·.client))

/-- `create_or_update_user_record`, the one call that inserts a row. -/
def DbOp.isSignup : DbOp → Bool
  | .createOrUpdateUserRecord .. => true
  | _ => false

/-- **What one call can do** to the identity columns and `internal_ip`: a signup, or nothing but
deleting rows. -/
theorem DbOp.apply_cases (settings : ExitNetwork) (fuel : Nat) (op : DbOp) (rows : List ClientRow) :
    op.isSignup = true ∧ (∃ client, (op.apply increment oneDay newColumns settings fuel rows).map
      (·.client) = signup increment settings fuel client (rows.map (·.client))) ∨
    op.isSignup = false ∧ KeepsClients rows (op.apply increment oneDay newColumns settings fuel rows) := by
  cases op with
  | createOrUpdateUserRecord client regDetails userCountry currentTime now =>
    exact .inl ⟨rfl, client, createOrUpdateUserRecord_client ..⟩
  | deleteClient meshIp => exact .inr ⟨rfl, (List.filter_sublist _).map _⟩
  | truncateTables => exact .inr ⟨rfl, List.nil_sublist _⟩
  | updateMailSentTime regDetails now =>
    refine .inr ⟨rfl, ?_⟩
    unfold DbOp.apply Rita.updateMailSentTime
    rcases regDetails with ⟨_ | _, _⟩ <;> simp [KeepsClients]
  | _ => exact .inr ⟨rfl, by simp [KeepsClients, DbOp.apply, Rita.verifyClient,
      Rita.verifyDbClient, Rita.textSent, Rita.setClientTimestamp,
      Rita.updateLowBalanceNotificationTime]⟩

theorem internalIpsUnique_of_keepsClients {rows rows' : List ClientRow} (h : KeepsClients rows rows')
    (hu : InternalIpsUnique (rows.map (·.client))) : InternalIpsUnique (rows'.map (·.client)) :=
  hu.sublist (h.filterMap _)

/-- **Internal ips stay distinct over every serial run** of the database functions, from a table
where they are distinct, whatever `increment` does; and a run without a signup keeps the identity
columns and `internal_ip` of the rows it keeps, and adds none. -/
theorem runDbOps_internalIpsUnique (settings : ExitNetwork) (fuel : Nat) (ops : List DbOp)
    (rows : List ClientRow) :
    (InternalIpsUnique (rows.map (·.client)) →
      InternalIpsUnique ((runDbOps increment oneDay newColumns settings fuel ops rows).map (·.client))) ∧
    ((∀ op ∈ ops, op.isSignup = false) →
      KeepsClients rows (runDbOps increment oneDay newColumns settings fuel ops rows)) := by
  induction ops generalizing rows with
  | nil => exact ⟨id, fun _ => List.Sublist.refl _⟩
  | cons op ops ih =>
    obtain ⟨ihu, ihk⟩ := ih (op.apply increment oneDay newColumns settings fuel rows)
    rcases DbOp.apply_cases increment oneDay newColumns settings fuel op rows with
      ⟨hs, client, he⟩ | ⟨hs, hk⟩
    · exact ⟨fun h => ihu (he ▸ signup_internalIpsUnique increment h),
        fun hs' => absurd ((hs' op (List.mem_cons_self _ _)).symm.trans hs) Bool.false_ne_true⟩
    · exact ⟨fun h => ihu (internalIpsUnique_of_keepsClients hk h),
        fun hs' => (ihk fun o ho => hs' o (List.mem_cons_of_mem _ ho)).trans hk⟩

/-- Two signups, a verification and a deletion from an empty table, with an `increment` that adds
one to an IPv4 address; the last two calls keep the rows of the first two. -/
theorem runDbOps_two_signups :
    InternalIpsUnique (([] : List ClientRow).map (·.client)) ∧
      InternalIpsUnique ((runDbOps (fun ip _ => match ip with | .v4 a => .ok (.v4 (a + 1)) | ip => .ok ip)
        86400 (fun _ _ _ => ⟨"", "", false, 0, 0, 0, 0⟩) ⟨24, 0x0A000002, .v4 0x0A000001⟩ 4
        [.createOrUpdateUserRecord ⟨.v6 1, 1, 1⟩ ⟨none, none⟩ "US" 0 0,
          .createOrUpdateUserRecord ⟨.v6 2, 2, 2⟩ ⟨none, none⟩ "US" 0 0,
          .verifyClient ⟨.v6 1, 1, 1⟩ true, .deleteClient (.v6 2)] []).map (·.client)) ∧
      (∀ op ∈ [DbOp.verifyClient ⟨.v6 1, 1, 1⟩ true, .deleteClient (.v6 2)], op.isSignup = false) ∧
      KeepsClients [⟨⟨.v6 1, 1, 1, some 0x0A000002⟩, ⟨"", "", false, 0, 0, 0, 0⟩⟩]
        (runDbOps (fun ip _ => match ip with | .v4 a => .ok (.v4 (a + 1)) | ip => .ok ip)
          86400 (fun _ _ _ => ⟨"", "", false, 0, 0, 0, 0⟩) ⟨24, 0x0A000002, .v4 0x0A000001⟩ 4
          [.verifyClient ⟨.v6 1, 1, 1⟩ true, .deleteClient (.v6 2)]
          [⟨⟨.v6 1, 1, 1, some 0x0A000002⟩, ⟨"", "", false, 0, 0, 0, 0⟩⟩]) :=
  ⟨List.nodup_nil, (runDbOps_internalIpsUnique _ _ _ _ _ _ _).1 List.nodup_nil, by decide,
    (runDbOps_internalIpsUnique _ _ _ _ _ _ _).2 (by decide)⟩

/-! ## The identity columns -/

/-- No two rows share a mesh ip, a wg key or an eth address. -/
def IdentityColumnsUnique (clients : List Client) : Prop :=
  (clients.map (·.meshIp)).Nodup ∧ (clients.map (·.wgPubkey)).Nodup ∧
    (clients.map (·.ethAddress)).Nodup

theorem getClientRow_eq_some_none {client : Identity} {rows : List ClientRow} :
    getClientRow client rows = some none ↔ clientExists client rows = false := by
  have hiff : clientExists client rows = false ↔ rows.filter (matchesIdentity client) = [] := by
    simp [clientExists, List.filter_eq_nil_iff]
  rw [hiff]
  unfold getClientRow
  rcases rows.filter (matchesIdentity client) with _ | ⟨_, _ | ⟨_, _⟩⟩ <;> simp

theorem getClientRow_ne_none {rows : List ClientRow} (h : (rows.map (·.client.meshIp)).Nodup)
    (client : Identity) : getClientRow client rows ≠ none := by
  have hnd : ((rows.filter (matchesIdentity client)).map (·.client.meshIp)).Nodup :=
    h.sublist ((List.filter_sublist _).map _)
  have hall : ∀ r ∈ rows.filter (matchesIdentity client), r.client.meshIp = client.meshIp := by
    intro r hr
    simp_all [matchesIdentity]
  unfold getClientRow
  rcases hf : rows.filter (matchesIdentity client) with _ | ⟨a, _ | ⟨b, rest⟩⟩
  · simp
  · simp
  · rw [hf] at hnd hall
    simp only [List.map_cons, List.nodup_cons, List.mem_cons, not_or] at hnd
    exact absurd ((hall a (by simp)).trans (hall b (by simp)).symm) hnd.1.1

theorem signup_identityColumnsUnique {settings : ExitNetwork} {fuel : Nat} {client : Identity}
    {clients : List Client} (hip : ∀ c ∈ clients, ¬c.meshIp = client.meshIp)
    (hwg : ∀ c ∈ clients, ¬c.wgPubkey = client.wgPublicKey)
    (heth : ∀ c ∈ clients, ¬c.ethAddress = client.ethAddress) (h : IdentityColumnsUnique clients) :
    IdentityColumnsUnique (signup increment settings fuel client clients) := by
  rcases signup_cases increment settings fuel client clients with hs | ⟨ip, -, hs⟩ <;> rw [hs]
  · exact h
  · simp only [IdentityColumnsUnique, List.map_append, List.map_cons, List.map_nil,
      List.nodup_append, List.nodup_singleton, List.disjoint_singleton, true_and, List.mem_map,
      clientToNewDbClient, not_exists, not_and]
    exact ⟨⟨h.1, hip⟩, ⟨h.2.1, hwg⟩, h.2.2, heth⟩

/-- **A signup that `client_conflict` lets through keeps the identity columns distinct.** After
`create_or_update_user_record` of a client for which `client_conflict` returned `false`, from a
table where no two rows share a mesh ip, a wg key or an eth address, that still holds, and so
`get_client` never panics on the table. -/
theorem createOrUpdateUserRecord_identityColumnsUnique {settings : ExitNetwork} {fuel : Nat}
    {client : Identity} {regDetails : ExitRegistrationDetails} {userCountry : String}
    {currentTime now : BitVec 64} {rows : List ClientRow} (hc : clientConflict client rows = false)
    (h : IdentityColumnsUnique (rows.map (·.client))) :
    let rows' := tableAfter rows (createOrUpdateUserRecord increment oneDay newColumns settings fuel
      client regDetails userCountry currentTime now rows)
    IdentityColumnsUnique (rows'.map (·.client)) ∧ ∀ c, getClientRow c rows' ≠ none := by
  intro rows'
  have hu : IdentityColumnsUnique (rows'.map (·.client)) := by
    rw [createOrUpdateUserRecord_client]
    unfold clientConflict at hc
    split_ifs at hc with he
    · refine (signup_of_getClient increment ?_).symm ▸ h
      rw [← getClientRow_client, ne_eq, Option.map_eq_some']
      rintro ⟨_ | _, hx, hxn⟩
      · exact absurd (getClientRow_eq_some_none.mp hx) (by simpa using he)
      · cases hxn
    · simp only [Bool.or_eq_false_iff, List.any_eq_false, beq_iff_eq] at hc
      exact signup_identityColumnsUnique increment (List.forall_mem_map.mpr hc.1.1)
        (List.forall_mem_map.mpr hc.2) (List.forall_mem_map.mpr hc.1.2) h
  exact ⟨hu, getClientRow_ne_none (by simpa [List.map_map, Function.comp_def] using hu.1)⟩

/-- Beside the row of client `1`, client `2` signs up and gets a row of its own, and client `1`
signs up again onto its row; neither meets a conflict. -/
theorem signups_beside_a_row_keep_identity_columns_unique :
    (clientConflict ⟨.v6 2, 2, 2⟩ [⟨⟨.v6 1, 1, 1, some 0x0A000002⟩, ⟨"", "", false, 0, 0, 0, 0⟩⟩] =
        false ∧
      IdentityColumnsUnique (([⟨⟨.v6 1, 1, 1, some 0x0A000002⟩, ⟨"", "", false, 0, 0, 0, 0⟩⟩] :
        List ClientRow).map (·.client)) ∧
      IdentityColumnsUnique ((tableAfter [⟨⟨.v6 1, 1, 1, some 0x0A000002⟩, ⟨"", "", false, 0, 0, 0, 0⟩⟩]
        (createOrUpdateUserRecord (fun ip _ => match ip with | .v4 a => .ok (.v4 (a + 1)) | ip => .ok ip)
          86400 (fun _ _ _ => ⟨"", "", false, 0, 0, 0, 0⟩) ⟨24, 0x0A000002, .v4 0x0A000001⟩ 4
          ⟨.v6 2, 2, 2⟩ ⟨none, none⟩ "US" 0 0
          [⟨⟨.v6 1, 1, 1, some 0x0A000002⟩, ⟨"", "", false, 0, 0, 0, 0⟩⟩])).map (·.client))) ∧
    (clientConflict ⟨.v6 1, 1, 1⟩ [⟨⟨.v6 1, 1, 1, some 0x0A000002⟩, ⟨"", "", false, 0, 0, 0, 0⟩⟩] =
        false ∧
      IdentityColumnsUnique ((tableAfter [⟨⟨.v6 1, 1, 1, some 0x0A000002⟩, ⟨"", "", false, 0, 0, 0, 0⟩⟩]
        (createOrUpdateUserRecord (fun ip _ => match ip with | .v4 a => .ok (.v4 (a + 1)) | ip => .ok ip)
          86400 (fun _ _ _ => ⟨"", "", false, 0, 0, 0, 0⟩) ⟨24, 0x0A000002, .v4 0x0A000001⟩ 4
          ⟨.v6 1, 1, 1⟩ ⟨some "a@b", none⟩ "US" 0 0
          [⟨⟨.v6 1, 1, 1, some 0x0A000002⟩, ⟨"", "", false, 0, 0, 0, 0⟩⟩])).map (·.client))) :=
  have hu : IdentityColumnsUnique (([⟨⟨.v6 1, 1, 1, some 0x0A000002⟩, ⟨"", "", false, 0, 0, 0, 0⟩⟩] :
      List ClientRow).map (·.client)) :=
    ⟨List.nodup_singleton _, List.nodup_singleton _, List.nodup_singleton _⟩
  ⟨⟨rfl, hu, (@createOrUpdateUserRecord_identityColumnsUnique
      (fun ip _ => match ip with | .v4 a => .ok (.v4 (a + 1)) | ip => .ok ip) 86400
      (fun _ _ _ => ⟨"", "", false, 0, 0, 0, 0⟩) ⟨24, 0x0A000002, .v4 0x0A000001⟩ 4 ⟨.v6 2, 2, 2⟩
      ⟨none, none⟩ "US" 0 0 [⟨⟨.v6 1, 1, 1, some 0x0A000002⟩, ⟨"", "", false, 0, 0, 0, 0⟩⟩] rfl hu).1⟩,
    ⟨rfl, (@createOrUpdateUserRecord_identityColumnsUnique
      (fun ip _ => match ip with | .v4 a => .ok (.v4 (a + 1)) | ip => .ok ip) 86400
      (fun _ _ _ => ⟨"", "", false, 0, 0, 0, 0⟩) ⟨24, 0x0A000002, .v4 0x0A000001⟩ 4 ⟨.v6 1, 1, 1⟩
      ⟨some "a@b", none⟩ "US" 0 0 [⟨⟨.v6 1, 1, 1, some 0x0A000002⟩, ⟨"", "", false, 0, 0, 0, 0⟩⟩] rfl
      hu).1⟩⟩

end

end Rita
