import Rita.Exit.NetworkEndpoints
import Rita.TunnelManager.Neighbors

/-! # The client's exits

`rita_client::dashboard::exits`: the client's settings hold its exits by nickname
(`exit_client.exits`) and the nickname of the selected one (`exit_client.current_exit`). The
dashboard adds exits (`add_exits`), merges a list fetched over HTTPS (`exits_sync`), sets an exit's
registration back to `New` (`reset_exit`), selects an exit (`select_exit`), and reports every exit
(`GetExitInfo`). The client loop's `check_for_gateway_client_billing_corner_case` reads the selected
exit and the tunnel manager's neighbors.

`ExitServer` and `get_current_exit` belong to the `settings` crate, which is not in the source: an
`ExitServer` here is what the functions read of it, the exit's identity and its registration state,
and `get_current_exit` is the lookup of `current_exit` in `exits`. `HashMap::extend` inserts the
pairs one by one, so a nickname already there takes the new value (`lookup_extendExits`). What a
handler asks of the outside world (the fetch of the list, its parse, the write of the settings, the
routes and the pings) is an argument. Rust's `{:?}` of a `String` is the section variable
`debugStr`.

No dashboard operation removes an exit, and none leaves `current_exit` naming an exit that is not
configured (`runDashboard_currentExitKnown`). The registration state of an exit changes only through
`reset_exit` and `add_exits` (`runDashboard_info`): `exits_sync` keeps the state of an exit it
already knows, where `add_exits` overwrites it (`sync_keeps_registration_add_replaces`). -/

namespace Rita.Client

open Rita

/-- What the source reads of `settings::client::ExitServer`. -/
structure ExitServer where
  id : Identity
  info : ExitState
deriving DecidableEq, Repr

/-- The exit list of `settings::client::ExitClientSettings`. -/
structure ExitClientSettings where
  exits : HashMap String ExitServer
  currentExit : Option String

/-- `HashMap::extend`: the pairs of `newExits` inserted one by one. -/
def extendExits (exits newExits : HashMap String ExitServer) : HashMap String ExitServer :=
  newExits.entries.foldl (fun m e => m.insert e.1 e.2) exits

theorem find?_reverse_entries {β : Type} (m : HashMap String β) (k : String) :
    (m.entries.reverse.find? (·.1 == k)).map (·.2) = m.lookup k := by
  cases h : m.lookup k with
  | none =>
    rw [Option.map_eq_none', List.find?_eq_none]
    intro e he hk
    have : k ∈ m := AList.mem_keys.mpr (List.mem_map.mpr ⟨e, List.mem_reverse.mp he, by simpa using hk⟩)
    exact AList.lookup_eq_none.mp h this
  | some v =>
    have hmem : (⟨k, v⟩ : Σ _ : String, β) ∈ m.entries := AList.mem_lookup_iff.mp h
    rw [(find?_reverse_eq_some_iff m.keys_nodup).mpr ⟨hmem, rfl⟩]
    rfl

/-- **`extend` installs over the old map**: the new value of a nickname wins, and every other
nickname keeps its exit. -/
theorem lookup_extendExits (exits newExits : HashMap String ExitServer) (k : String) :
    (extendExits exits newExits).lookup k = (newExits.lookup k).or (exits.lookup k) := by
  have h := lookup_foldl_insert (newExits.entries.map fun e => (e.1, e.2)) exits k
  rw [List.foldl_map] at h
  rw [extendExits, h, ← List.map_reverse, List.find?_map, Option.map_map, ← find?_reverse_entries newExits k]
  rfl

theorem mem_extendExits {exits newExits : HashMap String ExitServer} {k : String} :
    k ∈ extendExits exits newExits ↔ k ∈ newExits ∨ k ∈ exits := by
  simp only [← AList.lookup_isSome, lookup_extendExits]
  cases newExits.lookup k <;> simp

/-! ## The dashboard -/

/-- The replies of the exit endpoints. -/
inductive ExitsReply where
  /-- `200 OK` with every exit. -/
  | exits (exits : HashMap String ExitServer)
  /-- `200 OK` with an empty map. -/
  | ok
  /-- `400 Bad Request` with the map `{"error": error}`. -/
  | badRequest (error : String)
  /-- `500 Internal Server Error` with a JSON string. -/
  | internalError (message : String)
  /-- The returned future fails: the request or the write of the settings failed. -/
  | failed

/-- What `exits_sync` reads from the outside world: the body of the `GET` of the list (`none`
when the request fails, an error when the payload does), its parse, and whether the write of the
settings succeeds. The error texts are their `{:?}` renderings. -/
structure SyncEnv where
  body : Option (Except String String)
  parse : String → Except String (HashMap String ExitServer)
  writeOk : Bool

section
variable (debugStr : String → String)

/-- `add_exits`: the new exits are added, replacing exits of the same nickname. -/
def addExits (newExits : HashMap String ExitServer) (s : ExitClientSettings) :
    ExitsReply × ExitClientSettings :=
  let exits := extendExits s.exits newExits
  (.exits exits, { s with exits })

/-- The body of the loop of `exits_sync`: a fetched exit whose nickname is already configured gets
the configured exit's registration state. -/
def copyInfo (exits : HashMap String ExitServer) (nick : String) (newSettings : ExitServer) :
    ExitServer :=
  match exits.lookup nick with
  | some oldExit => { newSettings with info := oldExit.info }
  | none => newSettings

/-- The loop of `exits_sync` over the fetched list. -/
def copyRegistration (exits newExits : HashMap String ExitServer) : HashMap String ExitServer :=
  ⟨newExits.entries.map fun e => ⟨e.1, copyInfo exits e.1 e.2⟩,
    by simpa [List.NodupKeys, List.keys, Function.comp_def] using newExits.nodupKeys⟩

/-- `exits_sync`: the list at an `https://` url, fetched, parsed and merged. -/
def exitsSync (env : SyncEnv) (listUrlJson : HashMap String String) (s : ExitClientSettings) :
    ExitsReply × ExitClientSettings :=
  match listUrlJson.lookup "url" with
  | none => (.badRequest "Could not find a \"url\" key in supplied JSON", s)
  | some listUrl =>
    if decide ("https://".data <+: listUrl.data) then
      match env.body with
      | none => (.failed, s)
      | some (.error e) => (.internalError ("Actix encountered a payload error " ++ e), s)
      | some (.ok messageBody) =>
        match env.parse messageBody with
        | .ok newExits =>
          let exits := extendExits s.exits (copyRegistration s.exits newExits)
          (if env.writeOk then .exits exits else .failed, { s with exits })
        | .error e =>
          (.badRequest ("Could not deserialize exit list at URL " ++ debugStr listUrl ++
            " because of error " ++ e), s)
    else (.badRequest "Attempted to use a non-HTTPS url", s)

/-- `reset_exit`: the exit's registration goes back to `New` and the `wg_exit` interface is
deleted, whatever the outcome `delOk` of that call. -/
def resetExit (delOk : Bool) (exitName : String) (s : ExitClientSettings) :
    ExitsReply × ExitClientSettings × List Effect :=
  match s.exits.lookup exitName with
  | some exit =>
    (.ok, { s with exits := s.exits.insert exitName { exit with info := .new } },
      [.delInterface "wg_exit" delOk])
  | none => (.badRequest ("Requested reset on unknown exit " ++ debugStr exitName), s, [])

/-- `select_exit`: a configured exit becomes the current one; the settings are then written. -/
def selectExit (writeOk : Bool) (exitName : String) (s : ExitClientSettings) :
    ExitsReply × ExitClientSettings :=
  if exitName ∈ s.exits then
    (if writeOk then .ok else .failed, { s with currentExit := some exitName })
  else (.badRequest ("Requested selection of an unknown exit " ++ debugStr exitName), s)

theorem lookup_copyRegistration (exits newExits : HashMap String ExitServer) (k : String) :
    (copyRegistration exits newExits).lookup k = (newExits.lookup k).map (copyInfo exits k) :=
  List.dlookup_map₂ k

/-! ## The exit report -/

/-- A call of one of the exit endpoints, with what it reads from the outside world. -/
inductive DashboardOp where
  | addExits (newExits : HashMap String ExitServer)
  | exitsSync (env : SyncEnv) (listUrlJson : HashMap String String)
  | resetExit (delOk : Bool) (exitName : String)
  | selectExit (writeOk : Bool) (exitName : String)

/-- The settings after one call. -/
def DashboardOp.apply : DashboardOp → ExitClientSettings → ExitClientSettings
  | .addExits newExits, s => (Rita.Client.addExits newExits s).2
  | .exitsSync env listUrlJson, s => (Rita.Client.exitsSync debugStr env listUrlJson s).2
  | .resetExit delOk exitName, s => (Rita.Client.resetExit debugStr delOk exitName s).2.1
  | .selectExit writeOk exitName, s => (Rita.Client.selectExit debugStr writeOk exitName s).2

/-- The calls one after another. -/
def runDashboard (ops : List DashboardOp) (s : ExitClientSettings) : ExitClientSettings :=
  ops.foldl (fun s op => op.apply debugStr s) s

/-- `current_exit`, when set, names a configured exit. -/
def CurrentExitKnown (s : ExitClientSettings) : Prop :=
  ∀ n, s.currentExit = some n → n ∈ s.exits

theorem exitsSync_cases (env : SyncEnv) (listUrlJson : HashMap String String)
    (s : ExitClientSettings) :
    (exitsSync debugStr env listUrlJson s).2 = s ∨ ∃ newExits,
      (exitsSync debugStr env listUrlJson s).2 =
        { s with exits := extendExits s.exits (copyRegistration s.exits newExits) } := by
  obtain ⟨body, parse, writeOk⟩ := env
  unfold exitsSync
  rcases listUrlJson.lookup "url" with _ | listUrl
  · exact .inl rfl
  · dsimp only
    by_cases hp : "https://".data <+: listUrl.data
    · rw [if_pos (decide_eq_true hp)]
      rcases body with _ | _ | body
      · exact .inl rfl
      · exact .inl rfl
      · cases hb : parse body with
        | error e => exact .inl (by simp only [hb])
        | ok newExits => exact .inr ⟨newExits, by simp only [hb]⟩
    · rw [if_neg (by simpa using hp)]
      exact .inl rfl

theorem resetExit_cases (delOk : Bool) (exitName : String) (s : ExitClientSettings) :
    (resetExit debugStr delOk exitName s).2.1 = s ∨ ∃ exit, s.exits.lookup exitName = some exit ∧
      (resetExit debugStr delOk exitName s).2.1 =
        { s with exits := s.exits.insert exitName { exit with info := .new } } := by
  unfold resetExit
  split
  · exact .inr ⟨_, ‹_›, rfl⟩
  · exact .inl rfl

theorem selectExit_cases (writeOk : Bool) (exitName : String) (s : ExitClientSettings) :
    (selectExit debugStr writeOk exitName s).2 = s ∨ exitName ∈ s.exits ∧
      (selectExit debugStr writeOk exitName s).2 = { s with currentExit := some exitName } := by
  unfold selectExit
  by_cases h : exitName ∈ s.exits
  · exact .inr ⟨h, by rw [if_pos h]⟩
  · exact .inl (by rw [if_neg h])

/-- **What one call can do**: it keeps every configured exit, and it keeps `current_exit` or sets
it to a configured exit. -/
theorem DashboardOp.apply_cases (op : DashboardOp) (s : ExitClientSettings) :
    (∀ n ∈ s.exits, n ∈ (op.apply debugStr s).exits) ∧
      ((op.apply debugStr s).currentExit = s.currentExit ∨
        ∃ n ∈ s.exits, (op.apply debugStr s).currentExit = some n) := by
  cases op with
  | addExits newExits => exact ⟨fun n hn => mem_extendExits.mpr (.inr hn), .inl rfl⟩
  | exitsSync env listUrlJson =>
    rcases exitsSync_cases debugStr env listUrlJson s with h | ⟨newExits, h⟩ <;>
      simp only [DashboardOp.apply, h, true_or, and_true]
    · exact fun _ hn => hn
    · exact fun n hn => mem_extendExits.mpr (.inr hn)
  | resetExit delOk exitName =>
    rcases resetExit_cases debugStr delOk exitName s with h | ⟨exit, -, h⟩ <;>
      simp only [DashboardOp.apply, h, true_or, and_true]
    · exact fun _ hn => hn
    · exact fun n hn => (AList.mem_insert _).mpr (.inr hn)
  | selectExit writeOk exitName =>
    rcases selectExit_cases debugStr writeOk exitName s with h | ⟨hm, h⟩ <;>
      simp only [DashboardOp.apply, h, true_or, and_true]
    · exact fun _ hn => hn
    · exact ⟨fun _ hn => hn, .inr ⟨exitName, hm, rfl⟩⟩

/-- **No exit is lost and `current_exit` never dangles.** Over every run of the exit endpoints,
whatever the outside world answers, every configured exit stays configured, and from settings
whose `current_exit` names a configured exit (or none), `current_exit` still does. -/
theorem runDashboard_currentExitKnown :
    ∀ (ops : List DashboardOp) {s : ExitClientSettings}, CurrentExitKnown s →
      CurrentExitKnown (runDashboard debugStr ops s) ∧
        ∀ n ∈ s.exits, n ∈ (runDashboard debugStr ops s).exits
  | [], _, h => ⟨h, fun _ hn => hn⟩
  | op :: ops, s, h => by
    obtain ⟨hkeep, hcur⟩ := DashboardOp.apply_cases debugStr op s
    have h' : CurrentExitKnown (op.apply debugStr s) := by
      intro n hn
      rcases hcur with hc | ⟨m, hm, hc⟩
      · exact hkeep n (h n (hc ▸ hn))
      · exact hkeep n (Option.some.inj (hc.symm.trans hn) ▸ hm)
    obtain ⟨hk, hm⟩ := runDashboard_currentExitKnown ops h'
    exact ⟨hk, fun n hn => hm n (hkeep n hn)⟩

/-- Exit `a` is added and selected, then an unknown exit is selected: `current_exit` stays `a`. -/
theorem select_unknown_exit_keeps_current :
    CurrentExitKnown ⟨∅, none⟩ ∧
      CurrentExitKnown (runDashboard id
        [.addExits ((∅ : HashMap String ExitServer).insert "a" ⟨⟨.v6 1, 1, 1⟩, .new⟩),
          .selectExit true "a", .selectExit true "b"] ⟨∅, none⟩) :=
  ⟨fun _ h => Option.noConfusion h,
    (runDashboard_currentExitKnown id _ fun _ h => Option.noConfusion h).1⟩

theorem exitsSync_info (env : SyncEnv) (listUrlJson : HashMap String String)
    {s : ExitClientSettings} {n : String} {old : ExitServer} (hold : s.exits.lookup n = some old) :
    ∃ e, (exitsSync debugStr env listUrlJson s).2.exits.lookup n = some e ∧ e.info = old.info := by
  rcases exitsSync_cases debugStr env listUrlJson s with h | ⟨newExits, h⟩ <;> rw [h]
  · exact ⟨old, hold, rfl⟩
  · simp only [lookup_extendExits, lookup_copyRegistration, hold]
    cases newExits.lookup n with
    | none => exact ⟨old, rfl, rfl⟩
    | some srv => exact ⟨_, rfl, by simp [copyInfo, hold]⟩

/-- **`exits_sync` keeps registration, `add_exits` replaces it.** A configured exit keeps its
registration state through `exits_sync`, whatever the fetched list says of it and whatever the
outside world answers; `add_exits` replaces it by the new entry, registration state included. -/
theorem sync_keeps_registration_add_replaces {s : ExitClientSettings} {n : String}
    {old : ExitServer} (hold : s.exits.lookup n = some old) :
    (∀ env listUrlJson, ∃ e,
      (exitsSync debugStr env listUrlJson s).2.exits.lookup n = some e ∧ e.info = old.info) ∧
    (∀ newExits srv, newExits.lookup n = some srv → (addExits newExits s).2.exits.lookup n = some srv) :=
  ⟨fun env listUrlJson => exitsSync_info debugStr env listUrlJson hold,
    fun newExits srv h => by simp only [addExits, lookup_extendExits, h]; rfl⟩

/-- A fetched list that says exit `a` is `New` leaves the `Registered` exit `a` registered. -/
theorem sync_keeps_registered_exit :
    ((∅ : HashMap String ExitServer).insert "a" ⟨⟨.v6 1, 1, 1⟩, .registered⟩).lookup "a" =
        some ⟨⟨.v6 1, 1, 1⟩, .registered⟩ ∧
      ∃ e, (exitsSync id ⟨some (.ok "[]"),
          fun _ => .ok ((∅ : HashMap String ExitServer).insert "a" ⟨⟨.v6 2, 2, 2⟩, .new⟩), true⟩
          ((∅ : HashMap String String).insert "url" "https://exits")
          ⟨(∅ : HashMap String ExitServer).insert "a" ⟨⟨.v6 1, 1, 1⟩, .registered⟩, some "a"⟩).2.exits.lookup
            "a" = some e ∧ e.info = .registered :=
  ⟨rfl, (@sync_keeps_registration_add_replaces id
    ⟨(∅ : HashMap String ExitServer).insert "a" ⟨⟨.v6 1, 1, 1⟩, .registered⟩, some "a"⟩ "a"
    ⟨⟨.v6 1, 1, 1⟩, .registered⟩ rfl).1 _ _⟩

/-- The calls that may change the registration state of exit `n`: `add_exits` of a list that
names `n`, and `reset_exit` of `n`. -/
def DashboardOp.SetsInfo (n : String) : DashboardOp → Prop
  | .addExits newExits => n ∈ newExits
  | .resetExit _ exitName => exitName = n
  | _ => False

theorem DashboardOp.apply_info {op : DashboardOp} {n : String} (hop : ¬op.SetsInfo n)
    {s : ExitClientSettings} {old : ExitServer} (hold : s.exits.lookup n = some old) :
    ∃ e, (op.apply debugStr s).exits.lookup n = some e ∧ e.info = old.info := by
  cases op with
  | addExits newExits =>
    refine ⟨old, ?_, rfl⟩
    simp only [DashboardOp.apply, Rita.Client.addExits, lookup_extendExits, hold,
      AList.lookup_eq_none.mpr hop, Option.none_or]
  | exitsSync env listUrlJson => exact exitsSync_info debugStr env listUrlJson hold
  | resetExit delOk exitName =>
    rcases resetExit_cases debugStr delOk exitName s with h | ⟨exit, -, h⟩ <;>
      simp only [DashboardOp.apply, h]
    · exact ⟨old, hold, rfl⟩
    · exact ⟨old, by rw [AList.lookup_insert_ne (Ne.symm hop), hold], rfl⟩
  | selectExit writeOk exitName =>
    rcases selectExit_cases debugStr writeOk exitName s with h | ⟨-, h⟩ <;>
      simp only [DashboardOp.apply, h] <;> exact ⟨old, hold, rfl⟩

/-- **Registration changes only by reset or add.** Over every run of the exit endpoints in which
no `reset_exit` names `n` and no `add_exits` lists `n`, whatever the outside world answers, a
configured exit `n` stays configured with its registration state. -/
theorem runDashboard_info {n : String} :
    ∀ (ops : List DashboardOp), (∀ op ∈ ops, ¬op.SetsInfo n) → ∀ {s : ExitClientSettings}
      {old : ExitServer}, s.exits.lookup n = some old →
      ∃ e, (runDashboard debugStr ops s).exits.lookup n = some e ∧ e.info = old.info
  | [], _, _, old, hold => ⟨old, hold, rfl⟩
  | op :: ops, hops, s, old, hold => by
    obtain ⟨e, he, hinfo⟩ := DashboardOp.apply_info debugStr (hops op (List.mem_cons_self _ _)) hold
    obtain ⟨e', he', hinfo'⟩ :=
      runDashboard_info ops (fun op' h => hops op' (List.mem_cons_of_mem _ h)) he
    exact ⟨e', he', hinfo'.trans hinfo⟩

/-- Selecting exit `a` and syncing the list keep its registration. -/
theorem select_and_sync_keep_registration :
    (∀ op ∈ [DashboardOp.selectExit true "a", .exitsSync ⟨none, fun _ => .error "", true⟩ ∅],
        ¬op.SetsInfo "a") ∧
      ∃ e, (runDashboard id [.selectExit true "a", .exitsSync ⟨none, fun _ => .error "", true⟩ ∅]
          ⟨(∅ : HashMap String ExitServer).insert "a" ⟨⟨.v6 1, 1, 1⟩, .registered⟩, none⟩).exits.lookup
            "a" = some e ∧ e.info = .registered :=
  have hops : ∀ op ∈ [DashboardOp.selectExit true "a", .exitsSync ⟨none, fun _ => .error "", true⟩ ∅],
      ¬op.SetsInfo "a" := by
    intro op hop
    simp only [List.mem_cons, List.mem_singleton, List.not_mem_nil, or_false] at hop
    rcases hop with rfl | rfl <;> exact id
  ⟨hops, @runDashboard_info id "a" _ hops
    ⟨(∅ : HashMap String ExitServer).insert "a" ⟨⟨.v6 1, 1, 1⟩, .registered⟩, none⟩
    ⟨⟨.v6 1, 1, 1⟩, .registered⟩ rfl⟩

/-! ## The gateway corner case of the client loop -/

end

end Rita.Client
