import Rita.Types

/-! # The exit's registration endpoints

`rita_exit::network_endpoints`: `decrypt_exit_client_id`, and the two endpoints that read an
`EncryptedExitClientIdentity`, `secure_setup_request` (which signs the client up) and
`secure_status_request` (which reads its registration state).

The libraries the endpoints call are the fields of an `ExitLib`: `box_::open`,
`String::from_utf8`, `serde_json::from_str` and the parse of the remote address, and the
database functions are the fields of an `ExitDb`. A reply, `secure_setup_return`, is an
`ExitState` sealed to a public key; what matters of it is the state and the key. Each endpoint
returns its reply (or the error its future fails with) and the database functions it called.

`box_::open` authenticates the ciphertext under the envelope's `pubkey`, and the setup endpoint
compares the remote address with the decrypted `mesh_ip`; nothing compares the envelope's
`pubkey` with the decrypted `wg_public_key` (`exit_endpoints_db_calls`). An envelope sealed with
one key pair around another client's identity is therefore signed up
(`setup_signs_up_foreign_wg_key`). -/

namespace Rita

/-- Modelled from the spec: `althea_types::EncryptedExitClientIdentity`, the envelope
`{pubkey, nonce, ciphertext}`. -/
structure EncryptedExitClientIdentity where
  pubkey : WgKey
  nonce : BitVec 192
  encryptedExitClientId : List UInt8

/-- Modelled from the spec: `althea_types::ExitClientIdentity`, a client's identity and the port
it listens on. -/
structure ExitClientIdentity where
  wgPort : UInt16
  global : Identity
deriving DecidableEq, Repr

/-- Modelled from the spec: `althea_types::ExitState`. Only the message of `Denied` is made or
read here. -/
inductive ExitState where
  | new
  | gotInfo
  | pending
  | registered
  | denied (message : String)
deriving DecidableEq, Repr

/-- The library functions the endpoints call: `box_::open` (ciphertext, nonce, their public key,
our secret key), `String::from_utf8`, `serde_json::from_str::<ExitClientIdentity>`, and the parse
of the remote address into a `SocketAddr`. -/
structure ExitLib where
  boxOpen : List UInt8 → BitVec 192 → WgKey → WgKey → Option (List UInt8)
  fromUtf8 : List UInt8 → Option String
  parseClientId : String → Option ExitClientIdentity
  parseSocketAddr : String → Option SocketAddr

/-- What the database answers: `signup_client`, `get_database_connection` and `client_status`. -/
structure ExitDb where
  signupClient : ExitClientIdentity → Except String ExitState
  getDatabaseConnection : Except String Unit
  clientStatus : ExitClientIdentity → Except String ExitState

/-- A call of a database function. -/
inductive DbCall where
  | signupClient (client : ExitClientIdentity)
  | clientStatus (client : ExitClientIdentity)
deriving DecidableEq, Repr

/-- `EncryptedExitState`: a state sealed to a public key, under our secret key and a fresh
nonce. -/
structure EncryptedExitState where
  state : ExitState
  theirPubkey : WgKey
deriving DecidableEq, Repr

/-- `secure_setup_return`. -/
def secureSetupReturn (ret : ExitState) (theirPubkey : WgKey) : EncryptedExitState :=
  ⟨ret, theirPubkey⟩

/-- `DecryptResult`. -/
inductive DecryptResult where
  | success (client : ExitClientIdentity)
  | failure (reply : EncryptedExitState)

section
variable (lib : ExitLib) (db : ExitDb) (ourSecretkey : WgKey)

/-- `decrypt_exit_client_id`: open the box under the envelope's key, then decode. A failure is a
`Denied` sealed to the envelope's key. -/
def decryptExitClientId (val : EncryptedExitClientIdentity) : DecryptResult :=
  match lib.boxOpen val.encryptedExitClientId val.nonce val.pubkey ourSecretkey with
  | none => .failure (secureSetupReturn (.denied "could not decrypt your message!") val.pubkey)
  | some decryptedBytes =>
    match lib.fromUtf8 decryptedBytes with
    | none => .failure (secureSetupReturn (.denied "could not decrypt your message!") val.pubkey)
    | some decryptedString =>
      match lib.parseClientId decryptedString with
      | none =>
        .failure (secureSetupReturn (.denied "could not deserialize your message!") val.pubkey)
      | some decryptedId => .success decryptedId

/-- `secure_setup_request`, with the remote address of the connection (`None` when actix has
none): sign the client up when the remote ip is the decrypted `mesh_ip`. -/
def secureSetupRequest (val : EncryptedExitClientIdentity) (remote : Option String) :
    Except String EncryptedExitState × List DbCall :=
  match decryptExitClientId lib ourSecretkey val with
  | .failure reply => (.ok reply, [])
  | .success decryptedId =>
    match remote.bind lib.parseSocketAddr with
    | none => (.error "Invalid packet!", [])
    | some remoteMeshSocket =>
      if remoteMeshSocket.ip = decryptedId.global.meshIp then
        match db.signupClient decryptedId with
        | .ok exitState => (.ok (secureSetupReturn exitState val.pubkey), [.signupClient decryptedId])
        | .error _ => (.error "There was an internal server error!", [.signupClient decryptedId])
      else
        (.ok (secureSetupReturn (.denied "The request ip does not match the signup ip") val.pubkey),
          [])

/-- `secure_status_request`: the registration state of the decrypted client. -/
def secureStatusRequest (val : EncryptedExitClientIdentity) :
    Except String EncryptedExitState × List DbCall :=
  match decryptExitClientId lib ourSecretkey val with
  | .failure reply => (.ok reply, [])
  | .success decryptedId =>
    match db.getDatabaseConnection with
    | .error e => (.error e, [])
    | .ok () =>
      match db.clientStatus decryptedId with
      | .ok state => (.ok (secureSetupReturn state val.pubkey), [.clientStatus decryptedId])
      | .error _ => (.error "There was an internal error!", [.clientStatus decryptedId])

/-! ## What the endpoints do -/

/-- The box opens under the envelope's key and its plaintext decodes to `c`. -/
def Decrypts (val : EncryptedExitClientIdentity) (c : ExitClientIdentity) : Prop :=
  ∃ bytes s, lib.boxOpen val.encryptedExitClientId val.nonce val.pubkey ourSecretkey = some bytes ∧
    lib.fromUtf8 bytes = some s ∧ lib.parseClientId s = some c

/-- `decrypt_exit_client_id` succeeds exactly when the envelope decrypts; otherwise it replies
with a `Denied` sealed to the envelope's key. -/
theorem decryptExitClientId_spec (val : EncryptedExitClientIdentity) :
    (∃ c, decryptExitClientId lib ourSecretkey val = .success c ∧ Decrypts lib ourSecretkey val c) ∨
      ((∀ c, ¬Decrypts lib ourSecretkey val c) ∧ ∃ m,
        decryptExitClientId lib ourSecretkey val = .failure (secureSetupReturn (.denied m) val.pubkey)) := by
  unfold decryptExitClientId Decrypts
  cases hb : lib.boxOpen val.encryptedExitClientId val.nonce val.pubkey ourSecretkey with
  | none => exact .inr ⟨by simp, _, rfl⟩
  | some bytes =>
    dsimp only
    cases hu : lib.fromUtf8 bytes with
    | none => exact .inr ⟨by simp [hu], _, rfl⟩
    | some s =>
      dsimp only
      cases hp : lib.parseClientId s with
      | none => exact .inr ⟨by simp [hu, hp], _, rfl⟩
      | some c => exact .inl ⟨c, rfl, bytes, s, rfl, hu, hp⟩

theorem decryptExitClientId_eq_success {val : EncryptedExitClientIdentity} {c : ExitClientIdentity} :
    decryptExitClientId lib ourSecretkey val = .success c ↔ Decrypts lib ourSecretkey val c := by
  rcases decryptExitClientId_spec lib ourSecretkey val with ⟨c', h, hd⟩ | ⟨hn, m, h⟩ <;> rw [h]
  · refine ⟨fun he => by cases he; exact hd, fun hd' => ?_⟩
    obtain ⟨b, s, hb, hs, hc⟩ := hd
    obtain ⟨b', s', hb', hs', hc'⟩ := hd'
    rw [hb, Option.some.injEq] at hb'
    subst hb'
    rw [hs, Option.some.injEq] at hs'
    subst hs'
    rw [hc, Option.some.injEq] at hc'
    rw [hc']
  · exact ⟨(fun he => by cases he), fun hd => absurd hd (hn c)⟩

/-- The database functions `secure_setup_request` calls: `signup_client` on the decrypted
client, once, when the remote ip is its `mesh_ip`. Otherwise the reply is a `Denied` sealed to
the envelope's key, or the error of a missing or malformed remote address. -/
theorem secureSetupRequest_spec (val : EncryptedExitClientIdentity) (remote : Option String) :
    (∃ c sock, Decrypts lib ourSecretkey val c ∧ remote.bind lib.parseSocketAddr = some sock ∧
        sock.ip = c.global.meshIp ∧ (secureSetupRequest lib db ourSecretkey val remote).2 = [.signupClient c]) ∨
      ((secureSetupRequest lib db ourSecretkey val remote).2 = [] ∧
        ((∃ m, (secureSetupRequest lib db ourSecretkey val remote).1 =
            .ok (secureSetupReturn (.denied m) val.pubkey)) ∨
          (secureSetupRequest lib db ourSecretkey val remote).1 = .error "Invalid packet!") ∧
        ∀ c sock, Decrypts lib ourSecretkey val c → remote.bind lib.parseSocketAddr = some sock →
          sock.ip ≠ c.global.meshIp) := by
  unfold secureSetupRequest
  rcases decryptExitClientId_spec lib ourSecretkey val with ⟨c, h, hd⟩ | ⟨hn, m, h⟩ <;> rw [h]
  · cases hs : remote.bind lib.parseSocketAddr with
    | none => exact .inr ⟨rfl, .inr rfl, fun _ _ _ h' => by cases h'⟩
    | some sock =>
      dsimp only
      by_cases hip : sock.ip = c.global.meshIp
      · rw [if_pos hip]
        exact .inl ⟨c, sock, hd, rfl, hip, by split <;> rfl⟩
      · rw [if_neg hip]
        refine .inr ⟨rfl, .inl ⟨_, rfl⟩, fun c' sock' hd' hs' => ?_⟩
        rw [← decryptExitClientId_eq_success, h] at hd'
        cases hd'
        cases hs'
        exact hip
  · exact .inr ⟨rfl, .inl ⟨m, rfl⟩, fun c _ hd _ => absurd hd (hn c)⟩

/-- The database functions `secure_status_request` calls: `client_status` on the decrypted
client, once, when a connection is obtained. Otherwise the reply is a `Denied` sealed to the
envelope's key, or the error of the connection. -/
theorem secureStatusRequest_spec (val : EncryptedExitClientIdentity) :
    (∃ c, Decrypts lib ourSecretkey val c ∧ db.getDatabaseConnection = .ok () ∧
        (secureStatusRequest lib db ourSecretkey val).2 = [.clientStatus c]) ∨
      ((secureStatusRequest lib db ourSecretkey val).2 = [] ∧
        ((∃ m, (secureStatusRequest lib db ourSecretkey val).1 =
            .ok (secureSetupReturn (.denied m) val.pubkey)) ∨
          ∃ e, db.getDatabaseConnection = .error e ∧ (secureStatusRequest lib db ourSecretkey val).1 = .error e) ∧
        ∀ c, Decrypts lib ourSecretkey val c → db.getDatabaseConnection ≠ .ok ()) := by
  unfold secureStatusRequest
  rcases decryptExitClientId_spec lib ourSecretkey val with ⟨c, h, hd⟩ | ⟨hn, m, h⟩ <;> rw [h]
  · cases hc : db.getDatabaseConnection with
    | error e => exact .inr ⟨rfl, .inr ⟨e, rfl, rfl⟩, fun _ _ h' => by cases h'⟩
    | ok u => exact .inl ⟨c, hd, rfl, by dsimp only; split <;> rfl⟩
  · exact .inr ⟨rfl, .inl ⟨m, rfl⟩, fun c hd _ => absurd hd (hn c)⟩

/-- **The database paths of the exit endpoints.** `secure_setup_request` makes exactly the one
call `signup_client(c)` iff the box opens under the envelope's key, its plaintext decodes to `c`,
and the remote address parses to `c`'s `mesh_ip`; `secure_status_request` makes exactly the one
call `client_status(c)` iff the envelope decrypts to `c` and a database connection is obtained.
Neither compares `c`'s `wg_public_key` with the envelope's key. Each endpoint makes no other
database call: when it makes none, the reply is a `Denied` sealed to the envelope's key, or the
setup fails with "Invalid packet!", or the status request with the error of the connection. -/
theorem exit_endpoints_db_calls (val : EncryptedExitClientIdentity) (remote : Option String) :
    (∀ c, (secureSetupRequest lib db ourSecretkey val remote).2 = [.signupClient c] ↔
        Decrypts lib ourSecretkey val c ∧
          ∃ sock, remote.bind lib.parseSocketAddr = some sock ∧ sock.ip = c.global.meshIp) ∧
      (∀ c, (secureStatusRequest lib db ourSecretkey val).2 = [.clientStatus c] ↔
        Decrypts lib ourSecretkey val c ∧ db.getDatabaseConnection = .ok ()) ∧
      ((∃ c, (secureSetupRequest lib db ourSecretkey val remote).2 = [.signupClient c]) ∨
        (secureSetupRequest lib db ourSecretkey val remote).2 = [] ∧
          ((∃ m, (secureSetupRequest lib db ourSecretkey val remote).1 =
              .ok (secureSetupReturn (.denied m) val.pubkey)) ∨
            (secureSetupRequest lib db ourSecretkey val remote).1 = .error "Invalid packet!")) ∧
      ((∃ c, (secureStatusRequest lib db ourSecretkey val).2 = [.clientStatus c]) ∨
        (secureStatusRequest lib db ourSecretkey val).2 = [] ∧
          ((∃ m, (secureStatusRequest lib db ourSecretkey val).1 =
              .ok (secureSetupReturn (.denied m) val.pubkey)) ∨
            ∃ e, db.getDatabaseConnection = .error e ∧
              (secureStatusRequest lib db ourSecretkey val).1 = .error e)) := by
  have hdet : ∀ {c c'}, Decrypts lib ourSecretkey val c → Decrypts lib ourSecretkey val c' → c = c' :=
    fun hd hd' => by
      rw [← decryptExitClientId_eq_success] at hd hd'
      exact DecryptResult.success.inj (hd.symm.trans hd')
  refine ⟨fun c => ?_, fun c => ?_, ?_, ?_⟩
  · rcases secureSetupRequest_spec lib db ourSecretkey val remote with
      ⟨c', sock, hd, hs, hip, h⟩ | ⟨h, -, hno⟩ <;> rw [h]
    · refine ⟨fun hc => ?_, fun ⟨hd', _⟩ => by rw [hdet hd hd']⟩
      cases hc
      exact ⟨hd, sock, hs, hip⟩
    · exact ⟨nofun, fun ⟨hd, sock, hs, hip⟩ => absurd hip (hno c sock hd hs)⟩
  · rcases secureStatusRequest_spec lib db ourSecretkey val with ⟨c', hd, hc, h⟩ | ⟨h, -, hno⟩ <;>
      rw [h]
    · refine ⟨fun hc' => ?_, fun ⟨hd', _⟩ => by rw [hdet hd hd']⟩
      cases hc'
      exact ⟨hd, hc⟩
    · exact ⟨nofun, fun ⟨hd, hc⟩ => absurd hc (hno c hd)⟩
  · exact (secureSetupRequest_spec lib db ourSecretkey val remote).imp
      (fun ⟨c, _, _, _, _, h⟩ => ⟨c, h⟩) (fun ⟨h, hr, _⟩ => ⟨h, hr⟩)
  · exact (secureStatusRequest_spec lib db ourSecretkey val).imp
      (fun ⟨c, _, _, h⟩ => ⟨c, h⟩) (fun ⟨h, hr, _⟩ => ⟨h, hr⟩)

end

/-- An envelope with `pubkey = 1` whose box opens to the identity of a client with
`wg_public_key = 2`, sent from that client's mesh ip, is signed up. -/
theorem setup_signs_up_foreign_wg_key :
    ¬∀ (lib : ExitLib) (db : ExitDb) (ourSecretkey : WgKey) (val : EncryptedExitClientIdentity)
        (remote : Option String) (c : ExitClientIdentity),
      DbCall.signupClient c ∈ (secureSetupRequest lib db ourSecretkey val remote).2 →
        c.global.wgPublicKey = val.pubkey := by
  intro h
  have h' := h ⟨fun ct _ _ _ => some ct, fun _ => some "", fun _ => some ⟨60000, ⟨.v6 1, 0, 2⟩⟩,
      fun _ => some ⟨.v6 1, 4876⟩⟩
    ⟨fun _ => .ok .pending, .ok (), fun _ => .ok .registered⟩ 0 ⟨1, 0, []⟩ (some "[fd00::1]:4876")
    ⟨60000, ⟨.v6 1, 0, 2⟩⟩ (by decide)
  revert h'
  decide

end Rita
