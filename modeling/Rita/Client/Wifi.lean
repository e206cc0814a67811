import Mathlib.Data.List.Infix

/-! # The wireless settings of the client dashboard

`rita_client::dashboard::wifi`: the checks the dashboard makes before it writes a value into the
UCI config. `validate_config_value` guards the SSID and the password, `validate_channel` a new
channel, and `get_allowed_wifi_channels` lists the channels a radio may take.

A `&str` is a `String`, read as its characters. `str::find` returns a byte offset, the sum of the
`Char.utf8Size` of the characters before the match, while `chars().nth` takes a character index.
A panic is `none`. What a handler reads through `KI.get_uci_var` (the channel and the htmode) and
the `network.device` setting are arguments; the kernel calls that write the config are the
`WifiReply`. -/

namespace Rita.Client

/-- `ValidationError`. -/
inductive ValidationError where
  | illegalCharacter (pos : Nat) (c : Char)
  | empty
  | badChannel (width allowed : String)
  | wrongRadio
  | tooShort (n : Nat)
deriving DecidableEq, Repr

/-- The `#[fail(display = ...)]` texts of `ValidationError`. -/
def ValidationError.display : ValidationError → String
  | .illegalCharacter pos c => "Illegal character " ++ c.toString ++ " at position " ++ toString pos
  | .empty => "Empty value"
  | .badChannel width allowed =>
    "Incorrect channel! Your radio has a channel width of " ++ width ++ " please select one of " ++
      allowed
  | .wrongRadio => "Trying to set a 5ghz channel on a 2.4ghz radio or vice versa!"
  | .tooShort n => "Value too short (" ++ toString n ++ " required)"

/-- `FORBIDDEN_CHARS`: apostrophe, slash, double quote and backslash. -/
def forbiddenChars : String := "'/\"\\"

/-- `MINIMUM_PASS_CHARS`. -/
def minimumPassChars : Nat := 8

/-- `str::find` with a character predicate: the byte offset of the first character that
satisfies `p`. -/
def strFind (p : Char → Bool) : List Char → Option Nat
  | [] => none
  | c :: cs => if p c then some 0 else (strFind p cs).map (c.utf8Size + ·)

/-- `str::contains` with a string pattern. -/
def strContains (s pat : String) : Bool :=
  decide (pat.data <:+: s.data)

/-! ## Config values -/

/-- `validate_config_value`. The position of the error is the byte offset of `find` plus one,
and its character is the one at that offset taken as a character index, whose `unwrap` panics
past the end of the string. -/
def validateConfigValue (s : String) : Option (Except ValidationError Unit) :=
  if s.data.isEmpty then some (.error .empty)
  else
    match strFind (forbiddenChars.data.contains ·) s.data with
    | some pos => s.data[pos]?.map fun c => .error (.illegalCharacter (pos + 1) c)
    | none => some (.ok ())

theorem strFind_eq_none {p : Char → Bool} :
    ∀ {cs : List Char}, strFind p cs = none ↔ ∀ c ∈ cs, p c = false
  | [] => by simp [strFind]
  | c :: cs => by
    by_cases h : p c <;> simp [strFind, h, strFind_eq_none]

/-- Before the first match `find` counts bytes; over one-byte characters that is the character
index. -/
theorem strFind_of_ascii_head {p : Char → Bool} :
    ∀ {cs : List Char} {i : Nat} {c : Char}, cs[i]? = some c → p c = true →
      (∀ j < i, ∀ d, cs[j]? = some d → p d = false ∧ d.utf8Size = 1) →
        strFind p cs = some i
  | [], _, _, hc, _, _ => by simp at hc
  | d :: cs, 0, c, hc, hp, _ => by
    obtain rfl : d = c := by simpa using hc
    simp [strFind, hp]
  | d :: cs, i + 1, c, hc, hp, hpre => by
    obtain ⟨hd, hsize⟩ := hpre 0 (Nat.succ_pos i) d (by simp)
    have ih := @strFind_of_ascii_head _ cs _ _ (by simpa using hc) hp
      fun j hj e he => hpre (j + 1) (Nat.succ_lt_succ hj) e (by simpa using he)
    simp [strFind, hd, ih, hsize, Nat.add_comm]

/-- The first forbidden character of `s`, at index `i`, is reported with its one-based
position when every character before it is one byte. -/
theorem validateConfigValue_illegal {s : String} {i : Nat} {c : Char}
    (hc : s.data[i]? = some c) (hf : forbiddenChars.data.contains c = true)
    (hpre : ∀ j < i, ∀ d, s.data[j]? = some d →
      forbiddenChars.data.contains d = false ∧ d.utf8Size = 1) :
    validateConfigValue s = some (.error (.illegalCharacter (i + 1) c)) := by
  have hne : s.data.isEmpty = false := by
    cases h : s.data <;> simp_all
  simp only [validateConfigValue, hne, Bool.false_eq_true, ↓reduceIte,
    strFind_of_ascii_head hc hf hpre,
    hc, Option.map_some']

theorem validateConfigValue_ok {s : String} (hs : s ≠ "")
    (h : ∀ c ∈ s.data, forbiddenChars.data.contains c = false) :
    validateConfigValue s = some (.ok ()) := by
  have hne : s.data.isEmpty = false := by
    obtain ⟨cs⟩ := s
    cases cs <;> simp_all
  simp only [validateConfigValue, hne, Bool.false_eq_true, ↓reduceIte, strFind_eq_none.mpr h]

/-- **What `validate_config_value` says.** It refuses the empty string as empty, accepts a
nonempty string without a forbidden character, and reports the first forbidden character with its
one-based position when every character before it is one byte. -/
theorem validateConfigValue_spec :
    validateConfigValue "" = some (.error .empty) ∧
      (∀ s : String, s ≠ "" → (∀ c ∈ s.data, forbiddenChars.data.contains c = false) →
        validateConfigValue s = some (.ok ())) ∧
      ∀ (s : String) (i : Nat) (c : Char), s.data[i]? = some c →
        forbiddenChars.data.contains c = true →
        (∀ j < i, ∀ d, s.data[j]? = some d → forbiddenChars.data.contains d = false ∧ d.utf8Size = 1) →
        validateConfigValue s = some (.error (.illegalCharacter (i + 1) c)) :=
  ⟨rfl, fun _ => validateConfigValue_ok, fun _ _ _ => validateConfigValue_illegal⟩

/-- `"ab/"` is refused at position `3`, and `"ab"` accepted. -/
theorem validate_slash_at_three :
    ("ab/".data[2]? = some '/' ∧ forbiddenChars.data.contains '/' = true ∧
        validateConfigValue "ab/" = some (.error (.illegalCharacter 3 '/'))) ∧
      validateConfigValue "ab" = some (.ok ()) :=
  ⟨⟨rfl, rfl, validateConfigValue_spec.2.2 "ab/" 2 '/' rfl rfl (by decide)⟩,
    validateConfigValue_spec.2.1 "ab" (by decide) (by decide)⟩

/-- A non-ASCII character before a forbidden one shifts the byte offset past the character
index: `"é'"` panics in the `unwrap`, and `"é'x"` reports the `x` at position 3. -/
theorem validateConfigValue_non_ascii_shifts_position :
    validateConfigValue "é'" = none ∧
      validateConfigValue "é'x" = some (.error (.illegalCharacter 3 'x')) :=
  ⟨rfl, rfl⟩

/-- What `set_wifi_ssid` and `set_wifi_pass` do with a value: `BAD_REQUEST` with the error's text
under `"error"`, or the UCI variable written (a commit, a wireless reset and an `fs_sync`
follow). -/
inductive WifiReply where
  | badRequest (error : String)
  | written (uciVar value : String)
deriving DecidableEq, Repr

/-- The part `set_wifi_ssid` and `set_wifi_pass` share: a value that fails
`validate_config_value` is answered with the error's text, another is written to `uciVar`. -/
def setWifiValue (uciVar value : String) : Option WifiReply :=
  (validateConfigValue value).map fun
    | .error e => .badRequest e.display
    | .ok () => .written uciVar value

/-- `set_wifi_ssid`: the SSID goes to `wireless.default_<radio>.ssid`. -/
def setWifiSsid (radio ssid : String) : Option WifiReply :=
  setWifiValue ("wireless.default_" ++ radio ++ ".ssid") ssid

/-- `set_wifi_pass`: a password shorter than `MINIMUM_PASS_CHARS` bytes is refused before it is
validated; a valid one goes to `wireless.default_<radio>.key`. -/
def setWifiPass (radio pass : String) : Option WifiReply :=
  if pass.utf8ByteSize < minimumPassChars then
    some (.badRequest (ValidationError.tooShort minimumPassChars).display)
  else setWifiValue ("wireless.default_" ++ radio ++ ".key") pass

/-! ## Channels -/

/-- `ALLOWED_TWO`. -/
def allowedTwo : List UInt16 := [1, 6, 11]

/-- `ALLOWED_FIVE_20`. -/
def allowedFive20 : List UInt16 :=
  [36, 40, 44, 48, 52, 56, 60, 64, 100, 104, 108, 112, 116, 132, 136, 140, 144, 149, 153, 157, 161, 165]

/-- `ALLOWED_FIVE_40`. -/
def allowedFive40 : List UInt16 := [36, 44, 52, 60, 100, 108, 116, 124, 132, 140, 149, 157]

/-- `ALLOWED_FIVE_80`. -/
def allowedFive80 : List UInt16 := [36, 52, 100, 116, 132, 149]

/-- `ALLOWED_FIVE_80_B1300`. -/
def allowedFive80B1300 : List UInt16 := [36, 149]

/-- `ALLOWED_FIVE_160`. -/
def allowedFive160 : List UInt16 := [36, 100]

/-- `model.is_some() && model.unwrap().contains("gl-b1300")`. -/
def isB1300 (model : Option String) : Bool :=
  match model with
  | some m => strContains m "gl-b1300"
  | none => false

/-- `validate_channel` under the `network.device` setting `model`. -/
def validateChannel (model : Option String) (oldVal newVal : UInt16) (channelWidth : String) :
    Except ValidationError Unit :=
  let oldIsTwo := decide (oldVal < 20)
  let oldIsFive := !oldIsTwo
  let newIsTwo := decide (newVal < 20)
  let newIsFive := !newIsTwo
  let channelWidthIs20 := strContains channelWidth "20"
  let channelWidthIs40 := strContains channelWidth "40"
  let channelWidthIs80 := strContains channelWidth "80"
  let channelWidthIs160 := strContains channelWidth "160"
  if (oldIsTwo && newIsFive) || (oldIsFive && newIsTwo) then .error .wrongRadio
  else if newIsTwo && !allowedTwo.contains newVal then .error (.badChannel "20" (toString allowedTwo))
  else if newIsFive && channelWidthIs20 && !allowedFive20.contains newVal then
    .error (.badChannel "20" (toString allowedFive20))
  else if newIsFive && channelWidthIs40 && !allowedFive40.contains newVal then
    .error (.badChannel "40" (toString allowedFive40))
  else if newIsFive && channelWidthIs80 && !allowedFive80.contains newVal then
    .error (.badChannel "80" (toString allowedFive80))
  else if newIsFive && channelWidthIs160 && !allowedFive160.contains newVal then
    .error (.badChannel "160" (toString allowedFive160))
  else if isB1300 model && newIsFive && channelWidthIs80 && !allowedFive80B1300.contains newVal then
    .error (.badChannel "80" (toString allowedFive80B1300))
  else .ok ()

private theorem ite_error_eq_ok {ε : Type} {p : Prop} [Decidable p] {e : ε} {r : Except ε Unit} :
    (if p then .error e else r) = .ok () ↔ ¬p ∧ r = .ok () := by
  split_ifs <;> simp_all [reduceCtorEq]

section
variable {model : Option String} {c n : UInt16} {w : String}

/-- `validate_channel` accepts a channel of the radio's band that is in every list its htmode
names, and, on a `gl-b1300` with an `80` htmode, in `ALLOWED_FIVE_80_B1300`. -/
theorem validateChannel_eq_ok :
    validateChannel model c n w = .ok () ↔
      (c < 20 ↔ n < 20) ∧ (n < 20 → n ∈ allowedTwo) ∧
        (¬n < 20 → (strContains w "20" → n ∈ allowedFive20) ∧
          (strContains w "40" → n ∈ allowedFive40) ∧ (strContains w "80" → n ∈ allowedFive80) ∧
          (strContains w "160" → n ∈ allowedFive160) ∧
          (isB1300 model ∧ strContains w "80" → n ∈ allowedFive80B1300)) := by
  simp only [validateChannel, ite_error_eq_ok, and_true]
  by_cases hc : c < 20 <;> by_cases hn : n < 20 <;> simp [hc, hn]

/-- `get_allowed_wifi_channels` for a radio whose channel is `currentChannel` and whose htmode is
`fiveChannelWidth`: the list sent back, or the `BAD_REQUEST` text. -/
def getAllowedWifiChannels (model : Option String) (currentChannel : UInt16)
    (fiveChannelWidth : String) :
    Except String (List UInt16) :=
  if currentChannel < 20 then .ok allowedTwo
  else if isB1300 model && strContains fiveChannelWidth "80" then .ok allowedFive80B1300
  else if strContains fiveChannelWidth "20" then .ok allowedFive20
  else if strContains fiveChannelWidth "40" then .ok allowedFive40
  else if strContains fiveChannelWidth "80" then .ok allowedFive80
  else if strContains fiveChannelWidth "160" then .ok allowedFive160
  else .error "Can't identify Radio!"

/-- What `set_wifi_channel` does: `BAD_REQUEST` with the `ValidationError` itself as the JSON
body, or the UCI variable written (a commit, a wireless reset and an `fs_sync` follow). -/
inductive ChannelReply where
  | badRequest (error : ValidationError)
  | written (uciVar value : String)
deriving DecidableEq, Repr

/-- `set_wifi_channel` for a radio whose `wireless.<radio>.channel` reads `currentChannel` and whose
`wireless.<radio>.htmode` reads `channelWidth`: a channel that `validate_channel` accepts is
written back as its decimal text. -/
def setWifiChannel (model : Option String) (radio : String) (channel currentChannel : UInt16)
    (channelWidth : String) : ChannelReply :=
  match validateChannel model currentChannel channel channelWidth with
  | .error e => .badRequest e
  | .ok () => .written ("wireless." ++ radio ++ ".channel") (toString channel)

/-- How many of the widths `20`, `40`, `80`, `160` an htmode names. -/
def widthCount (channelWidth : String) : Nat :=
  (["20", "40", "80", "160"].filter (strContains channelWidth ·)).length

theorem lt_twenty_of_mem_allowedTwo : ∀ m ∈ allowedTwo, m < 20 := by decide

theorem not_lt_twenty_of_mem_five :
    ∀ m ∈ allowedFive20 ++ allowedFive40 ++ allowedFive80 ++ allowedFive160 ++ allowedFive80B1300,
      ¬m < 20 := by
  decide

theorem mem_allowedFive80_of_b1300 : ∀ m ∈ allowedFive80B1300, m ∈ allowedFive80 := by decide

/-- The two handlers agree on every radio of the 2.4 GHz band, on every request across the two
bands, and on every htmode that names exactly one width. -/
theorem validateChannel_ok_iff_allowed (hw : c < 20 ∨ n < 20 ∨ widthCount w = 1) :
    validateChannel model c n w = .ok () ↔
      ∃ l, getAllowedWifiChannels model c w = .ok l ∧ n ∈ l := by
  rw [validateChannel_eq_ok]
  by_cases hc : c < 20
  · have := lt_twenty_of_mem_allowedTwo n
    simp only [getAllowedWifiChannels, hc, if_true, Except.ok.injEq, exists_eq_left', true_iff]
    exact ⟨fun h => h.2.1 h.1, fun h => ⟨this h, fun _ => h, fun hn => absurd (this h) hn⟩⟩
  · simp only [getAllowedWifiChannels, hc, if_false]
    by_cases hn : n < 20
    · have h5 := not_lt_twenty_of_mem_five n
      simp only [List.mem_append, or_imp] at h5
      simp only [hn, not_true_eq_false, imp_false] at h5
      simp only [hc, hn, iff_true, not_true_eq_false, false_and, false_iff, not_exists, not_and]
      intro l hl
      split_ifs at hl <;> cases hl <;> simp [h5]
    · have hw := (hw.resolve_left hc).resolve_left hn
      have hb := mem_allowedFive80_of_b1300 n
      simp only [widthCount, List.filter] at hw
      simp only [hc, hn, iff_true, not_false_eq_true, true_implies, false_implies, true_and]
      generalize strContains w "20" = b20 at *
      generalize strContains w "40" = b40 at *
      generalize strContains w "80" = b80 at *
      generalize strContains w "160" = b160 at *
      generalize isB1300 model = bB at *
      -- only the four htmodes that name one width are left to check
      cases b20 <;> cases b40 <;> cases b80 <;> cases b160 <;> simp at hw <;> cases bB <;> simp_all

/-- **The two channel handlers agree.** On a radio of the 2.4 GHz band, for a request across the
two bands, and under every htmode that names exactly one width, `set_wifi_channel` writes a channel
exactly when `get_allowed_wifi_channels` offers it, and it writes it to `wireless.<radio>.channel`
as its decimal text. -/
theorem setWifiChannel_written_iff_allowed (hw : c < 20 ∨ n < 20 ∨ widthCount w = 1)
    (radio uciVar value : String) :
    setWifiChannel model radio n c w = .written uciVar value ↔
      uciVar = "wireless." ++ radio ++ ".channel" ∧ value = toString n ∧
        ∃ l, getAllowedWifiChannels model c w = .ok l ∧ n ∈ l := by
  rw [← validateChannel_ok_iff_allowed hw, setWifiChannel]
  cases validateChannel model c n w with
  | error e => simp
  | ok u => simp [eq_comm]

/-- Channel 40 on a radio at channel 36 with htmode `HT20` is offered, so it is written. -/
theorem set_channel_forty_on_ht20 :
    (36 < 20 ∨ 40 < 20 ∨ widthCount "HT20" = 1) ∧
      setWifiChannel none "radio1" 40 36 "HT20" = .written "wireless.radio1.channel" "40" :=
  ⟨by decide, (@setWifiChannel_written_iff_allowed none 36 40 "HT20" (by decide) "radio1"
    "wireless.radio1.channel" "40").mpr ⟨rfl, rfl, _, rfl, by decide⟩⟩

end

/-- On a radio at channel 36 with htmode `NOHT`, `validate_channel` accepts channel 21, which is
in no list, while `get_allowed_wifi_channels` answers that it cannot identify the radio. -/
theorem noht_channel_accepted_but_not_offered :
    validateChannel none 36 21 "NOHT" = .ok () ∧
      getAllowedWifiChannels none 36 "NOHT" = .error "Can't identify Radio!" :=
  ⟨rfl, rfl⟩

end Rita.Client
