import RtcPlugin.Stream.Separated

/-! The text a node signs to authenticate its device.

Both nodes put the same fields together with `|` and escape nothing. The token may
hold a `|`; every other free field is read off one end of the text, so the text
still names one tuple (`auth_payload`). -/
namespace RtcPlugin.Auth

/-- A clock reading in milliseconds, in the range of a time value. -/
structure TimeValue where
  ms : Int
  inRange : ms.natAbs ≤ 8640000000000000

theorem TimeValue.ext {a b : TimeValue} (h : a.ms = b.ms) : a = b := by
  cases a
  cases b
  cases h
  rfl

/-- What differs from one device and one handshake to the next. -/
structure AuthFields where
  deviceId : String
  signedAtMs : TimeValue
  token : String
  nonce : String
  platform : String

/-! ### The TypeScript node -/

structure AuthPayloadParams where
  deviceId : String
  clientId : String
  clientMode : String
  role : String
  scopes : String
  signedAtMs : TimeValue
  token : String
  nonce : String
  platform : String

def buildAuthPayloadV3 (params : AuthPayloadParams) : String :=
  "|".intercalate ["v3", params.deviceId, params.clientId, params.clientMode, params.role, params.scopes,
    params.signedAtMs.ms.repr, params.token, params.nonce, params.platform, ""]

/-- The `authPayload` of `handleChallenge`. -/
def challengePayload (a : AuthFields) : String :=
  buildAuthPayloadV3
    { deviceId := a.deviceId
      clientId := "node-host"
      clientMode := "node"
      role := "node"
      scopes := ""
      signedAtMs := a.signedAtMs
      token := a.token
      nonce := a.nonce
      platform := a.platform }

/-! ### The Go node -/

/-- The `authPayload` of `handshake`, up to its format. -/
def handshakePayload (a : AuthFields) : String :=
  let role := "node"
  let clientID := "node-host"
  let clientMode := "node"
  "v3|" ++ a.deviceId ++ "|" ++ clientID ++ "|" ++ clientMode ++ "|" ++ role ++ "||" ++ a.signedAtMs.ms.repr ++ "|" ++
    a.token ++ "|" ++ a.nonce ++ "|" ++ a.platform ++ "|"

/-! ### One text, one tuple -/

def isHex (c : Char) : Bool := c.isDigit || ('a' ≤ c && c ≤ 'f') || ('A' ≤ c && c ≤ 'F')

/-- Every field but the token keeps clear of the separator. -/
structure Clear (a : AuthFields) : Prop where
  deviceId : ∀ c ∈ a.deviceId.toList, isHex c = true
  signedAtMs : 0 ≤ a.signedAtMs.ms
  nonce : '|' ∉ a.nonce.toList
  platform : '|' ∉ a.platform.toList

/-- The text, field by field, with the token in the middle of the free ones. -/
def layout (deviceId ms token nonce platform : String) : List Char :=
  "v3".toList ++ '|' :: (deviceId.toList ++ '|' :: ("node-host|node|node|".toList ++ '|' ::
    (ms.toList ++ '|' :: (((token.toList ++ '|' :: nonce.toList) ++ '|' :: platform.toList) ++ '|' :: []))))

theorem toList_bar : "|".toList = ['|'] := rfl

theorem toList_joined (deviceId ms token nonce platform : String) :
    ("|".intercalate ["v3", deviceId, "node-host", "node", "node", "", ms, token, nonce, platform, ""]).toList =
      layout deviceId ms token nonce platform := by
  simp only [String.intercalate_cons_cons, String.intercalate_singleton, String.toList_append, List.append_assoc,
    toList_bar, layout, List.cons_append, List.nil_append]
  rfl

theorem toList_formatted (deviceId ms token nonce platform : String) :
    ("v3|" ++ deviceId ++ "|" ++ "node-host" ++ "|" ++ "node" ++ "|" ++ "node" ++ "||" ++ ms ++ "|" ++ token ++ "|" ++
      nonce ++ "|" ++ platform ++ "|").toList = layout deviceId ms token nonce platform := by
  simp only [String.toList_append, List.append_assoc, toList_bar, layout, List.cons_append, List.nil_append]
  rfl

theorem toList_challengePayload (a : AuthFields) :
    (challengePayload a).toList = layout a.deviceId a.signedAtMs.ms.repr a.token a.nonce a.platform := by
  unfold challengePayload buildAuthPayloadV3
  exact toList_joined a.deviceId a.signedAtMs.ms.repr a.token a.nonce a.platform

theorem toList_handshakePayload (a : AuthFields) :
    (handshakePayload a).toList = layout a.deviceId a.signedAtMs.ms.repr a.token a.nonce a.platform := by
  unfold handshakePayload
  exact toList_formatted a.deviceId a.signedAtMs.ms.repr a.token a.nonce a.platform

theorem payloads_agree (a : AuthFields) : challengePayload a = handshakePayload a := by
  apply String.toList_inj.mp
  rw [toList_challengePayload, toList_handshakePayload]

theorem repr_nonneg {n : Int} (h : 0 ≤ n) : n.repr = n.toNat.repr := by
  cases n with
  | ofNat n => rfl
  | negSucc n => exact absurd h (by simp)

theorem repr_clear {n : Int} (h : 0 ≤ n) : '|' ∉ n.repr.toList := by
  rw [repr_nonneg h, Nat.toList_repr]
  intro hmem
  have := Nat.isDigit_of_mem_toDigits (by decide) (by decide) hmem
  exact absurd this (by decide)

theorem repr_inj_nonneg {m n : Int} (hm : 0 ≤ m) (hn : 0 ≤ n) (h : m.repr.toList = n.repr.toList) : m = n := by
  rw [repr_nonneg hm, repr_nonneg hn, Nat.toList_repr, Nat.toList_repr] at h
  have hnat := congrArg (Nat.ofDigitChars 10 · 0) h
  simp only [Nat.ofDigitChars_toDigits (b := 10) (by decide) (by decide)] at hnat
  omega

theorem hex_clear {s : List Char} (h : ∀ c ∈ s, isHex c = true) : '|' ∉ s := fun hmem => absurd (h _ hmem) (by decide)

theorem challengePayload_inj {a b : AuthFields} (ha : Clear a) (hb : Clear b)
    (h : challengePayload a = challengePayload b) : a = b := by
  have hlist := congrArg String.toList h
  rw [toList_challengePayload, toList_challengePayload, layout, layout] at hlist
  obtain ⟨_, hlist⟩ := field_left (by decide) (by decide) hlist
  obtain ⟨hdevice, hlist⟩ := field_left (hex_clear ha.deviceId) (hex_clear hb.deviceId) hlist
  have hlist := List.append_cancel_left hlist
  injection hlist with _ hlist
  obtain ⟨htime, hlist⟩ := field_left (repr_clear ha.signedAtMs) (repr_clear hb.signedAtMs) hlist
  -- what is left is read from the right: the token may hold the separator
  obtain ⟨hlist, _⟩ := field_right List.not_mem_nil List.not_mem_nil hlist
  obtain ⟨hlist, hplatform⟩ := field_right ha.platform hb.platform hlist
  obtain ⟨htoken, hnonce⟩ := field_right ha.nonce hb.nonce hlist
  have hms := TimeValue.ext (repr_inj_nonneg ha.signedAtMs hb.signedAtMs htime)
  cases a
  cases b
  rw [AuthFields.mk.injEq]
  exact ⟨String.toList_inj.mp hdevice, hms, String.toList_inj.mp htoken, String.toList_inj.mp hnonce,
    String.toList_inj.mp hplatform⟩

/-- **Both nodes sign the same text**, and a text stands for one tuple. -/
theorem auth_payload (a b : AuthFields) : challengePayload a = handshakePayload a ∧
    (Clear a → Clear b → challengePayload a = challengePayload b → a = b) :=
  ⟨payloads_agree a, challengePayload_inj⟩

/-- A separator moved from the token to the nonce's place gives another text. -/
theorem auth_payload_token :
    challengePayload ⟨"c0ffee", ⟨1741420800000, by decide⟩, "a|b", "c", "linux"⟩ ≠
      challengePayload ⟨"c0ffee", ⟨1741420800000, by decide⟩, "a", "c", "linux"⟩ := by
  intro heq
  have hhex : ∀ c ∈ "c0ffee".toList, isHex c = true := List.all_eq_true.mp (by decide)
  have hab := (auth_payload _ _).2 ⟨hhex, by decide, by decide, by decide⟩ ⟨hhex, by decide, by decide, by decide⟩ heq
  exact absurd (congrArg AuthFields.token hab) (by decide)

end RtcPlugin.Auth
