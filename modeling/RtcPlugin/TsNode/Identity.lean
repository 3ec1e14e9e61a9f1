import RtcPlugin.Json.Pretty
import RtcPlugin.Json.Torn
import RtcPlugin.Node.Identity
import RtcPlugin.System.Run

/-! The TypeScript node's device identity, over any number of starts that can read its file.

A start uses the identity of its file, or makes one and writes it; it does not return
before the file is written. A write may be refused, and it may be cut off behind any
byte. `identity_kept`: whatever the file held at first, once a start has returned an
identity every later one returns the same, and what it returns is of one key pair, unless
it was in the file at first. A start that cannot read the file makes a new identity. -/
namespace RtcPlugin

/-- The double nearest to the literal is 1. -/
def Decimal.readsAsOne (d : Decimal) : Bool :=
  if 0 ≤ d.exponent then d.mantissa == 1 && d.exponent == 0
  else (2 ^ 54 - 1) * 10 ^ d.exponent.natAbs ≤ d.mantissa * 2 ^ 54 &&
    d.mantissa * 2 ^ 53 ≤ (2 ^ 53 + 1) * 10 ^ d.exponent.natAbs

namespace TsNode

/-- What `node:crypto` computes. -/
structure Crypto where
  /-- `createPublicKey(pem)`, exported as `spki` in `der` format; nothing where that throws. -/
  spki : String → Option (List UInt8)
  sha256 : List UInt8 → Vector UInt8 32
  /-- `sign(null, data, createPrivateKey(pem))`; nothing where that throws. -/
  sign : String → List UInt8 → Option (List UInt8)

def ED25519_SPKI_PREFIX : List UInt8 := [0x30, 0x2a, 0x30, 0x05, 0x06, 0x03, 0x2b, 0x65, 0x70, 0x03, 0x21, 0x00]

/-- What `generateKeyPairSync("ed25519")` returns, exported as texts. The public one holds
the 32 bytes of the key behind the prefix. -/
structure PemKeyPair (c : Crypto) where
  publicKeyPem : String
  privateKeyPem : String
  raw : List UInt8
  raw_length : raw.length = 32
  spki : c.spki publicKeyPem = some (ED25519_SPKI_PREFIX ++ raw)
  public_ne : publicKeyPem ≠ ""
  private_ne : privateKeyPem ≠ ""

/-- The file's values are used as they are, whether or not they are texts. -/
structure DeviceIdentity where
  deviceId : Json
  publicKeyPem : Json
  privateKeyPem : Json

section
variable (c : Crypto)

def base64UrlEncode (buf : List UInt8) : String :=
  String.ofList ((Base64.replaceAll '/' '_' (Base64.replaceAll '+' '-' (Base64.encode buf))).rdropWhile (· == '='))

def derivePublicKeyRaw (publicKeyPem : String) : Option (List UInt8) := do
  let spki ← c.spki publicKeyPem
  if spki.length = ED25519_SPKI_PREFIX.length + 32 ∧ spki.take ED25519_SPKI_PREFIX.length = ED25519_SPKI_PREFIX then
    return spki.drop ED25519_SPKI_PREFIX.length
  return spki

def fingerprintPublicKey (publicKeyPem : String) : Option String := do
  let raw ← derivePublicKeyRaw c publicKeyPem
  return hexEncode (c.sha256 raw).toList

def publicKeyRawBase64Url (publicKeyPem : String) : Option String := (derivePublicKeyRaw c publicKeyPem).map base64UrlEncode

def signPayload (privateKeyPem payload : String) : Option String :=
  (c.sign privateKeyPem (Utf8.encode payload.toList)).map base64UrlEncode

variable {c} in
def generateDeviceIdentity (key : PemKeyPair c) : Option DeviceIdentity := do
  let deviceId ← fingerprintPublicKey c key.publicKeyPem
  return ⟨.str deviceId, .str key.publicKeyPem, .str key.privateKeyPem⟩

end

/-- `v === 1` -/
def isOne : Json → Bool
  | .num d => d.readsAsOne
  | _ => false

/-- The identity in the file's value, if it has one. -/
def identityOf (raw : Json) : Option DeviceIdentity := do
  let version ← raw.get? "version"
  let deviceId ← raw.get? "deviceId"
  let publicKeyPem ← raw.get? "publicKeyPem"
  let privateKeyPem ← raw.get? "privateKeyPem"
  if isOne version && deviceId.truthy && publicKeyPem.truthy && privateKeyPem.truthy then
    return ⟨deviceId, publicKeyPem, privateKeyPem⟩
  else none

/-- The identity in the file, if it exists and can be read. -/
def savedIdentity (file : Option (List UInt8)) : Option DeviceIdentity :=
  file.bind fun bytes => (Json.parseChars (Utf8.decode bytes)).bind identityOf

/-- `{ version: 1, ...identity, createdAtMs: Date.now() }` -/
def DeviceIdentity.value (id : DeviceIdentity) (createdAtMs : Decimal) : Json :=
  .obj [("version", .num ⟨1, 0, true⟩), ("deviceId", id.deviceId), ("publicKeyPem", id.publicKeyPem),
    ("privateKeyPem", id.privateKeyPem), ("createdAtMs", .num createdAtMs)]

def DeviceIdentity.bytes (id : DeviceIdentity) (createdAtMs : Decimal) : List UInt8 :=
  Utf8.encode ((id.value createdAtMs).stringifyIndent ++ ['\n'])

/-- What becomes of `writeFileSync`, which empties the file first. -/
inductive Write where
  | refused
  /-- It throws, or the process ends, behind so many bytes. -/
  | cut (n : Nat)
  | done

/-- What the runtime supplies to a start. -/
structure Start (c : Crypto) where
  /-- Whether `existsSync` and `readFileSync` see the file if it is there. -/
  readable : Bool
  key : PemKeyPair c
  mkdir : Bool
  write : Write
  now : Decimal
  canonical : now.Canonical

variable {c : Crypto}

/-- The identity that is returned, unless the call throws, and the file behind it. -/
def loadOrCreateIdentity (s : Start c) (file : Option (List UInt8)) : Option DeviceIdentity × Option (List UInt8) :=
  match savedIdentity (if s.readable then file else none) with
  | some id => (some id, file)
  | none =>
    match generateDeviceIdentity s.key with
    | none => (none, file)
    | some id =>
      if !s.mkdir then (none, file)
      else match s.write with
        | .refused => (none, file)
        | .cut n => (none, some ((id.bytes s.now).take n))
        | .done => (some id, some (id.bytes s.now))

/-- A machine that a node is started on: the file, and the identities that the starts returned. -/
structure Machine where
  file : Option (List UInt8)
  identities : List DeviceIdentity

def Machine.start (m : Machine) (s : Start c) : Machine :=
  let result := loadOrCreateIdentity s m.file
  ⟨result.2, m.identities ++ result.1.toList⟩

/-- The starts on a machine that has such a file. -/
def starts (c : Crypto) (file : Option (List UInt8)) : System Machine (Start c) where
  init m := m = ⟨file, []⟩
  step m s m' := m' = m.start s

/-! ### What is written is read back -/

/-- The device is named by the key, and the texts are of that key pair. -/
def PemKeyPair.identity (key : PemKeyPair c) : DeviceIdentity :=
  ⟨.str (hexEncode (c.sha256 key.raw).toList), .str key.publicKeyPem, .str key.privateKeyPem⟩

theorem derivePublicKeyRaw_key (key : PemKeyPair c) : derivePublicKeyRaw c key.publicKeyPem = some key.raw := by
  have hlength : (ED25519_SPKI_PREFIX ++ key.raw).length = ED25519_SPKI_PREFIX.length + 32 := by
    rw [List.length_append, key.raw_length]
  simp [derivePublicKeyRaw, key.spki, hlength]

theorem generateDeviceIdentity_key (key : PemKeyPair c) : generateDeviceIdentity key = some key.identity := by
  rw [generateDeviceIdentity, fingerprintPublicKey, derivePublicKeyRaw_key]
  rfl

theorem hexEncode_truthy (digest : Vector UInt8 32) : (Json.str (hexEncode digest.toList)).truthy = true := by
  simp only [Json.truthy, bne_iff_ne]
  intro he
  have hlen := congrArg (fun s => s.toList.length) he
  simp [hexEncode] at hlen

theorem identityOf_value (key : PemKeyPair c) (now : Decimal) :
    identityOf (key.identity.value now) = some key.identity := by
  have hone : isOne (.num ⟨1, 0, true⟩) = true := rfl
  have hpub : (Json.str key.publicKeyPem).truthy = true := bne_iff_ne.mpr key.public_ne
  have hpriv : (Json.str key.privateKeyPem).truthy = true := bne_iff_ne.mpr key.private_ne
  have hchecks : (isOne (.num ⟨1, 0, true⟩) && (Json.str (hexEncode (c.sha256 key.raw).toList)).truthy &&
      (Json.str key.publicKeyPem).truthy && (Json.str key.privateKeyPem).truthy) = true := by
    rw [hone, hexEncode_truthy, hpub, hpriv]
    rfl
  exact if_pos hchecks

theorem value_native (key : PemKeyPair c) {now : Decimal} (h : now.Canonical) : (key.identity.value now).Native := by
  have hone : (⟨1, 0, true⟩ : Decimal).Canonical := ⟨by decide, by decide, by decide⟩
  exact Json.native_obj ["version", "deviceId", "publicKeyPem", "privateKeyPem", "createdAtMs"] rfl
    ⟨by decide, by decide⟩ ⟨hone, trivial, trivial, trivial, h, trivial⟩

variable {key : PemKeyPair c} {now : Decimal}

theorem stringifyIndent_value (h : now.Canonical) :
    (key.identity.value now).stringifyIndent = (key.identity.value now).pretty 0 := by
  rw [Json.stringifyIndent, Json.normal_eq _ (value_native key h)]

theorem savedIdentity_text (h : now.Canonical) {bytes : List UInt8} (space : List Char) (hspace : ∀ ch ∈ space, Json.isSpace ch = true)
    (hbytes : bytes = Utf8.encode ((key.identity.value now).stringifyIndent ++ space)) :
    savedIdentity (some bytes) = some key.identity := by
  rw [hbytes, savedIdentity, Option.bind_some, Utf8.decode_encode, stringifyIndent_value h,
    Json.parseChars_pretty (value_native key h) 0 space hspace, Option.bind_some, identityOf_value]

/-- A file that was cut off holds nothing, or what should have been written. -/
theorem savedIdentity_take (key : PemKeyPair c) (h : now.Canonical) (n : Nat) :
    savedIdentity (some ((key.identity.bytes now).take n)) = none ∨
      savedIdentity (some ((key.identity.bytes now).take n)) = some key.identity := by
  have hbytes : key.identity.bytes now = Utf8.encode (key.identity.value now).stringifyIndent ++ [0x0A] := by
    rw [DeviceIdentity.bytes, Utf8.encode_append]
    rfl
  obtain hlt | hle := Nat.lt_or_ge n (Utf8.encode (key.identity.value now).stringifyIndent).length
  · -- the object is not closed
    left
    rw [hbytes, List.take_append_of_le_length (Nat.le_of_lt hlt), savedIdentity, Option.bind_some]
    have hcut : (Utf8.encode (key.identity.value now).stringifyIndent).take n ≠ Utf8.encode (key.identity.value now).stringifyIndent := by
      intro heq
      have := congrArg List.length heq
      rw [List.length_take] at this
      omega
    have hparse := Json.parseChars_pretty (value_native key h) 0 [] (List.forall_mem_nil _)
    rw [List.append_nil, ← stringifyIndent_value h] at hparse
    obtain ⟨front, hends⟩ : ∃ front, (key.identity.value now).stringifyIndent = front ++ ['\x7d'] := by
      rw [stringifyIndent_value h]
      exact Json.pretty_ends _ _ _
    have hstarts : ∃ inner, (key.identity.value now).stringifyIndent = '\x7b' :: inner := by
      rw [stringifyIndent_value h]
      exact ⟨_, rfl⟩
    obtain ⟨inner, hstarts⟩ := hstarts
    rw [Json.parse_torn hparse hstarts hends (List.take_prefix _ _) hcut]
    rfl
  · -- all but the line end, at least
    right
    by_cases hn : n = (Utf8.encode (key.identity.value now).stringifyIndent).length
    · refine savedIdentity_text h [] (List.forall_mem_nil _) ?_
      rw [hbytes, hn, List.take_left, List.append_nil]
    · refine savedIdentity_text h ['\n'] (List.forall_mem_singleton.mpr rfl) ?_
      rw [List.take_of_length_le (by rw [hbytes, List.length_append, List.length_singleton]; omega)]
      rfl

theorem savedIdentity_bytes (key : PemKeyPair c) (h : now.Canonical) : savedIdentity (some (key.identity.bytes now)) = some key.identity :=
  savedIdentity_text h ['\n'] (List.forall_mem_singleton.mpr rfl) rfl

/-! ### One start -/

/-- What a start returns, and the file behind it. -/
inductive Started (s : Start c) (file : Option (List UInt8)) : Option DeviceIdentity × Option (List UInt8) → Prop where
  | saved {id} : savedIdentity (if s.readable then file else none) = some id → Started s file (some id, file)
  | failed : savedIdentity (if s.readable then file else none) = none → Started s file (none, file)
  | cut (n : Nat) : savedIdentity (if s.readable then file else none) = none →
      Started s file (none, some ((s.key.identity.bytes s.now).take n))
  | created : savedIdentity (if s.readable then file else none) = none →
      Started s file (some s.key.identity, some (s.key.identity.bytes s.now))

theorem started (s : Start c) (file : Option (List UInt8)) : Started s file (loadOrCreateIdentity s file) := by
  rw [loadOrCreateIdentity]
  cases hsaved : savedIdentity (if s.readable then file else none) with
  | some id => exact .saved hsaved
  | none =>
    simp only [generateDeviceIdentity_key]
    cases s.mkdir with
    | false => exact .failed hsaved
    | true =>
      cases s.write with
      | refused => exact .failed hsaved
      | cut n => exact .cut n hsaved
      | done => exact .created hsaved

theorem load_saved {s : Start c} {file : Option (List UInt8)} {id : DeviceIdentity} (hread : s.readable = true)
    (h : savedIdentity file = some id) : loadOrCreateIdentity s file = (some id, file) := by
  rw [loadOrCreateIdentity, if_pos hread, h]

/-! ### All starts -/

/-- The identity is of one key pair. -/
def DeviceIdentity.Consistent (c : Crypto) (id : DeviceIdentity) : Prop := ∃ key : PemKeyPair c, id = key.identity

/-- What was returned is in the file, and what is in the file was there at first or is of one key pair. -/
structure Kept (c : Crypto) (file : Option (List UInt8)) (m : Machine) : Prop where
  returned : ∀ id ∈ m.identities, savedIdentity m.file = some id
  own : ∀ id, savedIdentity m.file = some id → savedIdentity file = some id ∨ id.Consistent c

/-- Nothing was returned while the file holds no identity. -/
theorem Kept.none_returned {file : Option (List UInt8)} {m : Machine} (h : Kept c file m) (hnone : savedIdentity m.file = none) :
    m.identities = [] := by
  refine List.eq_nil_iff_forall_not_mem.mpr fun id hid => ?_
  rw [h.returned id hid] at hnone
  cases hnone

theorem step_kept {file : Option (List UInt8)} {m : Machine} {s : Start c} (h : Kept c file m) (hread : s.readable = true) :
    Kept c file (m.start s) := by
  have hstarted := started s m.file
  rw [Machine.start]
  generalize loadOrCreateIdentity s m.file = result at hstarted
  cases hstarted with
  | saved hsaved =>
    rw [if_pos hread] at hsaved
    refine ⟨fun id' hid => ?_, h.own⟩
    obtain hid | hid := List.mem_append.mp hid
    · exact h.returned id' hid
    · rw [List.mem_singleton.mp hid]
      exact hsaved
  | failed =>
    refine ⟨fun id hid => ?_, h.own⟩
    have hid : id ∈ m.identities ++ [] := hid
    rw [List.append_nil] at hid
    exact h.returned id hid
  | cut n hnone =>
    rw [if_pos hread] at hnone
    refine ⟨?_, fun id hid => .inr ⟨s.key, ?_⟩⟩
    · rw [h.none_returned hnone]
      exact List.forall_mem_nil _
    · obtain hcut | hcut := savedIdentity_take s.key s.canonical n <;> rw [hcut] at hid <;> cases hid
      rfl
  | created hnone =>
    rw [if_pos hread] at hnone
    have hbytes := savedIdentity_bytes s.key s.canonical
    refine ⟨?_, fun id hid => .inr ⟨s.key, ?_⟩⟩
    · rw [h.none_returned hnone]
      exact List.forall_mem_singleton.mpr hbytes
    · rw [hbytes] at hid
      cases hid
      rfl

theorem run_kept {file : Option (List UInt8)} {ss : List (Start c)} {m : Machine} (h : (starts c file).Run ss m)
    (hread : ∀ s ∈ ss, s.readable = true) : Kept c file m := by
  revert hread
  refine h.invariant (I := fun ss m => (∀ s ∈ ss, s.readable = true) → Kept c file m) ?_ ?_
  · rintro m rfl _
    exact ⟨List.forall_mem_nil _, fun id hid => .inl hid⟩
  · rintro ss m s m' - ih rfl hread
    obtain ⟨hbefore, hlast⟩ := List.forall_mem_append.mp hread
    exact step_kept (ih hbefore) (hlast s (List.mem_singleton_self s))

/-- **A device keeps its identity**: once a start has returned one, all that can read the file
return it. It was in the file at first, or is of one key pair, also where writes were cut off. -/
theorem identity_kept {file : Option (List UInt8)} {ss : List (Start c)} {m : Machine} (h : (starts c file).Run ss m)
    (hread : ∀ s ∈ ss, s.readable = true) :
    (∀ id ∈ m.identities, m.identities = List.replicate m.identities.length id ∧
      ∀ s : Start c, s.readable = true → loadOrCreateIdentity s m.file = (some id, m.file)) ∧
    ∀ id, id ∈ m.identities ∨ savedIdentity m.file = some id → savedIdentity file = some id ∨ id.Consistent c := by
  have hkept := run_kept h hread
  refine ⟨fun id hid => ⟨List.eq_replicate_iff.mpr ⟨rfl, fun id' hid' => ?_⟩, fun s hs => ?_⟩, fun id hid => ?_⟩
  · have heq := hkept.returned id' hid'
    rw [hkept.returned id hid] at heq
    exact (Option.some.inj heq).symm
  · exact load_saved hs (hkept.returned id hid)
  · exact hkept.own id (hid.elim (hkept.returned id) fun hsaved => hsaved)

/-- The key of 32 zeros. -/
def demoCrypto : Crypto where
  spki pem := if pem = "public" then some (ED25519_SPKI_PREFIX ++ List.replicate 32 0) else none
  sha256 := Node.zeroKeySum256
  sign _ data := some (data.take 64)

def demoKey : PemKeyPair demoCrypto := ⟨"public", "private", List.replicate 32 0, rfl, rfl, by decide, by decide⟩

def demoStart (write : Write) : Start demoCrypto :=
  ⟨true, demoKey, true, write, ⟨17414208, 5, true⟩, ⟨by decide, by decide, by decide⟩⟩

/-- The first write is cut off, the second start makes an identity, the third one returns it. -/
theorem identity_kept_cut : ∃ m : Machine, ∃ id, (starts demoCrypto none).Run [demoStart (.cut 30), demoStart .done] m ∧
    m.identities = [id] ∧ id.Consistent demoCrypto ∧ loadOrCreateIdentity (demoStart .done) m.file = (some id, m.file) := by
  have hrun : (starts demoCrypto none).Run [demoStart (.cut 30), demoStart .done]
      (((⟨none, []⟩ : Machine).start (demoStart (.cut 30))).start (demoStart .done)) :=
    ⟨_, rfl, .snoc (.snoc .nil rfl) rfl⟩
  obtain ⟨id, hid⟩ := List.length_eq_one_iff.mp (show (((⟨none, []⟩ : Machine).start (demoStart (.cut 30))).start
    (demoStart .done)).identities.length = 1 by decide +kernel)
  have hmem := hid ▸ List.mem_singleton_self id
  obtain ⟨hreturned, hown⟩ := identity_kept hrun (List.forall_mem_cons.mpr ⟨rfl, List.forall_mem_singleton.mpr rfl⟩)
  exact ⟨_, id, hrun, hid, (hown id (.inl hmem)).resolve_left nofun, (hreturned id hmem).2 _ rfl⟩

end TsNode
end RtcPlugin
