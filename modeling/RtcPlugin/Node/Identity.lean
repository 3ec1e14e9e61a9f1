import RtcPlugin.Go.Marshal

/-! The node's device identity and the file it is kept in.

A device is named by the hash of its public key, and its private key holds that
public key again. The file is believed if each field is well formed on its own;
that the fields belong together is not checked (`identity_consistent_iff`). The
hash is a parameter, a key pair is what the key generation returns. -/
namespace RtcPlugin.Node

open Go (Scalar StructField marshalIndent runes unmarshalInts)

structure DeviceIdentity where
  deviceID : String
  publicKey : List UInt8
  privateKey : List UInt8
  deriving DecidableEq

structure IdentityFile where
  version : Int := 0
  deviceID : String := ""
  /-- raw 32-byte key, base64url -/
  publicKeyB64 : String := ""
  /-- raw 64-byte key, base64url -/
  privateKeyB64 : String := ""
  createdAtMs : Int := 0

def IdentityFile.fields : List (StructField IdentityFile) :=
  [.int "version" fun v f => {f with version := v}, .string "deviceId" fun s f => {f with deviceID := s},
    .string "publicKeyB64" fun s f => {f with publicKeyB64 := s},
    .string "privateKeyB64" fun s f => {f with privateKeyB64 := s},
    .int "createdAtMs" fun v f => {f with createdAtMs := v}]

/-- The file as it is written. -/
def IdentityFile.members (f : IdentityFile) : List (String × Scalar) :=
  [("version", .int f.version), ("deviceId", .str f.deviceID), ("publicKeyB64", .str f.publicKeyB64),
    ("privateKeyB64", .str f.privateKeyB64), ("createdAtMs", .int f.createdAtMs)]

/-- What `ed25519.GenerateKey` returns: the private key ends with the public one. -/
structure KeyPair where
  pub : List UInt8
  priv : List UInt8
  pub_length : pub.length = 32
  priv_length : priv.length = 64
  public_half : priv.drop 32 = pub

/-- What the runtime supplies while an identity is loaded or created: a key pair
unless that fails, whether the directory and the file could be written, the clock. -/
structure Runtime where
  generateKey : Option KeyPair
  mkdirAll : Bool
  writeFile : Bool
  now : Int64

section
variable (sum256 : List UInt8 → Vector UInt8 32)

/-- Without a key pair the process ends in a panic. -/
def generateDeviceIdentity (r : Runtime) : Option DeviceIdentity := do
  let key ← r.generateKey
  return {deviceID := hexEncode (sum256 key.pub).toList, publicKey := key.pub, privateKey := key.priv}

/-- The identity in a file whose fields pass their checks. -/
def IdentityFile.identity (f : IdentityFile) : Option DeviceIdentity := do
  if f.version = 1 ∧ f.deviceID ≠ "" then
    let pub ← Base64Url.decode f.publicKeyB64
    let priv ← Base64Url.decode f.privateKeyB64
    if pub.length = 32 ∧ priv.length = 64 then
      return {deviceID := f.deviceID, publicKey := pub, privateKey := priv}
    else none
  else none

def unmarshalIdentity (data : List UInt8) : Option IdentityFile := unmarshalInts IdentityFile.fields {} (runes data)

/-- The identity that the file holds, if it could be read. -/
def savedIdentity (data : Option (List UInt8)) : Option DeviceIdentity :=
  data.bind fun data => (unmarshalIdentity data).bind IdentityFile.identity

/-- The identity, and what was written to the file. `data` is what reading it gave. -/
def loadOrCreateIdentity (r : Runtime) (data : Option (List UInt8)) :
    Option (DeviceIdentity × Option (List UInt8)) :=
  match savedIdentity data with
  | some id => some (id, none)
  | none => do
    let id ← generateDeviceIdentity sum256 r
    if !r.mkdirAll then return (id, none)
    let f : IdentityFile :=
      { version := 1
        deviceID := id.deviceID
        publicKeyB64 := Base64Url.encode id.publicKey
        privateKeyB64 := Base64Url.encode id.privateKey
        createdAtMs := r.now.toInt }
    let raw := Utf8.encode (marshalIndent f.members)
    return (id, if r.writeFile then some raw else none)

/-! ### Consistency -/

/-- The device is named by its key, and the two keys belong together. -/
structure DeviceIdentity.Consistent (id : DeviceIdentity) : Prop where
  public_length : id.publicKey.length = 32
  named : id.deviceID = hexEncode (sum256 id.publicKey).toList
  paired : id.privateKey.drop 32 = id.publicKey

/-- Wherever the fields pass their checks, they belong together. -/
def FileConsistent (data : Option (List UInt8)) : Prop :=
  ∀ bytes f pub priv, data = some bytes → unmarshalIdentity bytes = some f → f.version = 1 → f.deviceID ≠ "" →
    Base64Url.decode f.publicKeyB64 = some pub → Base64Url.decode f.privateKeyB64 = some priv →
    pub.length = 32 → priv.length = 64 → f.deviceID = hexEncode (sum256 pub).toList ∧ priv.drop 32 = pub

variable {sum256}

theorem generated_consistent {r : Runtime} {id : DeviceIdentity} (h : generateDeviceIdentity sum256 r = some id) :
    id.Consistent sum256 := by
  rw [generateDeviceIdentity] at h
  cases hkey : r.generateKey with
  | none =>
    rw [hkey] at h
    cases h
  | some key =>
    rw [hkey] at h
    cases h
    exact ⟨key.pub_length, rfl, key.public_half⟩

/-- The checks that the fields of an accepted file passed. -/
theorem identity_checked {f : IdentityFile} {id : DeviceIdentity} (h : f.identity = some id) :
    f.version = 1 ∧ f.deviceID ≠ "" ∧ Base64Url.decode f.publicKeyB64 = some id.publicKey ∧
      Base64Url.decode f.privateKeyB64 = some id.privateKey ∧ id.publicKey.length = 32 ∧ id.privateKey.length = 64 ∧
      id.deviceID = f.deviceID := by
  unfold IdentityFile.identity at h
  by_cases hver : f.version = 1 ∧ f.deviceID ≠ ""
  · rw [if_pos hver] at h
    cases hpub : Base64Url.decode f.publicKeyB64 with
    | none =>
      rw [hpub] at h
      cases h
    | some pub =>
      cases hpriv : Base64Url.decode f.privateKeyB64 with
      | none =>
        rw [hpub, hpriv] at h
        cases h
      | some priv =>
        rw [hpub, hpriv] at h
        by_cases hlen : pub.length = 32 ∧ priv.length = 64
        · simp only [Option.bind_eq_bind, Option.bind_some, if_pos hlen] at h
          cases h
          exact ⟨hver.1, hver.2, rfl, rfl, hlen.1, hlen.2, rfl⟩
        · simp only [Option.bind_eq_bind, Option.bind_some, if_neg hlen] at h
          cases h
  · rw [if_neg hver] at h
    cases h

theorem identity_accepted {f : IdentityFile} {pub priv : List UInt8} (hver : f.version = 1) (hid : f.deviceID ≠ "")
    (hpub : Base64Url.decode f.publicKeyB64 = some pub) (hpriv : Base64Url.decode f.privateKeyB64 = some priv)
    (hlen : pub.length = 32) (hlen' : priv.length = 64) : f.identity = some ⟨f.deviceID, pub, priv⟩ := by
  simp [IdentityFile.identity, hver, hid, hpub, hpriv, hlen, hlen']

/-! ### What is written is read back -/

theorem plain_members {f : IdentityFile} (hver : Scalar.Writable (.int f.version)) (hid : Go.PlainText f.deviceID)
    (hpub : Go.PlainText f.publicKeyB64) (hpriv : Go.PlainText f.privateKeyB64)
    (hcreated : Scalar.Writable (.int f.createdAtMs)) :
    ∀ m ∈ f.members, Go.PlainText m.1 ∧ m.2.Writable := by
  simp only [IdentityFile.members, List.forall_mem_cons, List.not_mem_nil, false_imp_iff, implies_true, and_true]
  exact ⟨⟨by decide, hver⟩, ⟨by decide, hid⟩, ⟨by decide, hpub⟩, ⟨by decide, hpriv⟩, by decide, hcreated⟩

/-- A member that a field of the file takes. -/
theorem decode_member {field : StructField IdentityFile} {v : Json} {f f' : IdentityFile}
    (h : field ∈ IdentityFile.fields) (hv : field.decode v f = some f') (rest : List (String × Json)) :
    Go.decodeMembers IdentityFile.fields ((field.name, v) :: rest) f =
      Go.decodeMembers IdentityFile.fields rest f' := by
  have hfind : IdentityFile.fields.find? (fun g => Go.foldName g.name == Go.foldName field.name) = some field := by
    simp only [IdentityFile.fields, List.mem_cons, List.not_mem_nil, or_false] at h
    obtain rfl | rfl | rfl | rfl | rfl := h <;> rfl
  simp only [Go.decodeMembers, hfind, hv, Option.bind_some]

theorem decode_members (f : IdentityFile) :
    Go.decodeMembers IdentityFile.fields (f.members.map fun m => (m.1, m.2.json)) {} = some f := by
  have hmem (n : Fin 5) : IdentityFile.fields[n] ∈ IdentityFile.fields := List.getElem_mem _
  apply (decode_member (hmem 0) rfl _).trans
  apply (decode_member (hmem 1) rfl _).trans
  apply (decode_member (hmem 2) rfl _).trans
  apply (decode_member (hmem 3) rfl _).trans
  exact decode_member (hmem 4) rfl []

theorem unmarshal_written {f : IdentityFile} (h : ∀ m ∈ f.members, Go.PlainText m.1 ∧ m.2.Writable) :
    unmarshalIdentity (Utf8.encode (marshalIndent f.members)) = some f := by
  have hne : f.members ≠ [] := List.cons_ne_nil _ _
  rw [unmarshalIdentity, unmarshalInts, Go.read_bytes hne h, Option.bind_some, Go.decodeStruct]
  exact decode_members f

/-- The name of a device is not empty. -/
theorem hexEncode_ne (digest : Vector UInt8 32) : hexEncode digest.toList ≠ "" := by
  intro he
  have hlen := congrArg (fun s => s.toList.length) he
  simp [hexEncode] at hlen

/-- The file that was written is accepted, as the identity that was returned. -/
theorem written_accepted {r : Runtime} {id : DeviceIdentity} (hid : generateDeviceIdentity sum256 r = some id)
    (now : Int64) :
    savedIdentity (some (Utf8.encode (marshalIndent (IdentityFile.members
      { version := 1
        deviceID := id.deviceID
        publicKeyB64 := Base64Url.encode id.publicKey
        privateKeyB64 := Base64Url.encode id.privateKey
        createdAtMs := now.toInt })))) = some id := by
  have hcons := generated_consistent hid
  have hlen : id.privateKey.length = 64 := by
    rw [generateDeviceIdentity] at hid
    cases hkey : r.generateKey with
    | none =>
      rw [hkey] at hid
      cases hid
    | some key =>
      rw [hkey] at hid
      cases hid
      exact key.priv_length
  have hplain : Go.PlainText id.deviceID := by
    rw [hcons.named]
    exact Base64Url.plain_hexEncode _
  have hver : Scalar.Writable (.int 1) := ⟨by decide, by decide⟩
  have hmembers := @plain_members
    { version := 1
      deviceID := id.deviceID
      publicKeyB64 := Base64Url.encode id.publicKey
      privateKeyB64 := Base64Url.encode id.privateKey
      createdAtMs := now.toInt } hver hplain (Base64Url.plain_encode _) (Base64Url.plain_encode _)
    ⟨now.le_toInt, now.toInt_lt⟩
  rw [savedIdentity, Option.bind_some, unmarshal_written hmembers, Option.bind_some]
  refine identity_accepted rfl ?_ (Base64Url.decode_encode _) (Base64Url.decode_encode _) hcons.public_length hlen
  show id.deviceID ≠ ""
  rw [hcons.named]
  exact hexEncode_ne _

/-- An identity that was saved is the one that is returned, and nothing is written. -/
theorem load_saved {data : Option (List UInt8)} {id : DeviceIdentity} (h : savedIdentity data = some id) (r : Runtime) :
    loadOrCreateIdentity sum256 r data = some (id, none) := by
  rw [loadOrCreateIdentity, h]

/-- Otherwise it is a new one, and what is written is accepted. -/
theorem load_generated {data : Option (List UInt8)} {r : Runtime} {id : DeviceIdentity} {written : Option (List UInt8)}
    (hnone : savedIdentity data = none) (h : loadOrCreateIdentity sum256 r data = some (id, written)) :
    id.Consistent sum256 ∧ ∀ raw, written = some raw → savedIdentity (some raw) = some id := by
  rw [loadOrCreateIdentity, hnone] at h
  cases hgen : generateDeviceIdentity sum256 r with
  | none =>
    rw [hgen] at h
    cases h
  | some new =>
    rw [hgen] at h
    simp only [Option.bind_eq_bind, Option.bind_some] at h
    split at h
    · cases h
      exact ⟨generated_consistent hgen, nofun⟩
    · cases h
      refine ⟨generated_consistent hgen, fun raw hraw => ?_⟩
      split at hraw
      · cases hraw
        exact written_accepted hgen r.now
      · cases hraw

variable (sum256)

/-- **The identity a node runs with.** It is consistent, and what was written is
returned by the next load, exactly for the files in which the fields belong together
wherever they pass their checks. -/
theorem identity_consistent_iff (data : Option (List UInt8)) :
    (∀ r id written, loadOrCreateIdentity sum256 r data = some (id, written) → id.Consistent sum256 ∧
      ∀ raw, written = some raw → ∀ r', loadOrCreateIdentity sum256 r' (some raw) = some (id, none)) ↔
    FileConsistent sum256 data := by
  constructor
  · intro h bytes f pub priv hdata hf hver hid hpub hpriv hlen hlen'
    have hsaved : savedIdentity data = some ⟨f.deviceID, pub, priv⟩ := by
      rw [hdata, savedIdentity, Option.bind_some, hf, Option.bind_some,
        identity_accepted hver hid hpub hpriv hlen hlen']
    have hcons := (h ⟨none, false, false, 0⟩ _ _ (load_saved hsaved _)).1
    exact ⟨hcons.named, hcons.paired⟩
  · intro h r id written hload
    cases hsaved : savedIdentity data with
    | none =>
      obtain ⟨hcons, hwritten⟩ := load_generated hsaved hload
      exact ⟨hcons, fun raw hraw r' => load_saved (hwritten raw hraw) r'⟩
    | some saved =>
      rw [load_saved hsaved] at hload
      cases hload
      refine ⟨?_, nofun⟩
      obtain ⟨bytes, hdata, hbytes⟩ := Option.bind_eq_some_iff.mp hsaved
      obtain ⟨f, hf, hid⟩ := Option.bind_eq_some_iff.mp hbytes
      obtain ⟨hver, hne, hpub, hpriv, hlen, hlen', hname⟩ := identity_checked hid
      obtain ⟨hnamed, hpaired⟩ := h bytes f _ _ hdata hf hver hne hpub hpriv hlen hlen'
      exact ⟨hlen, by rw [hname, hnamed], hpaired⟩

end

/-- A hash that is right on the key of 32 zeros. -/
def zeroKeySum256 (data : List UInt8) : Vector UInt8 32 :=
  if data = List.replicate 32 0 then #v[
      0x66, 0x68, 0x7A, 0xAD, 0xF8, 0x62, 0xBD, 0x77, 0x6C, 0x8F, 0xC1, 0x8B, 0x8E, 0x9F, 0x8E, 0x20,
      0x08, 0x97, 0x14, 0x85, 0x6E, 0xE2, 0x33, 0xB3, 0x90, 0x2A, 0x59, 0x1D, 0x0D, 0x5F, 0x29, 0x25]
  else Vector.replicate 32 0

/-- The keys are well formed, the device is named `x`. -/
def renamedFile : List UInt8 := Utf8.encode
  ("\x7b\"version\":1,\"deviceId\":\"x\",\"publicKeyB64\":\"AAAAAAAAAAAAAAAAAAAAAAAAAAAAAAAAAAAAAAAAAAA\",\"privateKeyB64\":\"".toList ++
    List.replicate 86 'A' ++ "\"\x7d".toList)

theorem savedIdentity_renamed :
    savedIdentity (some renamedFile) = some ⟨"x", List.replicate 32 0, List.replicate 64 0⟩ := by
  decide +kernel

/-- A file in which the name was edited is used as it is. -/
theorem renamed_identity_used : ¬ ∀ sum256 r data id written,
    loadOrCreateIdentity sum256 r data = some (id, written) → id.Consistent sum256 := by
  intro h
  have hcons := h zeroKeySum256 ⟨none, false, false, 0⟩ _ _ _ (load_saved savedIdentity_renamed _)
  exact absurd hcons.named (by decide +kernel)

end RtcPlugin.Node
