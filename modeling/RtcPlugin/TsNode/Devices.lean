import RtcPlugin.Node.Handshake
import RtcPlugin.TsNode.GatewayClient
import RtcPlugin.TsNode.Identity

/-! One key pair, presented by both nodes.

The TypeScript node holds a key as the texts that `node:crypto` exports, the Go node as
its bytes; each derives a name, a public key and signatures from it by its own means.
`devices_alike`: with one key pair and the same options, for the same nonce and at the
same time, both ask to connect with the same parameters, where both runtimes give the
platform one name. -/
namespace RtcPlugin

/-! ### The Go node -/

namespace Node

/-- `ed25519.Sign` is a parameter. -/
def DeviceIdentity.SignPayload (sign : List UInt8 → List UInt8 → List UInt8) (id : DeviceIdentity) (payload : String) : String :=
  Base64Url.encode (sign id.privateKey (Utf8.encode payload.toList))

def DeviceIdentity.PublicKeyBase64URL (id : DeviceIdentity) : String := Base64Url.encode id.publicKey

/-- What the client shows of its identity. -/
structure GatewayClientConfig.Presents (sign : List UInt8 → List UInt8 → List UInt8) (g : GatewayClientConfig)
    (id : DeviceIdentity) : Prop where
  deviceId : g.deviceId = id.deviceID
  publicKey : g.publicKeyBase64URL = id.PublicKeyBase64URL
  signs : ∀ payload, g.signPayload payload = id.SignPayload sign payload

/-- What the Go node makes of a key pair. -/
theorem generated_key {sum256 : List UInt8 → Vector UInt8 32} {r : Runtime} {key : KeyPair} {id : DeviceIdentity}
    (hkey : r.generateKey = some key) (hid : generateDeviceIdentity sum256 r = some id) :
    id = ⟨hexEncode (sum256 key.pub).toList, key.pub, key.priv⟩ := by
  rw [generateDeviceIdentity, hkey] at hid
  exact (Option.some.inj hid).symm

end Node

/-! ### The TypeScript node -/

namespace TsNode

/-- What a client shows of its identity, when that consists of texts. -/
structure Setup.Presents (c : Crypto) (e : Setup) (id : DeviceIdentity) : Prop where
  deviceId : id.deviceId = .str e.deviceId
  publicKey : ∃ pem, id.publicKeyPem = .str pem ∧ publicKeyRawBase64Url c pem = some e.publicKey
  signs : ∃ pem, id.privateKeyPem = .str pem ∧ ∀ payload, TsNode.signPayload c pem payload = some (e.signPayload payload)

theorem base64UrlEncode_eq (buf : List UInt8) : base64UrlEncode buf = Base64Url.encode buf := by
  rw [base64UrlEncode, Base64.replaced_encode, Base64Url.encode]

section
variable {c : Crypto} {e : Setup} {key : PemKeyPair c}

/-- What a client shows of a key pair. -/
theorem presents_key (h : e.Presents c key.identity) : e.deviceId = hexEncode (c.sha256 key.raw).toList ∧
    e.publicKey = Base64Url.encode key.raw ∧
    ∀ payload, (c.sign key.privateKeyPem (Utf8.encode payload.toList)).map Base64Url.encode = some (e.signPayload payload) := by
  obtain ⟨pub, hpub, hpublic⟩ := h.publicKey
  obtain ⟨priv, hpriv, hsigns⟩ := h.signs
  cases hpub
  cases hpriv
  refine ⟨(Json.str.inj h.deviceId).symm, ?_, fun payload => ?_⟩
  · rw [publicKeyRawBase64Url, derivePublicKeyRaw_key, Option.map_some, base64UrlEncode_eq] at hpublic
    exact (Option.some.inj hpublic).symm
  · have hpayload := hsigns payload
    rwa [TsNode.signPayload, funext base64UrlEncode_eq] at hpayload

end

/-! ### Both nodes -/

/-- The texts and the bytes are of one key pair, and both languages compute the same hash and signatures. -/
structure SameKey (c : Crypto) (sum256 : List UInt8 → Vector UInt8 32) (sign : List UInt8 → List UInt8 → List UInt8)
    (texts : PemKeyPair c) (key : Node.KeyPair) : Prop where
  raw : texts.raw = key.pub
  hash : c.sha256 = sum256
  signs : ∀ data, c.sign texts.privateKeyPem data = some (sign key.priv data)

/-- The same options for both nodes, on a platform that `process.platform` and
`runtime.GOOS` name alike, as they do not name Windows. -/
structure SameOptions (e : Setup) (g : Node.GatewayClientConfig) : Prop where
  token : e.opts.token.getD "" = g.token
  displayName : e.opts.displayName = some g.displayName
  caps : e.opts.caps.getD ["webrtc", "audio"] = g.caps
  commands : e.opts.commands = g.commands
  platform : e.platform = g.goos

/-- The parameters of both connect requests, field by field. -/
structure SameParams (ts : ConnectParams) (go : Node.ConnectParams) : Prop where
  protocol : (ts.minProtocol, ts.maxProtocol) = (go.minProtocol, go.maxProtocol)
  client : (ts.clientId, ts.displayName, ts.version, ts.platform, ts.mode) =
    (go.clientId, go.displayName, go.version, go.platform, go.mode)
  role : (ts.role, ts.caps, ts.commands) = (go.role, go.caps, go.commands)
  auth : ts.auth = go.auth
  device : ts.device = ⟨go.device.id, go.device.publicKey, go.device.signature, go.device.signedAt, some (.str go.device.nonce)⟩

/-- **Both nodes present one key pair the same way**: the same name, the same public key, and
the same signature for each challenge that they answer at the same time. -/
theorem devices_alike {c : Crypto} {sum256 : List UInt8 → Vector UInt8 32} {sign : List UInt8 → List UInt8 → List UInt8}
    {texts : PemKeyPair c} {key : Node.KeyPair} (hsame : SameKey c sum256 sign texts key) {id : DeviceIdentity}
    (hid : generateDeviceIdentity texts = some id) {e : Setup} (hpresents : e.Presents c id) {r : Node.Runtime}
    (hkey : r.generateKey = some key) {id' : Node.DeviceIdentity} (hid' : Node.generateDeviceIdentity sum256 r = some id')
    {g : Node.GatewayClientConfig} (hpresents' : g.Presents sign id') (hopts : SameOptions e g) (nonce reqID : String)
    (signedAtMs : Auth.TimeValue) :
    SameParams (GatewayNodeClient.connectParams e (some (.str nonce)) signedAtMs)
      (Node.connectRequest g signedAtMs reqID nonce).params := by
  rw [generateDeviceIdentity_key] at hid
  cases hid
  obtain ⟨hdevice, hpublic, hsigns⟩ := presents_key hpresents
  obtain rfl := Node.generated_key hkey hid'
  have hname : e.deviceId = g.deviceId := by rw [hdevice, hpresents'.deviceId, hsame.raw, hsame.hash]
  have hpub : e.publicKey = g.publicKeyBase64URL := by
    rw [hpublic, hsame.raw, hpresents'.publicKey, Node.DeviceIdentity.PublicKeyBase64URL]
  have hsignature (payload : String) : e.signPayload payload = g.signPayload payload := by
    have hpayload := hsigns payload
    rw [hsame.signs, Option.map_some] at hpayload
    rw [hpresents'.signs, Node.DeviceIdentity.SignPayload]
    exact (Option.some.inj hpayload).symm
  unfold GatewayNodeClient.connectParams Node.connectRequest
  refine ⟨rfl, ?_, ?_, ?_, ?_⟩
  · rw [hopts.displayName, hopts.platform]
    rfl
  · rw [hopts.caps, hopts.commands]
  · dsimp only
    rw [hopts.token, ite_not]
  · dsimp only
    rw [hname, hpub, hsignature, Auth.payloads_agree, hopts.token, hopts.platform]
    rfl

/-- A client with the key of 32 zeros. -/
def zeroKeySetup : Setup :=
  { GatewayNodeClient.demo with
    opts := ⟨some "secret", some "RTC Node", ["rtc.call.accept"], none, true⟩
    deviceId := hexEncode (demoCrypto.sha256 demoKey.raw).toList
    publicKey := base64UrlEncode demoKey.raw
    signPayload := fun payload => base64UrlEncode ((Utf8.encode payload.toList).take 64) }

def zeroKeyPair : Node.KeyPair where
  pub := List.replicate 32 0
  priv := List.replicate 64 0
  pub_length := List.length_replicate
  priv_length := List.length_replicate
  public_half := List.drop_replicate

def zeroKeyConfig : Node.GatewayClientConfig where
  deviceId := hexEncode (Node.zeroKeySum256 zeroKeyPair.pub).toList
  publicKeyBase64URL := Base64Url.encode zeroKeyPair.pub
  signPayload := fun payload => Base64Url.encode ((Utf8.encode payload.toList).take 64)
  token := "secret"
  displayName := "RTC Node"
  caps := ["webrtc", "audio"]
  commands := ["rtc.call.accept"]
  goos := "linux"

theorem devices_alike_zero :
    SameParams (GatewayNodeClient.connectParams zeroKeySetup (some (.str "nonce")) GatewayNodeClient.demoTime)
      (Node.connectRequest zeroKeyConfig GatewayNodeClient.demoTime "1" "nonce").params := by
  have hsame : SameKey demoCrypto Node.zeroKeySum256 (fun _ data => data.take 64) demoKey zeroKeyPair :=
    ⟨rfl, rfl, fun _ => rfl⟩
  have hpublic : publicKeyRawBase64Url demoCrypto "public" = some zeroKeySetup.publicKey :=
    congrArg (Option.map base64UrlEncode) (derivePublicKeyRaw_key demoKey)
  have hpresents : zeroKeySetup.Presents demoCrypto demoKey.identity :=
    ⟨rfl, ⟨"public", rfl, hpublic⟩, ⟨"private", rfl, fun _ => rfl⟩⟩
  exact devices_alike hsame (generateDeviceIdentity_key demoKey) hpresents (r := ⟨some zeroKeyPair, true, true, 0⟩) rfl
    rfl (g := zeroKeyConfig) ⟨rfl, rfl, fun _ => rfl⟩ ⟨rfl, rfl, rfl, rfl, rfl⟩ "nonce" "1" GatewayNodeClient.demoTime

end TsNode
end RtcPlugin
