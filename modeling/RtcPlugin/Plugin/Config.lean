import RtcPlugin.Json.Schema
import RtcPlugin.Json.Stringify
import RtcPlugin.Plugin.Types

/-! The plugin's configuration, from the manifest to the record.

The host checks a configuration against the manifest's `configSchema`; `register`
then parses it with a schema of its own and throws where that fails. The manifest
is the more permissive of the two: it does not require the `urls` of an ICE server,
and it bounds no integer from above (`config_loads_iff`). -/
namespace RtcPlugin

/-! ### The manifest -/

def configSchema : JsonSchema := .object
  [("enabled", .boolean),
    ("iceServers", .array (.object
      [("urls", .oneOf [.string, .array .string]), ("username", .string), ("credential", .string)] true)),
    ("volcAppId", .string), ("volcAccessKey", .string), ("volcResourceId", .string), ("volcSpeaker", .string),
    ("maxConcurrentCalls", .integer 1), ("maxCallDurationSec", .integer 1), ("silenceTimeoutSec", .integer 1)]
  false

/-! ### The plugin's schema -/

def Urls.toJson : Urls → Json
  | .one url => .str url
  | .many urls => .arr (urls.map .str)

def IceServer.toJson (s : IceServer) : Json :=
  .obj (("urls", s.urls.toJson) :: (s.username.map fun u => ("username", Json.str u)).toList ++
    (s.credential.map fun c => ("credential", Json.str c)).toList)

def iceServerShape : List (String × Schema) :=
  [("urls", .union [.string, .array .string]), ("username", .optional .string), ("credential", .optional .string)]

def webRtcConfigShape : List (String × Schema) :=
  [("enabled", .default .boolean (.bool false)),
    ("iceServers", .default (.array (.object iceServerShape)) (.arr (defaultIceServers.map IceServer.toJson))),
    ("volcAppId", .optional .string), ("volcAccessKey", .optional .string),
    ("volcResourceId", .default .string (.str "volc.speech.dialog")),
    ("volcSpeaker", .default .string (.str "zh_female_cancan_mars_bigtts")),
    ("maxConcurrentCalls", .default (.int 1) (.num ⟨5, 0, true⟩)),
    ("maxCallDurationSec", .default (.int 1) (.num ⟨600, 0, true⟩)),
    ("silenceTimeoutSec", .default (.int 1) (.num ⟨30, 0, true⟩))]

def webRtcConfigSchema : Schema := .object webRtcConfigShape

/-- `obj`: what is not an object reads as an empty one. -/
def configMembers : Option Json → List (String × Json)
  | some (.obj members) => members
  | _ => []

/-- `typeof obj.enabled === "boolean" ? obj.enabled : false` -/
def enabledFlag (members : List (String × Json)) : Bool :=
  match (Json.obj members).get? "enabled" with
  | some (.bool b) => b
  | _ => false

def Zod.resolveWebRtcConfig (zod : Zod) (raw : Option Json) : Option (Option Json) :=
  let members := configMembers raw
  zod.parse webRtcConfigSchema (some (.obj (Json.setMember members "enabled" (.bool (enabledFlag members)))))

/-! ### The value as a record -/

def asUrls : Json → Option Urls
  | .str url => some (.one url)
  | .arr elems => (elems.mapM Json.asString?).map .many
  | _ => none

/-- An optional member that is a string if it is there. -/
def asOptionalString : Option Json → Option (Option String)
  | none => some none
  | some v => v.asString?.map some

def asIceServer (v : Json) : Option IceServer := do
  let urls ← (v.get? "urls").bind asUrls
  let username ← asOptionalString (v.get? "username")
  let credential ← asOptionalString (v.get? "credential")
  return {urls, username, credential}

def asIceServers : Json → Option (List IceServer)
  | .arr elems => elems.mapM asIceServer
  | _ => none

def asBool : Json → Option Bool
  | .bool b => some b
  | _ => none

def asNat : Json → Option Nat
  | .num d => d.int?.map Int.toNat
  | _ => none

/-- The record that the plugin sees in a value of the schema's type. -/
def asWebRtcConfig (v : Json) : Option WebRtcConfig := do
  let enabled ← (v.get? "enabled").bind asBool
  let iceServers ← (v.get? "iceServers").bind asIceServers
  let volcAppId ← asOptionalString (v.get? "volcAppId")
  let volcAccessKey ← asOptionalString (v.get? "volcAccessKey")
  let volcResourceId ← (v.get? "volcResourceId").bind Json.asString?
  let volcSpeaker ← (v.get? "volcSpeaker").bind Json.asString?
  let maxConcurrentCalls ← (v.get? "maxConcurrentCalls").bind asNat
  let maxCallDurationSec ← (v.get? "maxCallDurationSec").bind asNat
  let silenceTimeoutSec ← (v.get? "silenceTimeoutSec").bind asNat
  return {enabled, iceServers, volcAppId, volcAccessKey, volcResourceId, volcSpeaker, maxConcurrentCalls,
          maxCallDurationSec, silenceTimeoutSec}

/-- What an absent field comes to. -/
def Schema.default? : Schema → Option Json
  | .default _ value => some value
  | _ => none

/-- The defaults of the schema are the defaults of the record. -/
theorem defaults_config :
    asWebRtcConfig (.obj (webRtcConfigShape.filterMap fun f => f.2.default?.map fun v => (f.1, v))) = some {} := rfl

/-! ### What loading means -/

/-- What is kept of an ICE server: the members that it has a place for. -/
def KeepsServer (v r : Json) : Prop :=
  ∀ name, r.get? name = if name ∈ iceServerShape.map Prod.fst then v.get? name else none

/-- A field keeps its value; in a list of ICE servers each keeps its own. -/
def KeepsField (name : String) (v r : Json) : Prop :=
  if name = "iceServers" then
    ∃ elems results, v = .arr elems ∧ r = .arr results ∧ List.Forall₂ KeepsServer elems results
  else r = v

/-- The configuration loads: as `r`, which the plugin sees as `config`. -/
structure Loads (zod : Zod) (raw r : Json) (config : WebRtcConfig) : Prop where
  returns : zod.resolveWebRtcConfig (some raw) = some (some r)
  typed : asWebRtcConfig r = some config
  present : ∀ f ∈ webRtcConfigShape, ∀ v, raw.get? f.1 = some v → ∃ u, r.get? f.1 = some u ∧ KeepsField f.1 v u
  absent : ∀ f ∈ webRtcConfigShape, raw.get? f.1 = none → r.get? f.1 = f.2.default?
  urls : ∀ servers, r.get? "iceServers" = some (.arr servers) → ∀ s ∈ servers, (s.get? "urls").isSome = true

/-- Every ICE server has `urls`, and the integers are safe ones. -/
structure Loadable (raw : Json) : Prop where
  urls : ∀ elems, raw.get? "iceServers" = some (.arr elems) → ∀ v ∈ elems, (v.get? "urls").isSome = true
  safe : ∀ name ∈ ["maxConcurrentCalls", "maxCallDurationSec", "silenceTimeoutSec"], ∀ d n,
    raw.get? name = some (.num d) → d.int? = some n → n ≤ maxSafeInteger

theorem lookup_replace (l : List (String × Json)) (name : String) (v : Json) (k : String) :
    (l.map fun m => if m.1 == name then (name, v) else m).lookup k =
      if k = name then (if l.any (·.1 == name) then some v else none) else l.lookup k := by
  induction l with
  | nil => simp
  | cons m rest ih =>
    obtain ⟨name', u⟩ := m
    rw [List.map_cons, List.any_cons, List.lookup_cons]
    by_cases hm : name' = name
    · subst hm
      rw [if_pos (beq_self_eq_true name'), List.lookup_cons, ih]
      by_cases hk : k = name'
      · simp [hk]
      · simp [hk, beq_eq_false_iff_ne.mpr hk]
    · have hbeq : (name' == name) = false := beq_eq_false_iff_ne.mpr hm
      rw [if_neg (by rw [hbeq]; exact Bool.false_ne_true), List.lookup_cons, ih, hbeq, Bool.false_or]
      by_cases hk : k = name'
      · subst hk
        simp [hm]
      · rw [beq_eq_false_iff_ne.mpr hk]

theorem get?_setMember (members : List (String × Json)) (name : String) (v : Json) (k : String) :
    (Json.obj (Json.setMember members name v)).get? k = if k = name then some v else (Json.obj members).get? k := by
  simp only [Json.get?, Json.setMember]
  split
  · next hany =>
    rw [← List.map_reverse, lookup_replace]
    by_cases hk : k = name
    · have hany' : members.reverse.any (·.1 == name) = true := by rwa [List.any_reverse]
      rw [if_pos hk, if_pos hk, if_pos hany']
    · rw [if_neg hk, if_neg hk]
  · rw [List.reverse_append, List.reverse_singleton, List.singleton_append, List.lookup_cons]
    by_cases hk : k = name
    · simp [hk]
    · rw [if_neg hk, beq_eq_false_iff_ne.mpr hk]

section
variable (zod : Zod)

/-! ### One ICE server -/

def serverSchema : JsonSchema :=
  .object [("urls", .oneOf [.string, .array .string]), ("username", .string), ("credential", .string)] true

theorem asString?_str (urls : List String) : (urls.map Json.str).mapM Json.asString? = some urls := by
  induction urls with
  | nil => rfl
  | cons u rest ih => simp [List.mapM_cons, ih, Json.asString?]

/-- Text or a list of texts. -/
theorem accepts_urls {u : Json} (h : JsonSchema.accepts (.oneOf [.string, .array .string]) u = true) :
    ∃ urls : Urls, u = urls.toJson := by
  cases u with
  | str url => exact ⟨.one url, rfl⟩
  | arr elems =>
    have helems : ∀ e ∈ elems, ∃ s, e = Json.str s := fun e he => by
      simp [JsonSchema.accepts, JsonSchema.acceptedBy] at h
      exact JsonSchema.accepts_string (h e he)
    have hall : ∃ urls : List String, elems = urls.map .str := by
      clear h
      induction elems with
      | nil => exact ⟨[], rfl⟩
      | cons e rest ih =>
        rw [List.forall_mem_cons] at helems
        obtain ⟨⟨s, rfl⟩, hrest⟩ := helems
        obtain ⟨urls, rfl⟩ := ih hrest
        exact ⟨s :: urls, rfl⟩
    obtain ⟨urls, rfl⟩ := hall
    exact ⟨.many urls, rfl⟩
  | _ => simp [JsonSchema.accepts, JsonSchema.acceptedBy] at h

theorem asUrls_toJson (urls : Urls) : asUrls urls.toJson = some urls := by
  cases urls with
  | one url => rfl
  | many urls =>
    show ((urls.map Json.str).mapM Json.asString?).map Urls.many = _
    rw [asString?_str]
    rfl

theorem parse_urls (urls : Urls) :
    zod.parse (.union [.string, .array .string]) (some urls.toJson) = some (some urls.toJson) := by
  rw [zod.union]
  cases urls with
  | one url => simp [Urls.toJson, zod.string]
  | many urls =>
    have harr : zod.parse (.array .string) (some (.arr (urls.map .str))) = some (some (.arr (urls.map .str))) :=
      zod.array_ok _ _ _ (List.forall₂_same.mpr fun v hv => by
        obtain ⟨s, _, rfl⟩ := List.mem_map.mp hv
        rw [zod.string])
    simp [Urls.toJson, zod.string, harr]

theorem parse_optional_string {v : Option Json} (h : ∀ u, v = some u → JsonSchema.accepts .string u = true) :
    zod.parse (.optional .string) v = some v := by
  rw [zod.optional]
  cases v with
  | none => rfl
  | some u =>
    obtain ⟨s, rfl⟩ := JsonSchema.accepts_string (h u rfl)
    simp [zod.string]

theorem asOptionalString_accepted {v : Option Json} (h : ∀ u, v = some u → JsonSchema.accepts .string u = true) :
    ∃ s, asOptionalString v = some s := by
  cases v with
  | none => exact ⟨none, rfl⟩
  | some u =>
    obtain ⟨s, rfl⟩ := JsonSchema.accepts_string (h u rfl)
    exact ⟨some s, rfl⟩

/-- A server with `urls` is parsed, and keeps what it has a place for. -/
theorem server_parses {v : Json} (hv : serverSchema.accepts v = true) (hurls : (v.get? "urls").isSome = true) :
    ∃ r s, zod.parse (.object iceServerShape) (some v) = some (some r) ∧ KeepsServer v r ∧ asIceServer r = some s := by
  obtain ⟨members, rfl, hprops⟩ := JsonSchema.accepts_object hv
  obtain ⟨u, hu⟩ := Option.isSome_iff_exists.mp hurls
  obtain ⟨urls, rfl⟩ := accepts_urls (hprops ("urls", _) (by simp) u hu)
  have husername := hprops ("username", .string) (by simp)
  have hcredential := hprops ("credential", .string) (by simp)
  obtain ⟨out, hparse, hout⟩ := zod.object_ok iceServerShape members (Json.obj members).get? (by
    simp only [iceServerShape, List.forall_mem_cons, List.not_mem_nil, false_imp_iff, implies_true, and_true]
    exact ⟨by rw [hu, parse_urls], parse_optional_string zod husername, parse_optional_string zod hcredential⟩)
  obtain ⟨username, huser⟩ := asOptionalString_accepted husername
  obtain ⟨credential, hcred⟩ := asOptionalString_accepted hcredential
  refine ⟨.obj out, {urls, username, credential}, hparse, hout, ?_⟩
  have hget (name : String) (hname : name ∈ iceServerShape.map Prod.fst) :
      (Json.obj out).get? name = (Json.obj members).get? name := by rw [hout, if_pos hname]
  simp [asIceServer, hget "urls" (by decide), hget "username" (by decide), hget "credential" (by decide), hu, huser,
    hcred, asUrls_toJson]

/-- A server without `urls` is refused. -/
theorem server_throws {v : Json} (hv : serverSchema.accepts v = true) (hurls : v.get? "urls" = none) :
    zod.parse (.object iceServerShape) (some v) = none := by
  obtain ⟨members, rfl, _⟩ := JsonSchema.accepts_object hv
  refine zod.object_bad _ members ("urls", .union [.string, .array .string]) (by simp [iceServerShape]) ?_
  have harr : zod.parse (.array .string) none = none := zod.array_only .string none nofun
  rw [hurls, zod.union]
  simp [zod.string, harr]

/-! ### All of them -/

theorem servers_parse {elems : List Json} (helems : ∀ v ∈ elems, serverSchema.accepts v = true)
    (hurls : ∀ v ∈ elems, (v.get? "urls").isSome = true) :
    ∃ results servers, List.Forall₂ (fun v r => zod.parse (.object iceServerShape) (some v) = some (some r)) elems results ∧
      List.Forall₂ KeepsServer elems results ∧ results.mapM asIceServer = some servers := by
  induction elems with
  | nil => exact ⟨[], [], .nil, .nil, rfl⟩
  | cons v rest ih =>
    rw [List.forall_mem_cons] at helems hurls
    obtain ⟨r, s, hparse, hkeeps, hs⟩ := server_parses zod helems.1 hurls.1
    obtain ⟨results, servers, hparses, hkept, hservers⟩ := ih helems.2 hurls.2
    exact ⟨r :: results, s :: servers, .cons hparse hparses, .cons hkeeps hkept, by simp [List.mapM_cons, hs, hservers]⟩

theorem kept_urls {elems results : List Json} (h : List.Forall₂ KeepsServer elems results)
    (hurls : ∀ v ∈ elems, (v.get? "urls").isSome = true) : ∀ r ∈ results, (r.get? "urls").isSome = true := by
  induction h with
  | nil => exact List.forall_mem_nil _
  | cons hv _ ih =>
    rw [List.forall_mem_cons] at hurls ⊢
    exact ⟨by rw [hv "urls", if_pos (by decide)]; exact hurls.1, ih hurls.2⟩

/-! ### The other fields -/

theorem parse_integer {v : Json} (hv : JsonSchema.accepts (.integer 1) v = true) :
    ∃ d n, v = .num d ∧ d.int? = some n ∧ zod.parse (.int 1) (some v) =
      if n ≤ maxSafeInteger then some (some v) else none := by
  obtain ⟨d, n, rfl, hn, hle⟩ := JsonSchema.accepts_integer hv
  refine ⟨d, n, rfl, hn, ?_⟩
  rw [zod.int 1 d n hn]
  have hbound : (1 ≤ n ∧ n.natAbs ≤ maxSafeInteger) ↔ n ≤ maxSafeInteger := by omega
  simp only [hbound]

/-- The field of an object that the schema gives a default. -/
theorem parse_default {inner : Schema} {value : Json} {v : Option Json}
    (h : ∀ u, v = some u → zod.parse inner (some u) = some (some u)) :
    zod.parse (.default inner value) v = some (some (v.getD value)) := by
  rw [zod.default]
  cases v with
  | none => rfl
  | some u => exact h u rfl

/-- A text that is there, or its default. -/
theorem string_field {v : Option Json} (h : ∀ u, v = some u → JsonSchema.accepts .string u = true) (value : String) :
    (∃ s, (v.getD (.str value)).asString? = some s) ∧
      zod.parse (.default .string (.str value)) v = some (some (v.getD (.str value))) := by
  refine ⟨?_, parse_default zod fun u hu => ?_⟩
  · cases v with
    | none => exact ⟨value, rfl⟩
    | some u =>
      obtain ⟨s, rfl⟩ := JsonSchema.accepts_string (h u rfl)
      exact ⟨s, rfl⟩
  · obtain ⟨s, rfl⟩ := JsonSchema.accepts_string (h u hu)
    rw [zod.string]

/-- An integer that is there and safe, or its default. -/
theorem integer_field {v : Option Json} (h : ∀ u, v = some u → JsonSchema.accepts (.integer 1) u = true)
    (hsafe : ∀ d n, v = some (.num d) → d.int? = some n → n ≤ maxSafeInteger) (value : Int) :
    (∃ n, asNat (v.getD (.num ⟨value, 0, true⟩)) = some n) ∧
      zod.parse (.default (.int 1) (.num ⟨value, 0, true⟩)) v = some (some (v.getD (.num ⟨value, 0, true⟩))) := by
  refine ⟨?_, parse_default zod fun u hu => ?_⟩
  · cases v with
    | none => exact ⟨value.toNat, by simp [asNat, Decimal.int?]⟩
    | some u =>
      obtain ⟨d, n, rfl, hn, _⟩ := JsonSchema.accepts_integer (h u rfl)
      exact ⟨n.toNat, by simp [asNat, hn]⟩
  · obtain ⟨d, n, rfl, hn, hparse⟩ := parse_integer zod (h u hu)
    rw [hparse, if_pos (hsafe d n hu hn)]

theorem configSchema_accepts {raw : Json} (h : configSchema.accepts raw = true) :
    ∃ members, raw = .obj members ∧
      (∀ v, raw.get? "enabled" = some v → ∃ b, v = .bool b) ∧
      (∀ v, raw.get? "iceServers" = some v → ∃ elems, v = .arr elems ∧ ∀ e ∈ elems, serverSchema.accepts e = true) ∧
      (∀ name ∈ ["volcAppId", "volcAccessKey", "volcResourceId", "volcSpeaker"], ∀ v, raw.get? name = some v →
        JsonSchema.accepts .string v = true) ∧
      ∀ name ∈ ["maxConcurrentCalls", "maxCallDurationSec", "silenceTimeoutSec"], ∀ v, raw.get? name = some v →
        JsonSchema.accepts (.integer 1) v = true := by
  obtain ⟨members, rfl, hprops⟩ := JsonSchema.accepts_object h
  simp only [List.forall_mem_cons, List.not_mem_nil, false_imp_iff, implies_true, and_true] at hprops ⊢
  obtain ⟨henabled, hservers, happ, hkey, hresource, hspeaker, hcalls, hduration, hsilence⟩ := hprops
  exact ⟨members, rfl, fun v hv => JsonSchema.accepts_boolean (henabled v hv),
    fun v hv => JsonSchema.accepts_array (hservers v hv), ⟨happ, hkey, hresource, hspeaker⟩,
    hcalls, hduration, hsilence⟩

/-- What the list of servers comes to, given or not. -/
theorem servers_field {v : Option Json}
    (h : ∀ u, v = some u → ∃ elems, u = .arr elems ∧ ∀ e ∈ elems, serverSchema.accepts e = true)
    (hurls : ∀ elems, v = some (.arr elems) → ∀ e ∈ elems, (e.get? "urls").isSome = true) :
    ∃ results servers,
      zod.parse (.default (.array (.object iceServerShape)) (.arr (defaultIceServers.map IceServer.toJson))) v =
        some (some (.arr results)) ∧
      results.mapM asIceServer = some servers ∧ (∀ r ∈ results, (r.get? "urls").isSome = true) ∧
      (v = none → results = defaultIceServers.map IceServer.toJson) ∧
      ∀ u, v = some u → ∃ elems, u = .arr elems ∧ List.Forall₂ KeepsServer elems results := by
  rw [zod.default]
  cases v with
  | none =>
    refine ⟨defaultIceServers.map IceServer.toJson, defaultIceServers, rfl, rfl, ?_, fun _ => rfl, nofun⟩
    intro r hr
    obtain rfl := List.mem_singleton.mp hr
    rfl
  | some u =>
    obtain ⟨elems, rfl, helems⟩ := h u rfl
    obtain ⟨results, servers, hparses, hkept, hservers⟩ := servers_parse zod helems (hurls elems rfl)
    refine ⟨results, servers, zod.array_ok _ _ _ hparses, hservers, kept_urls hkept (hurls elems rfl), nofun,
      fun u hu => ?_⟩
    cases hu
    exact ⟨elems, rfl, hkept⟩

/-- The object that is parsed: the input with its flag made a boolean. -/
theorem get?_input (members : List (String × Json)) {name : String} (hname : name ≠ "enabled") :
    (Json.obj (Json.setMember members "enabled" (.bool (enabledFlag members)))).get? name =
      (Json.obj members).get? name := by
  rw [get?_setMember, if_neg hname]

theorem enabledFlag_kept {members : List (String × Json)}
    (h : ∀ v, (Json.obj members).get? "enabled" = some v → ∃ b, v = .bool b) {v : Json}
    (hv : (Json.obj members).get? "enabled" = some v) : v = .bool (enabledFlag members) := by
  obtain ⟨b, rfl⟩ := h v hv
  rw [enabledFlag, hv]

/-- What the fields come to, once the servers have come to `results`. -/
def fieldValue (members : List (String × Json)) (results : List Json) (name : String) : Option Json :=
  if name = "enabled" then some (.bool (enabledFlag members))
  else if name = "iceServers" then some (.arr results)
  else match (webRtcConfigShape.lookup name).bind Schema.default? with
    | some value => some (((Json.obj members).get? name).getD value)
    | none => (Json.obj members).get? name

theorem lookup_default :
    ∀ f ∈ webRtcConfigShape, (webRtcConfigShape.lookup f.1).bind Schema.default? = f.2.default? := by
  simp only [webRtcConfigShape, List.forall_mem_cons, List.not_mem_nil, false_imp_iff, implies_true, and_true]
  exact ⟨rfl, rfl, rfl, rfl, rfl, rfl, rfl, rfl, rfl⟩

theorem fieldValue_present {members : List (String × Json)} {results : List Json} {name : String} {v : Json}
    (henabled : ∀ v, (Json.obj members).get? "enabled" = some v → ∃ b, v = .bool b)
    (hkept : ∀ u, (Json.obj members).get? "iceServers" = some u →
      ∃ elems, u = .arr elems ∧ List.Forall₂ KeepsServer elems results)
    (hv : (Json.obj members).get? name = some v) :
    ∃ u, fieldValue members results name = some u ∧ KeepsField name v u := by
  unfold fieldValue KeepsField
  by_cases hflag : name = "enabled"
  · subst hflag
    exact ⟨.bool (enabledFlag members), rfl, (enabledFlag_kept henabled hv).symm⟩
  · by_cases hlist : name = "iceServers"
    · subst hlist
      obtain ⟨elems, rfl, hall⟩ := hkept v hv
      exact ⟨.arr results, rfl, elems, results, rfl, rfl, hall⟩
    · rw [if_neg hflag, if_neg hlist, hv]
      exact ⟨v, by split <;> rfl, by rw [if_neg hlist]⟩

theorem fieldValue_absent {members : List (String × Json)} {results : List Json} {f : String × Schema}
    (hf : f ∈ webRtcConfigShape)
    (hdefault : (Json.obj members).get? "iceServers" = none → results = defaultIceServers.map IceServer.toJson)
    (hv : (Json.obj members).get? f.1 = none) : fieldValue members results f.1 = f.2.default? := by
  rw [← lookup_default f hf]
  generalize f.1 = name at hv
  unfold fieldValue
  by_cases hflag : name = "enabled"
  · subst hflag
    rw [enabledFlag, hv]
    rfl
  · by_cases hlist : name = "iceServers"
    · subst hlist
      rw [hdefault hv]
      rfl
    · rw [if_neg hflag, if_neg hlist, hv]
      cases (webRtcConfigShape.lookup name).bind Schema.default? <;> rfl

/-- A loadable configuration loads. -/
theorem config_loads {raw : Json} (haccepts : configSchema.accepts raw = true) (hload : Loadable raw) :
    ∃ r config, Loads zod raw r config := by
  obtain ⟨members, rfl, henabled, hservers, hstrings, hints⟩ := configSchema_accepts haccepts
  obtain ⟨results, servers, hparse, hserver, hurls, hdefault, hkept⟩ := servers_field zod hservers hload.urls
  have hstring (name : String) (hname : name ∈ ["volcAppId", "volcAccessKey", "volcResourceId", "volcSpeaker"]) :=
    hstrings name hname
  have happ := hstring "volcAppId" (by decide)
  have hkey := hstring "volcAccessKey" (by decide)
  obtain ⟨app, happId⟩ := asOptionalString_accepted happ
  obtain ⟨key, haccessKey⟩ := asOptionalString_accepted hkey
  obtain ⟨⟨resource, hresource⟩, hparseResource⟩ :=
    string_field zod (hstring "volcResourceId" (by decide)) "volc.speech.dialog"
  obtain ⟨⟨speaker, hspeaker⟩, hparseSpeaker⟩ :=
    string_field zod (hstring "volcSpeaker" (by decide)) "zh_female_cancan_mars_bigtts"
  have hint (name : String) (hname : name ∈ ["maxConcurrentCalls", "maxCallDurationSec", "silenceTimeoutSec"]) :=
    integer_field zod (hints name hname) (hload.safe name hname)
  obtain ⟨⟨calls, hcalls⟩, hparseCalls⟩ := hint "maxConcurrentCalls" (by decide) 5
  obtain ⟨⟨duration, hduration⟩, hparseDuration⟩ := hint "maxCallDurationSec" (by decide) 600
  obtain ⟨⟨silence, hsilence⟩, hparseSilence⟩ := hint "silenceTimeoutSec" (by decide) 30
  obtain ⟨out, hout, hget⟩ := zod.object_ok webRtcConfigShape
    (Json.setMember members "enabled" (.bool (enabledFlag members))) (fieldValue members results) (by
      simp only [webRtcConfigShape, List.forall_mem_cons, List.not_mem_nil, false_imp_iff, implies_true, and_true]
      refine ⟨?_, ?_, ?_, ?_, ?_, ?_, ?_, ?_, ?_⟩
      · rw [get?_setMember, if_pos rfl, parse_default zod fun u hu => by
          cases hu
          rw [zod.boolean]]
        rfl
      all_goals rw [get?_input members (by decide)]
      · exact hparse
      · exact parse_optional_string zod happ
      · exact parse_optional_string zod hkey
      · exact hparseResource
      · exact hparseSpeaker
      · exact hparseCalls
      · exact hparseDuration
      · exact hparseSilence)
  have hfield (name : String) (hname : name ∈ webRtcConfigShape.map Prod.fst) :
      (Json.obj out).get? name = fieldValue members results name := by rw [hget, if_pos hname]
  refine ⟨.obj out, ⟨enabledFlag members, servers, app, key, resource, speaker, calls, duration, silence⟩,
    hout, ?_, ?_, ?_, ?_⟩
  · have hflag : (Json.obj out).get? "enabled" = some (.bool (enabledFlag members)) := hfield _ (by decide)
    have hlist : (Json.obj out).get? "iceServers" = some (.arr results) := hfield _ (by decide)
    have happ' : (Json.obj out).get? "volcAppId" = (Json.obj members).get? "volcAppId" := hfield _ (by decide)
    have hkey' : (Json.obj out).get? "volcAccessKey" = (Json.obj members).get? "volcAccessKey" := hfield _ (by decide)
    have hgiven (name : String) (value : Json) (hname : name ∈ webRtcConfigShape.map Prod.fst)
        (h : fieldValue members results name = some (((Json.obj members).get? name).getD value)) :=
      (hfield name hname).trans h
    have hservers' : asIceServers (.arr results) = some servers := hserver
    simp only [asWebRtcConfig, hflag, hlist, happ', hkey', Option.bind_some, happId, haccessKey, hservers', asBool,
      hgiven "volcResourceId" (.str "volc.speech.dialog") (by decide) rfl, hresource,
      hgiven "volcSpeaker" (.str "zh_female_cancan_mars_bigtts") (by decide) rfl, hspeaker,
      hgiven "maxConcurrentCalls" (.num ⟨5, 0, true⟩) (by decide) rfl, hcalls,
      hgiven "maxCallDurationSec" (.num ⟨600, 0, true⟩) (by decide) rfl, hduration,
      hgiven "silenceTimeoutSec" (.num ⟨30, 0, true⟩) (by decide) rfl, hsilence]
    rfl
  · intro f hf v hv
    rw [hfield f.1 (List.mem_map_of_mem hf)]
    exact fieldValue_present henabled hkept hv
  · intro f hf hv
    rw [hfield f.1 (List.mem_map_of_mem hf)]
    exact fieldValue_absent hf hdefault hv
  · intro rs hrs
    have hlist : (Json.obj out).get? "iceServers" = some (.arr results) := hfield _ (by decide)
    rw [hlist] at hrs
    cases hrs
    exact hurls

/-- A field that does not parse makes the whole parse throw. -/
theorem resolve_throws {members : List (String × Json)} {f : String × Schema} (hf : f ∈ webRtcConfigShape)
    (hname : f.1 ≠ "enabled") (h : zod.parse f.2 ((Json.obj members).get? f.1) = none) :
    zod.resolveWebRtcConfig (some (.obj members)) = none := by
  refine zod.object_bad webRtcConfigShape _ f hf ?_
  rw [configMembers, get?_input members hname, h]

theorem integer_throws {members : List (String × Json)} {name : String} {value d : Decimal} {n : Int}
    (hf : (name, Schema.default (.int 1) (.num value)) ∈ webRtcConfigShape) (hname : name ≠ "enabled")
    (hv : (Json.obj members).get? name = some (.num d)) (hn : d.int? = some n) (hbig : ¬ n ≤ maxSafeInteger) :
    zod.resolveWebRtcConfig (some (.obj members)) = none := by
  refine resolve_throws zod hf hname ?_
  have hunsafe : ¬ (1 ≤ n ∧ n.natAbs ≤ maxSafeInteger) := by omega
  rw [hv, zod.default]
  exact (zod.int 1 d n hn).trans (if_neg hunsafe)

/-- **What the manifest admits and the plugin loads.** A configuration that the
manifest accepts is parsed, every field as given or at its default, exactly when
each ICE server has `urls` and each integer is a safe one; otherwise `register`
throws. -/
theorem config_loads_iff {raw : Json} (haccepts : configSchema.accepts raw = true) :
    (∃ r config, Loads zod raw r config) ↔ Loadable raw := by
  constructor
  · intro ⟨r, config, hloads⟩
    obtain ⟨members, rfl, _, hservers, _, _⟩ := configSchema_accepts haccepts
    have hreturns {P : Prop} (h : zod.resolveWebRtcConfig (some (.obj members)) = none) : P := by
      rw [hloads.returns] at h
      cases h
    refine ⟨fun elems helems v hv => ?_, fun name hname d n hd hn => ?_⟩
    · by_contra hmissing
      obtain ⟨_, hsome, hall⟩ := hservers (.arr elems) helems
      cases hsome
      refine hreturns (resolve_throws zod (f := ("iceServers", _)) (List.mem_cons_of_mem _ List.mem_cons_self)
        (by decide) ?_)
      rw [helems, zod.default]
      exact zod.array_bad _ elems v hv (server_throws zod (hall v hv) (Option.not_isSome_iff_eq_none.mp hmissing))
    · by_contra hbig
      simp only [List.mem_cons, List.not_mem_nil, or_false] at hname
      obtain rfl | rfl | rfl := hname
      all_goals exact hreturns (integer_throws zod (by simp [webRtcConfigShape]; rfl) (by decide) hd hn hbig)
  · exact config_loads zod haccepts

theorem config_loads_iff_enabled :
    ∃ r config, Loads .reference (.obj [("enabled", .bool true)]) r config := by
  refine (config_loads_iff .reference (by decide)).mpr ⟨fun elems h => (nomatch h), fun name hname d n h => ?_⟩
  simp only [List.mem_cons, List.not_mem_nil, or_false] at hname
  obtain rfl | rfl | rfl := hname <;> cases h

/-- A server without addresses is admitted by the manifest, and the plugin does not
register. -/
theorem admitted_config_throws :
    ¬ ∀ (zod : Zod) (raw : Json), configSchema.accepts raw = true → ∃ r config, Loads zod raw r config := by
  intro hall
  obtain ⟨r, config, hloads⟩ := hall .reference (.obj [("iceServers", .arr [.obj []])]) (by decide)
  have hthrows : Zod.reference.resolveWebRtcConfig (some (.obj [("iceServers", .arr [.obj []])])) = none := by
    decide
  rw [hloads.returns] at hthrows
  cases hthrows

end
end RtcPlugin
