import Mathlib.Data.List.Induction
import RtcPlugin.Json.ToNumber
import RtcPlugin.Node.Options
import RtcPlugin.Plugin.Handlers
import RtcPlugin.System.History

/-! What either node makes of a command line.

Both nodes know the same flags, and an environment for two of them. They read them by other
rules: the environment is stronger than the flags in one and weaker in the other, and a
loopback switched off stays off in one and can be set again in the other. `options_alike` says
on which command lines that makes no difference. -/
namespace RtcPlugin.TsNode

/-- `Number(text)` -/
def number (text : String) : JsNumber := Json.numeral (jsTrim text).toList

/-- What `parseArgs` returns. -/
structure Options where
  gateway : String
  token : Option String
  nodeId : String
  loopbackSec : JsNumber
  deriving DecidableEq, Repr

/-- The body of the loop of `parseArgs`; `next` is the argument behind, and whether it was taken. -/
def parseArg (arg : String) (next : Option String) (o : Options) : Options × Bool :=
  let value := next.getD ""
  if arg = "--gateway" ∧ value ≠ "" then ({o with gateway := value}, true)
  else if arg = "--token" ∧ value ≠ "" then ({o with token := some value}, true)
  else if arg = "--node-id" ∧ value ≠ "" then ({o with nodeId := value}, true)
  else if arg = "--loopback" ∧ value ≠ "" then
    let seconds := number value
    ({o with loopbackSec := if seconds.truthy then seconds else .ofNat 5}, true)
  else if arg = "--no-loopback" then ({o with loopbackSec := .ofNat 0}, false)
  else (o, false)

/-- The loop; `taken` where the argument is the value of the one before. -/
def parseLoop (taken : Bool) : List String → Options → Options
  | [], o => o
  | arg :: rest, o =>
    if taken then parseLoop false rest o
    else
      let body := parseArg arg rest.head? o
      parseLoop body.2 rest body.1

def parseArgs (pid : Nat) (args : List String) (env : String → Option String) : Options :=
  let o := parseLoop false args ⟨"ws://127.0.0.1:18789", none, s!"rtc-node-{pid}", .ofNat 5⟩
  { o with
    gateway := (env "OPENCLAW_GATEWAY_URL").getD o.gateway
    token := (env "OPENCLAW_GATEWAY_TOKEN").or o.token }

/-! ### Flags that are written out -/

inductive Item where
  | gateway (url : String)
  | token (text : String)
  | loopback (seconds : Nat)
  | noLoopback
  deriving DecidableEq, Repr

def Item.args : Item → List String
  | .gateway url => ["--gateway", url]
  | .token text => ["--token", text]
  | .loopback seconds => ["--loopback", seconds.repr]
  | .noLoopback => ["--no-loopback"]

/-- Values are not empty, and numbers are exact in both languages. -/
def Item.Plain : Item → Prop
  | .gateway value | .token value => value ≠ ""
  | .loopback seconds => seconds ≤ 2 ^ 53
  | .noLoopback => True

/-- What an item means to the script. -/
def Item.apply (o : Options) : Item → Options
  | .gateway url => {o with gateway := url}
  | .token text => {o with token := some text}
  | .loopback seconds => {o with loopbackSec := .ofNat (if seconds = 0 then 5 else seconds)}
  | .noLoopback => {o with loopbackSec := .ofNat 0}

/-- What it sets a flag to. -/
def Item.set (o : Node.Options) : Item → Node.Options
  | .gateway url => {o with gatewayURL := url}
  | .token text => {o with token := text}
  | .loopback seconds => {o with loopbackSec := seconds}
  | .noLoopback => {o with noLoopback := true}

/-! ### Reading them -/

theorem isDigit_notSpace {c : Char} (h : c.isDigit = true) : isJsSpace c = false := by
  simp only [Char.isDigit, Bool.and_eq_true, decide_eq_true_eq] at h
  have hlow : 48 ≤ c.toNat := h.1
  have hhigh : c.toNat < 58 := Nat.lt_succ_of_le h.2
  have hall : ∀ n < 58, 48 ≤ n → isJsSpace (Char.ofNat n) = false := by decide
  rw [← Char.ofNat_toNat c]
  exact hall c.toNat hhigh hlow

theorem jsTrim_digits {ds : List Char} (h : Json.AllDigits ds) : jsTrim (String.ofList ds) = String.ofList ds := by
  have hdrop : ∀ ds : List Char, Json.AllDigits ds → ds.dropWhile isJsSpace = ds := by
    intro ds h
    cases ds with
    | nil => rfl
    | cons c ds => rw [List.dropWhile_cons, isDigit_notSpace (h c List.mem_cons_self), if_neg Bool.false_ne_true]
  have hback : Json.AllDigits ds.reverse := fun c hc => h c (List.mem_reverse.mp hc)
  rw [jsTrim, String.toList_ofList, hdrop ds h, hdrop _ hback, List.reverse_reverse]

theorem number_repr (n : Nat) : number n.repr = .ofNat n := by
  rw [number, Nat.repr_eq_ofList_toDigits, jsTrim_digits (Json.allDigits_toDigits n), String.toList_ofList,
    Json.numeral_toDigits]

theorem parseLoop_item {item : Item} (h : item.Plain) (rest : List String) (o : Options) :
    parseLoop false (item.args ++ rest) o = parseLoop false rest (item.apply o) := by
  cases item with
  | gateway url =>
    have hurl : url ≠ "" := h
    simp [Item.args, parseLoop, parseArg, hurl, Item.apply]
  | token text =>
    have htext : text ≠ "" := h
    simp [Item.args, parseLoop, parseArg, htext, Item.apply]
  | loopback seconds =>
    have hvalue : seconds.repr ≠ "" := Nat.repr_ne_empty
    by_cases hzero : seconds = 0 <;>
      simp [Item.args, parseLoop, parseArg, hvalue, number_repr, JsNumber.ofNat_truthy, hzero, Item.apply]
  | noLoopback => simp [Item.args, parseLoop, parseArg, Item.apply]

theorem parseFlags_item {item : Item} (h : item.Plain) (rest : List String) (o : Node.Options) :
    Go.parseFlags Node.Options.flags (item.args ++ rest) o = Go.parseFlags Node.Options.flags rest (item.set o) := by
  cases item with
  | gateway url => exact Go.parse_value rfl rfl rfl rfl rest
  | token text => exact Go.parse_value rfl rfl rfl rfl rest
  | loopback seconds =>
    have hbound : seconds < 2 ^ 63 := Nat.lt_of_le_of_lt h (by decide)
    have hread := Go.parseIntLiteral_toDigits hbound
    refine Go.parse_value rfl rfl rfl ?_ rest
    show (Go.parseIntLiteral seconds.repr.toList).map _ = _
    rw [Nat.toList_repr, hread]
    rfl
  | noLoopback => exact Go.parse_switch rfl rfl rfl rfl rest

variable {items : List Item}

theorem parseLoop_items (h : ∀ item ∈ items, item.Plain) (o : Options) :
    parseLoop false (items.flatMap Item.args) o = items.foldl Item.apply o := by
  induction items generalizing o with
  | nil => rfl
  | cons item rest ih =>
    rw [List.flatMap_cons, parseLoop_item (h item List.mem_cons_self), List.foldl_cons]
    exact ih (fun item hitem => h item (List.mem_cons_of_mem _ hitem)) _

theorem parseFlags_items (h : ∀ item ∈ items, item.Plain) (o : Node.Options) :
    Go.parseFlags Node.Options.flags (items.flatMap Item.args) o = .ok (items.foldl Item.set o) := by
  induction items generalizing o with
  | nil => rfl
  | cons item rest ih =>
    rw [List.flatMap_cons, parseFlags_item (h item List.mem_cons_self), List.foldl_cons]
    exact ih (fun item hitem => h item (List.mem_cons_of_mem _ hitem)) _

/-! ### What was said last -/

def Item.url? : Item → Option String
  | .gateway url => some url
  | _ => none

def Item.token? : Item → Option String
  | .token text => some text
  | _ => none

/-- The seconds of a loopback, or that there is none. -/
def Item.loopback? : Item → Option (Option Nat)
  | .loopback seconds => some (some seconds)
  | .noLoopback => some none
  | _ => none

/-- The URL that the flags give. -/
def flagUrl (items : List Item) : String := (items.filterMap Item.url?).getLast?.getD "ws://127.0.0.1:18789"

/-- The token that the flags give; none is an empty one. -/
def flagToken (items : List Item) : String := (items.filterMap Item.token?).getLast?.getD ""

/-- The last loopback is what both nodes make of it: off, if it is switched off anywhere, and
otherwise not of no seconds. -/
def Steady (items : List Item) : Prop :=
  if none ∈ items.filterMap Item.loopback? then (items.filterMap Item.loopback?).getLast? = some none
  else (items.filterMap Item.loopback?).getLast? ≠ some (some 0)

/-- What the script makes of a loopback. -/
def scriptSeconds : Option Nat → Nat
  | none => 0
  | some seconds => if seconds = 0 then 5 else seconds

theorem apply_gateway (o : Options) : (items.foldl Item.apply o).gateway = (items.filterMap Item.url?).getLast?.getD o.gateway :=
  foldl_last _ _ _ (fun _ item => by cases item <;> rfl) items o

theorem apply_token (o : Options) : (items.foldl Item.apply o).token = (items.filterMap Item.token?).getLast?.or o.token := by
  have h := foldl_last Item.apply Options.token (fun item => item.token?.map some) (fun _ item => by cases item <;> rfl) items o
  rw [h, ← List.map_filterMap, List.getLast?_map]
  cases (items.filterMap Item.token?).getLast? <;> rfl

theorem apply_loopback (o : Options) : (items.foldl Item.apply o).loopbackSec =
    (((items.filterMap Item.loopback?).getLast?.map scriptSeconds).map JsNumber.ofNat).getD o.loopbackSec := by
  have h := foldl_last Item.apply Options.loopbackSec
    (fun item => item.loopback?.map fun said => JsNumber.ofNat (scriptSeconds said)) (fun _ item => by cases item <;> rfl) items o
  rw [h, ← List.map_filterMap, List.getLast?_map, Option.map_map]
  rfl

theorem set_gatewayURL (o : Node.Options) :
    (items.foldl Item.set o).gatewayURL = (items.filterMap Item.url?).getLast?.getD o.gatewayURL :=
  foldl_last _ _ _ (fun _ item => by cases item <;> rfl) items o

theorem set_token (o : Node.Options) : (items.foldl Item.set o).token = (items.filterMap Item.token?).getLast?.getD o.token :=
  foldl_last _ _ _ (fun _ item => by cases item <;> rfl) items o

/-- A loopback that is switched off stays off; otherwise the last one counts. -/
theorem set_loopback (items : List Item) :
    let o := items.foldl Item.set {}
    (o.noLoopback = true ↔ none ∈ items.filterMap Item.loopback?) ∧
      (none ∉ items.filterMap Item.loopback? → o.loopbackSec = ((items.filterMap Item.loopback?).getLast?.map (·.getD 0)).getD 5) := by
  induction items using List.reverseRecOn with
  | nil => exact ⟨by simp, fun _ => rfl⟩
  | append_singleton items item ih =>
    simp only [List.foldl_append, List.foldl_cons, List.foldl_nil]
    cases item with
    | gateway url | token text =>
      rw [filterMap_snoc_none rfl]
      exact ih
    | loopback seconds =>
      have hsaid : Item.loopback? (.loopback seconds) = some (some seconds) := rfl
      rw [filterMap_snoc_some hsaid]
      simpa [Item.set] using ih.1
    | noLoopback =>
      have hsaid : Item.loopback? .noLoopback = some none := rfl
      rw [filterMap_snoc_some hsaid]
      simp [Item.set]

/-- The environment is stronger than a flag, or only than the default. -/
theorem url_alike (url : Option String) (flag : String) :
    (url.getD flag = (if url.getD "" ≠ "" ∧ flag = "ws://127.0.0.1:18789" then url.getD "" else flag) ↔
      ∀ said, url = some said → said = flag ∨ said ≠ "" ∧ flag = "ws://127.0.0.1:18789") := by
  cases url with
  | none => simp
  | some said =>
    by_cases hdefault : said ≠ "" ∧ flag = "ws://127.0.0.1:18789"
    · simp [hdefault]
    · simp [hdefault]

theorem token_alike (token : Option String) (flag : String) :
    (token.getD flag = (if token.getD "" ≠ "" ∧ flag = "" then token.getD "" else flag) ↔
      ∀ said, token = some said → said = flag ∨ flag = "") := by
  cases token with
  | none => simp
  | some said => by_cases hflag : flag = "" <;> by_cases hsaid : said = "" <;> simp [hflag, hsaid]

theorem seconds_alike {items : List Item} {o : Node.Options} (hoff : o.noLoopback = true ↔ none ∈ items.filterMap Item.loopback?)
    (hon : none ∉ items.filterMap Item.loopback? →
      o.loopbackSec = ((items.filterMap Item.loopback?).getLast?.map (·.getD 0)).getD 5) :
    (if o.noLoopback then 0 else o.loopbackSec) =
      (((items.filterMap Item.loopback?).getLast?.map scriptSeconds).getD 5 : Nat) ↔ Steady items := by
  unfold Steady
  by_cases hmem : none ∈ items.filterMap Item.loopback?
  · rw [if_pos (hoff.mpr hmem), if_pos hmem]
    cases (items.filterMap Item.loopback?).getLast? with
    | none => simp
    | some said =>
      cases said with
      | none => simp [scriptSeconds]
      | some seconds => by_cases hzero : seconds = 0 <;> simp [scriptSeconds, hzero, eq_comm]
  · have hno : ¬ o.noLoopback = true := fun h => hmem (hoff.mp h)
    rw [if_neg hno, if_neg hmem, hon hmem]
    cases (items.filterMap Item.loopback?).getLast? with
    | none => simp
    | some said =>
      cases said with
      | none => simp [scriptSeconds]
      | some seconds => by_cases hzero : seconds = 0 <;> simp [scriptSeconds, hzero]

/-- **On which command lines both nodes start alike.** Whatever flags are written out, with the
same process environment: they connect to one URL unless the environment names another one than
the flags do (or an empty one), they use one token unless both give different ones, and their
loopback option has one value exactly if the loopback is steady. -/
theorem options_alike (pid : Nat) {items : List Item} (hplain : ∀ item ∈ items, item.Plain) (env : String → Option String) :
    ∃ o, Node.readOptions (items.flatMap Item.args) env = .ok o ∧
      let p := parseArgs pid (items.flatMap Item.args) env
      (p.gateway = o.gatewayURL ↔ ∀ url, env "OPENCLAW_GATEWAY_URL" = some url →
        url = flagUrl items ∨ url ≠ "" ∧ flagUrl items = "ws://127.0.0.1:18789") ∧
      (p.token.getD "" = o.token ↔ ∀ token, env "OPENCLAW_GATEWAY_TOKEN" = some token →
        token = flagToken items ∨ flagToken items = "") ∧
      ((∃ seconds : Nat, p.loopbackSec = .ofNat seconds ∧ o.loopbackSec = seconds) ↔ Steady items) := by
  have hread : Node.readOptions (items.flatMap Item.args) env = .ok ((items.foldl Item.set {}).overridden env) := by
    rw [Node.readOptions, parseFlags_items hplain]
    rfl
  refine ⟨_, hread, ?_⟩
  unfold parseArgs Node.Options.overridden Node.getenv
  dsimp only
  rw [parseLoop_items hplain, apply_gateway, apply_token, apply_loopback, set_gatewayURL, set_token]
  refine ⟨url_alike _ _, ?_, ?_⟩
  · have hscript : ((env "OPENCLAW_GATEWAY_TOKEN").or ((items.filterMap Item.token?).getLast?.or none)).getD "" =
        (env "OPENCLAW_GATEWAY_TOKEN").getD (flagToken items) := by
      rw [Option.or_none, flagToken]
      cases env "OPENCLAW_GATEWAY_TOKEN" <;> rfl
    rw [hscript]
    exact token_alike _ _
  · obtain ⟨hoff, hon⟩ := set_loopback items
    have hscript (last : Option Nat) : (last.map JsNumber.ofNat).getD (.ofNat 5) = .ofNat (last.getD 5) := by
      cases last <;> rfl
    rw [← seconds_alike hoff hon, hscript]
    constructor
    · rintro ⟨seconds, hseconds, ho⟩
      rw [JsNumber.ofNat_injective hseconds]
      exact ho
    · intro h
      exact ⟨_, rfl, h⟩

/-- A loopback that is switched off and set again, with a URL from the environment. -/
theorem options_alike_reset : ∃ o, Node.readOptions ["--no-loopback", "--loopback", "3"] (fun _ => some "ws://g") = .ok o ∧
    (parseArgs 1 ["--no-loopback", "--loopback", "3"] fun _ => some "ws://g").gateway = o.gatewayURL ∧
    ¬ ∃ seconds : Nat, (parseArgs 1 ["--no-loopback", "--loopback", "3"] fun _ => some "ws://g").loopbackSec = .ofNat seconds ∧
      o.loopbackSec = seconds := by
  have hplain : ∀ item ∈ [Item.noLoopback, .loopback 3], item.Plain := by
    simp [Item.Plain]
  obtain ⟨o, ho, hurl, -, hseconds⟩ := options_alike 1 hplain fun _ => some "ws://g"
  refine ⟨o, ho, hurl.mpr ?_, fun h => ?_⟩
  · rintro _ ⟨⟩
    exact .inr ⟨by decide, rfl⟩
  · have hsteady : ¬ Steady [.noLoopback, .loopback 3] := by
      unfold Steady
      decide
    exact hsteady (hseconds.mp h)

end RtcPlugin.TsNode
