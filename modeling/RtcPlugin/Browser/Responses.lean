import RtcPlugin.Browser.Candidates
import RtcPlugin.Browser.Gateway
import RtcPlugin.System.Settling

/-! The browser page's requests and their responses.

A request is in the map until the first frame that responds to it, across any number of
closes: nothing else takes it out (`requests_settle`). Its promise is settled then, unless
the error for it cannot be made. A start waits for the one request that carries its offer,
and the page as a whole does what its client does (`tab_runs_client`). -/
namespace RtcPlugin.Browser
open TsNode (WebSocket ReadyState)

namespace Client

/-! ### What a call asks for -/

/-- A step of a call that sends a start leaves it waiting for the response; any other one
sends at most one request, and changes nothing of the starts that wait for theirs. -/
inductive Asks (c c' : Client) : Prop where
  | quiet : (c'.sent = c.sent ∨ ∃ r, c'.sent = c.sent ++ [r] ∧ c.ws = true ∧ ∀ p, r ≠ .start p) →
      (∀ p, c'.starts p = some .response ↔ c.starts p = some .response) → Asks c c'
  | start {p} : c'.sent = c.sent ++ [.start p] → c.ws = true → c.starts p = some .localDescription →
      c'.starts = Function.update c.starts p (some .response) → Asks c c'

theorem update_response {starts : Nat → Option Stage} {i : Nat} {v : Option Stage} (hi : starts i ≠ some .response)
    (hv : v ≠ some .response) (p : Nat) : Function.update starts i v p = some .response ↔ starts p = some .response := by
  by_cases hp : p = i
  · rw [hp, Function.update_self]
    exact iff_of_false hv hi
  · rw [Function.update_of_ne hp]

theorem Advances.asks {c c' : Client} {i : Nat} (h : c.Advances i c') (hi : c.starts i ≠ some .response) : Asks c c' := by
  obtain ⟨hledger, v, hstarts, hv⟩ := h
  refine .quiet (.inl (congrArg Prod.fst hledger)) fun p => ?_
  rw [hstarts]
  refine update_response hi ?_ p
  rintro rfl
  cases hv _ rfl

theorem Asks.none {c c' : Client} (hsent : c'.sent = c.sent) (hstarts : c'.starts = c.starts) : Asks c c' :=
  .quiet (.inl hsent) fun p => by rw [hstarts]

theorem cleanupCall_asks (c : Client) : Asks c c.cleanupCall := .none (cleanupCall_sent c) (cleanupCall_starts c)

/-- On to the next await, or to the end. -/
theorem setStage_asks {c c' : Client} {i : Nat} {v : Option Stage} (hi : c.starts i ≠ some .response)
    (hv : v ≠ some .response) (hsent : c'.sent = c.sent) (hstarts : c'.starts = Function.update c.starts i v) : Asks c c' :=
  .quiet (.inl hsent) fun p => by rw [hstarts, update_response hi hv]

theorem hangup_asks (c : Client) : Asks c c.hangup := by
  unfold hangup
  split
  · next id _ =>
    unfold sendRequest
    split
    · next hws =>
      exact .quiet (.inr ⟨.hangup id, cleanupCall_sent _, hws, fun p => by simp⟩)
        fun p => by rw [Option.getD_some, cleanupCall_starts]
    · exact cleanupCall_asks c
  · exact cleanupCall_asks c

theorem iceCandidate_asks (c : Client) (v : Json) : Asks c (c.onIceCandidate v) := by
  unfold onIceCandidate
  split
  · next id _ =>
    unfold sendRequest
    split
    · next hws => exact .quiet (.inr ⟨.ice id v, rfl, hws, fun p => by simp⟩) fun _ => Iff.rfl
    · exact .none rfl rfl
  · exact .none rfl rfl

theorem step_asks {c c' : Client} {l : Label} (h : Once c) (hl : l.isLocal = true) (hs : Step c l c') : Asks c c' := by
  cases hs with
  | callClick =>
    unfold startCall
    split
    · exact .none rfl rfl
    · refine setStage_asks (i := c.created) (fun hi => ?_) (by simp) rfl rfl
      exact absurd (h.begun _ _ hi) (Nat.lt_irrefl _)
  | hangupClick => exact hangup_asks c
  | @media i ok hi =>
    unfold onMedia
    split
    · exact setStage_asks (i := i) (by simp [hi]) (by simp) rfl rfl
    · exact (fail_advances c i).asks (by simp [hi])
  | @offer i ok hi =>
    unfold onOffer
    split
    · exact setStage_asks (i := i) (by simp [hi]) (by simp) rfl rfl
    · exact (fail_advances c i).asks (by simp [hi])
  | @localDescription i ok hi =>
    unfold onLocalDescription sendRequest
    split
    · cases hws : c.ws with
      | true => exact .start rfl hws hi rfl
      | false => exact (fail_advances c i).asks (by simp [hi])
    · exact (fail_advances c i).asks (by simp [hi])
  | @answer i candidates ok hi =>
    unfold onAnswer
    split
    · split
      · exact (addCandidates_advances c i _).asks (by simp [hi])
      · exact (fail_advances c i).asks (by simp [hi])
    · exact (fail_advances c i).asks (by simp [hi])
  | @candidate i rest ok hi =>
    unfold onCandidateAdded
    split
    · exact (addCandidates_advances c i _).asks (by simp [hi])
    · exact (fail_advances c i).asks (by simp [hi])
  | iceCandidate => exact iceCandidate_asks ..
  | connectionState =>
    unfold onConnectionStateChange
    split
    · exact cleanupCall_asks c
    · exact .none rfl rfl
  | startResponse | callEnded | serverEnds | socket => cases hl

end Client

namespace Tab

/-! ### What an event does to the requests -/

/-- The request that a frame responds to. -/
def responds? (frame : Json) : Option String :=
  match frame.get? "type", frame.get? "id" with
  | some (.str "res"), some (.str id) => some id
  | _, _ => none

/-- The request that a frame settles, and how. -/
def settles? (page : Page) (frame : Json) : Option (String × Outcome) :=
  (responds? frame).map (·, responseOutcome page frame)

/-- The same of an event. -/
def Event.settles? (page : Page) : Event → Option (String × Outcome)
  | .message _ text _ => (Json.parse text).bind (Tab.settles? page)
  | _ => none

/-- What an event means for the request `id`. -/
def outcome (page : Page) (id : String) (e : Event) : Option Outcome :=
  (e.settles? page).bind fun s => if s.1 = id then some s.2 else none

/-- What an event does to the requests before anything is sent. -/
def applied (page : Page) (p : Promises String Body Outcome) (e : Event) : Promises String Body Outcome :=
  (e.settles? page).elim p fun s => p.settle s.1 s.2

theorem applied_stands (page : Page) {p : Promises String Body Outcome} {id : String} {st : Standing Outcome}
    (h : p.Stands id st) (e : Event) : (applied page p e).Stands id (st.next (outcome page id e)) := by
  have hnone : st.next none = st := by cases st <;> rfl
  unfold applied outcome
  cases e.settles? page with
  | none =>
    rw [Option.elim_none, Option.bind_none, hnone]
    exact h
  | some s =>
    rw [Option.elim_some, Option.bind_some]
    by_cases hid : s.1 = id
    · rw [if_pos hid, ← hid]
      exact Promises.stands_settle_self (hid ▸ h) _
    · rw [if_neg hid, hnone]
      exact Promises.stands_settle_ne h (Ne.symm hid) _

/-- No more requests, or one under the identifier `id`. -/
def Draws (p : Promises String Body Outcome) (issued : List String) (id : String) (t : Tab) : Prop :=
  t.requests = p ∧ t.issued = issued ∨ ∃ body, t.requests = p.add id body ∧ t.issued = issued ++ [id]

theorem sendRequest_draws (t : Tab) (id : String) (body : Body) : Draws t.requests t.issued id (t.sendRequest id body) := by
  unfold sendRequest
  split
  · exact .inl ⟨rfl, rfl⟩
  · split
    · exact .inr ⟨body, rfl, rfl⟩
    · exact .inl ⟨rfl, rfl⟩

theorem absorb_draws (t : Tab) (c : Client) (id : String) : Draws t.requests t.issued id (t.absorb c id) := by
  unfold absorb
  split
  · exact .inl ⟨rfl, rfl⟩
  · exact sendRequest_draws {t with client := c} id _

theorem handleChallenge_draws (t : Tab) (payload : Option Json) (id : String) :
    Draws t.requests t.issued id (t.handleChallenge payload id) := by
  unfold handleChallenge
  split
  · dsimp only
    split
    · exact sendRequest_draws ..
    · exact .inl ⟨rfl, rfl⟩
  · split
    · exact .inl ⟨rfl, rfl⟩
    · exact .inl ⟨rfl, rfl⟩
    · exact sendRequest_draws ..

theorem resume_draws (t : Tab) (body : Body) (outcome : Outcome) :
    (t.resume body outcome).requests = t.requests ∧ (t.resume body outcome).issued = t.issued := by
  unfold resume
  split <;> exact ⟨rfl, rfl⟩

/-- A response settles its request. -/
theorem handleResponse_draws (t : Tab) {frame : Json} (htype : frame.get? "type" = some (.str "res")) :
    (t.handleResponse frame).requests =
        (settles? t.client.page frame).elim t.requests (fun s => t.requests.settle s.1 s.2) ∧
      (t.handleResponse frame).issued = t.issued := by
  unfold handleResponse settles? responds?
  rw [htype]
  cases frame.get? "id" with
  | none => exact ⟨rfl, rfl⟩
  | some v =>
    cases v with
    | str id =>
      show _ = t.requests.settle id (responseOutcome t.client.page frame) ∧ _
      cases hget : t.requests.pending.get? id with
      | none =>
        rw [Promises.settle_none hget]
        dsimp only
        rw [hget]
        exact ⟨rfl, rfl⟩
      | some body =>
        dsimp only
        rw [hget]
        exact resume_draws {t with requests := t.requests.settle id _} body _
    | _ => exact ⟨rfl, rfl⟩

theorem settles?_of_type {frame : Json} (htype : frame.get? "type" ≠ some (.str "res")) (page : Page) :
    settles? page frame = none := by
  unfold settles? responds?
  split
  · next heq _ => exact absurd heq htype
  · rfl

theorem onMessage_draws (t : Tab) (s : Nat) (text : String) (id : String) :
    Draws (applied t.client.page t.requests (.message s text id)) t.issued id (t.onMessage text id) := by
  have happ : applied t.client.page t.requests (.message s text id) =
      ((Json.parse text).bind (settles? t.client.page)).elim t.requests fun s => t.requests.settle s.1 s.2 := rfl
  rw [happ]
  unfold onMessage
  cases Json.parse text with
  | none => exact .inl ⟨rfl, rfl⟩
  | some frame =>
    rw [Option.bind_some]
    dsimp only
    by_cases htype : frame.get? "type" = some (.str "res")
    · unfold handleFrame
      rw [htype]
      exact .inl (t.handleResponse_draws htype)
    · rw [settles?_of_type htype]
      unfold handleFrame
      split
      · unfold handleEvent
        split
        · exact handleChallenge_draws ..
        · exact .inl ⟨rfl, rfl⟩
        · exact .inl ⟨rfl, rfl⟩
      · next heq => exact absurd heq htype
      · exact .inl ⟨rfl, rfl⟩

/-- **What an event does to the requests**: it settles what it responds to, and sends at
most one more. -/
theorem step_draws {t t' : Tab} {e : Event} (hs : Step t e t') :
    t'.requests = applied t.client.page t.requests e ∧ t'.issued = t.issued ∨
      ∃ id, id ∉ t.issued ∧ Draws (applied t.client.page t.requests e) t.issued id t' := by
  cases hs with
  | page _ _ hid => exact .inr ⟨_, hid, absorb_draws ..⟩
  | submit _ hid => exact .inr ⟨_, hid, sendRequest_draws ..⟩
  | message _ hid => exact .inr ⟨_, hid, onMessage_draws ..⟩
  | opened | closing | closed | timer => exact .inl ⟨rfl, rfl⟩

theorem step_page {t t' : Tab} {e : Event} (hs : Step t e t') : t'.client.page = t.client.page := by
  have hkept : ∀ {t' : Tab}, t'.link = t.link → t'.client.page = t.client.page :=
    fun hlink => congrArg (fun l => l.2.2.2.2.1) hlink
  cases hs with
  | page hl hstep _ => exact hkept (absorb_link t (Client.step_setting hl hstep) _)
  | submit => exact hkept (sendRequest_link ..)
  | message => exact hkept (onMessage_link ..)
  | opened | closing | closed | timer => rfl

theorem run_page {page : Page} {es : List Event} {t : Tab} (h : (system page).Run es t) : t.client.page = page := by
  refine h.invariant (M := system page) (I := fun _ t => t.client.page = page) ?_
    fun _ _ _ _ _ hpage hs => (step_page hs).trans hpage
  rintro t rfl
  rfl

theorem settles (page : Page) : System.Settles (system page) Tab.requests Tab.issued (outcome page) where
  init := by
    rintro t rfl
    exact ⟨rfl, fun _ => ⟨rfl, rfl⟩⟩
  grows := by
    intro t e t' hs
    obtain ⟨-, hissued⟩ | ⟨id, -, ⟨-, hissued⟩ | ⟨body, -, hissued⟩⟩ := step_draws hs
    · exact hissued ▸ List.Subset.refl _
    · exact hissued ▸ List.Subset.refl _
    · exact hissued ▸ List.subset_append_left ..
  old := by
    intro es t e t' id st hrun hs hid hst
    have happ := applied_stands page hst e
    rw [← run_page hrun] at happ ⊢
    obtain ⟨hreq, -⟩ | ⟨id', hnew, ⟨hreq, -⟩ | ⟨body, hreq, -⟩⟩ := step_draws hs
    · exact hreq ▸ happ
    · exact hreq ▸ happ
    · rw [hreq]
      exact Promises.stands_add_ne happ (fun heq : id = id' => hnew (heq ▸ hid)) body
  new := by
    intro es t e t' id hrun hs hid hst
    have happ := applied_stands page hst e
    rw [show Standing.next Standing.unissued (outcome page id e) = .unissued by cases outcome page id e <;> rfl] at happ
    rw [← run_page hrun] at happ
    obtain ⟨hreq, hissued⟩ | ⟨id', hnew, ⟨hreq, hissued⟩ | ⟨body, hreq, hissued⟩⟩ := step_draws hs
    · rw [hissued, if_neg hid, hreq]
      exact happ
    · rw [hissued, if_neg hid, hreq]
      exact happ
    · rw [hissued, hreq]
      by_cases heq : id = id'
      · rw [if_pos (by simp [heq]), ← heq]
        exact Promises.stands_add_self happ body
      · rw [if_neg (by simp [hid, heq])]
        exact Promises.stands_add_ne happ heq body

/-- **A request waits for its response**: the map holds the requests that no frame has
responded to yet, none is responded to twice, and the first frame after a request that
responds to it settles it as it says, or drops it where the error for it cannot be made.
A close settles nothing. -/
theorem requests_settle {page : Page} {es : List Event} {t : Tab} (h : (system page).Run es t) :
    (∀ id, ((∃ body, t.requests.pending.get? id = some body) ↔ id ∈ t.issued ∧ t.requests.outcomes id = []) ∧
      (t.requests.outcomes id).length ≤ 1) ∧
    ∀ e s after t', Step t e s → (system page).Steps s after t' → ∀ id, id ∉ t.issued → id ∈ s.issued →
      t'.requests.outcomes id = (after.findSome? (outcome page id)).toList :=
  ⟨(settles page).accounted h, fun _ _ _ _ hs hafter _ hid hid' => (settles page).outcomes h hs hafter hid hid'⟩

/-- The gateway's answer to a start it turns down. -/
def demoRejection : String :=
  "\x7b\"type\":\"res\",\"id\":\"r1\",\"ok\":false,\"error\":\x7b\"message\":\"max calls\"\x7d\x7d"

/-- A page that has made the offer of its call. -/
def demoOffer : Tab :=
  let t₁ := (new .html).onOpen 0
  let t₂ := t₁.absorb t₁.client.startCall "r1"
  let t₃ := t₂.absorb (t₂.client.onMedia 0 true) "r1"
  t₃.absorb (t₃.client.onOffer 0 true) "r1"

theorem run_demoOffer : ((system .html).restrict Named).Run
    [.opened 0, .page .callClick "r1", .page (.media 0 true) "r1", .page (.offer 0 true) "r1"] demoOffer := by
  have h₀ : ((system .html).restrict Named).Run [] (new .html) := .nil rfl
  have h₁ := h₀.snoc ⟨show Step _ (.opened 0) _ from .opened rfl, trivial⟩
  have h₂ := h₁.snoc ⟨show Step _ (.page .callClick "r1") _ from .page rfl .callClick List.not_mem_nil, trivial⟩
  have h₃ := h₂.snoc ⟨show Step _ (.page (.media 0 true) "r1") _ from .page rfl (.media rfl) List.not_mem_nil, trivial⟩
  exact h₃.snoc ⟨show Step _ (.page (.offer 0 true) "r1") _ from .page rfl (.offer rfl) List.not_mem_nil, trivial⟩

/-- The same page, once its request is out. -/
def demoAsked : Tab := demoOffer.absorb (demoOffer.client.onLocalDescription 0 true) "r1"

theorem demoOffer_asks : Step demoOffer (.page (.localDescription 0 true) "r1") demoAsked :=
  .page rfl (.localDescription rfl) List.not_mem_nil

/-- A start that is turned down once the socket was lost and is back: the response settles it. -/
theorem requests_settle_rejected : ∃ t o,
    (system .html).Steps demoAsked [.closed 0, .timer, .opened 1, .message 1 demoRejection "r2"] t ∧
    t.requests.outcomes "r1" = [o] := by
  have h₁ := System.Steps.single (M := system .html) (show Step demoAsked (.closed 0) _ from .closed (by decide))
  have h₂ := h₁.snoc (show Step (demoAsked.onClose 0) .timer _ from .timer (Nat.succ_pos _))
  have h₃ := h₂.snoc (show Step (demoAsked.onClose 0).onTimer (.opened 1) _ from .opened rfl)
  have h₄ := h₃.snoc (show Step ((demoAsked.onClose 0).onTimer.onOpen 1) (.message 1 demoRejection "r2") _ from
    .message rfl (by decide))
  have hsettled := (requests_settle run_demoOffer.of_restrict).2 _ _ _ _ demoOffer_asks h₄ "r1" List.not_mem_nil
    (List.mem_singleton_self _)
  have hfor : ((Json.parse demoRejection).bind (settles? .html)).map Prod.fst = some "r1" := by decide +kernel
  obtain ⟨settled, hs, hid⟩ := Option.map_eq_some_iff.mp hfor
  have hevent : (Event.message 1 demoRejection "r2").settles? .html = some settled := hs
  have hout : outcome .html "r1" (.message 1 demoRejection "r2") = some settled.2 := by
    unfold outcome
    rw [hevent, Option.bind_some, if_pos hid]
  refine ⟨_, settled.2, h₄, hsettled.trans ?_⟩
  rw [List.findSome?_append, List.findSome?_singleton, hout]
  rfl

/-! ### Starts and their requests -/

/-- A start waits for the one request that carries its offer. -/
structure Matched (t : Tab) : Prop where
  begun : Client.Once t.client
  unused : ∀ s, t.created ≤ s → (t.sockets s).sent = []
  known : ∀ id body, t.requests.pending.get? id = some body → id ∈ t.issued
  sent : ∀ id body, t.requests.pending.get? id = some body → ∃ s, ⟨id, body⟩ ∈ (t.sockets s).sent
  waits : ∀ id p, t.requests.pending.get? id = some (.rtc (.start p)) → t.client.starts p = some .response
  one : ∀ id id' p, t.requests.pending.get? id = some (.rtc (.start p)) →
    t.requests.pending.get? id' = some (.rtc (.start p)) → id = id'
  asked : ∀ p, t.client.starts p = some .response → (∃ id, t.requests.pending.get? id = some (.rtc (.start p))) ∨
    ∃ id s, ⟨id, .rtc (.start p)⟩ ∈ (t.sockets s).sent ∧ (id, .dropped) ∈ t.requests.settled

/-- What sockets, requests and their log have in common with those before. -/
theorem Matched.ofSame {t t' : Tab} (h : Matched t) (hbegun : Client.Once t'.client)
    (hstarts : ∀ p, t'.client.starts p = some .response ↔ t.client.starts p = some .response)
    (hunused : ∀ s, t'.created ≤ s → (t'.sockets s).sent = []) (hissued : t.issued ⊆ t'.issued)
    (hsent : ∀ s, (t.sockets s).sent ⊆ (t'.sockets s).sent) (hreq : t'.requests = t.requests) : Matched t' := by
  refine ⟨hbegun, hunused, ?_, ?_, ?_, ?_, ?_⟩
  · rw [hreq]
    exact fun id body hget => hissued (h.known id body hget)
  · rw [hreq]
    intro id body hget
    obtain ⟨s, hmem⟩ := h.sent id body hget
    exact ⟨s, hsent s hmem⟩
  · rw [hreq]
    exact fun id p hget => (hstarts p).mpr (h.waits id p hget)
  · rw [hreq]
    exact h.one
  · rw [hreq]
    intro p hp
    obtain hwaits | ⟨id, s, hmem, hdropped⟩ := h.asked p ((hstarts p).mp hp)
    · exact .inl hwaits
    · exact .inr ⟨id, s, hsent s hmem, hdropped⟩

/-- An open page sends a request. -/
theorem sendRequest_open {t : Tab} (h : t.isOpen = true) (id : String) (body : Body) :
    ∃ s, t.ws = some s ∧ t.sendRequest id body =
      {t.setSocket s {t.sockets s with sent := (t.sockets s).sent ++ [⟨id, body⟩]} with
        requests := t.requests.add id body, issued := t.issued ++ [id]} := by
  unfold isOpen at h
  unfold sendRequest
  cases hws : t.ws with
  | none =>
    rw [hws] at h
    cases h
  | some s =>
    rw [hws] at h
    exact ⟨s, rfl, if_pos (of_decide_eq_true h)⟩

theorem sendRequest_closed {t : Tab} (h : t.isOpen = false) (id : String) (body : Body) : t.sendRequest id body = t := by
  unfold isOpen at h
  unfold sendRequest
  cases hws : t.ws with
  | none => rfl
  | some s =>
    rw [hws] at h
    exact if_neg (of_decide_eq_false h)

theorem setSocket_sent (t : Tab) (s : Nat) (w : WebSocket RequestFrame) (s' : Nat) :
    ((t.setSocket s w).sockets s').sent = if s' = s then w.sent else (t.sockets s').sent := by
  by_cases h : s' = s
  · rw [if_pos h, h]
    exact congrArg WebSocket.sent (Function.update_self ..)
  · rw [if_neg h]
    exact congrArg WebSocket.sent (Function.update_of_ne h ..)

/-- A request that goes out, for a start that begins to wait or for none. -/
theorem Matched.sends {t : Tab} (h : Matched t) (hmade : ∀ s, t.ws = some s → s < t.created) (hopen : t.isOpen = true)
    {c : Client} {id : String} (hid : id ∉ t.issued) (body : Body) (hbegun : Client.Once c)
    (hold : ∀ p, t.client.starts p = some .response → c.starts p = some .response)
    (hnew : ∀ p, c.starts p = some .response → t.client.starts p = some .response ∨ body = .rtc (.start p))
    (hbody : ∀ p, body = .rtc (.start p) → c.starts p = some .response ∧ t.client.starts p ≠ some .response) :
    Matched ({t with client := c}.sendRequest id body) := by
  obtain ⟨s, hws, he⟩ := sendRequest_open (t := {t with client := c}) hopen id body
  rw [he]
  have hsent : ∀ s', (t.sockets s').sent ⊆ ({t with client := c}.setSocket s
      {t.sockets s with sent := (t.sockets s).sent ++ [(⟨id, body⟩ : RequestFrame)]} |>.sockets s').sent := by
    intro s'
    rw [setSocket_sent]
    split
    · next heq => exact heq ▸ List.subset_append_left ..
    · exact List.Subset.refl _
  have hget : ∀ id' body', (t.requests.add id body).pending.get? id' = some body' →
      id' = id ∧ body' = body ∨ id' ≠ id ∧ t.requests.pending.get? id' = some body' :=
    fun _ _ => KeyMap.get?_set_some
  refine ⟨hbegun, ?_, ?_, ?_, ?_, ?_, ?_⟩
  · intro s' hs'
    show (({t with client := c}.setSocket s _).sockets s').sent = []
    rw [setSocket_sent, if_neg, h.unused s' hs']
    rintro rfl
    exact Nat.not_le_of_lt (hmade _ hws) hs'
  · intro id' body' hg
    obtain ⟨rfl, -⟩ | ⟨-, hg⟩ := hget id' body' hg
    · exact List.mem_append_right _ (List.mem_singleton_self _)
    · exact List.mem_append_left _ (h.known _ _ hg)
  · intro id' body' hg
    obtain ⟨rfl, rfl⟩ | ⟨-, hg⟩ := hget id' body' hg
    · refine ⟨s, ?_⟩
      show _ ∈ (({t with client := c}.setSocket s _).sockets s).sent
      rw [setSocket_sent, if_pos rfl]
      exact List.mem_append_right _ (List.mem_singleton_self _)
    · obtain ⟨s', hmem⟩ := h.sent _ _ hg
      exact ⟨s', hsent s' hmem⟩
  · intro id' p hg
    obtain ⟨-, hp⟩ | ⟨-, hg⟩ := hget id' _ hg
    · exact (hbody p hp.symm).1
    · exact hold p (h.waits _ _ hg)
  · intro id₁ id₂ p hg₁ hg₂
    obtain ⟨rfl, hp⟩ | ⟨-, hg₁⟩ := hget id₁ _ hg₁
    · obtain ⟨rfl, -⟩ | ⟨-, hg₂⟩ := hget id₂ _ hg₂
      · rfl
      · exact absurd (h.waits _ _ hg₂) (hbody p hp.symm).2
    · obtain ⟨-, hp⟩ | ⟨-, hg₂⟩ := hget id₂ _ hg₂
      · exact absurd (h.waits _ _ hg₁) (hbody p hp.symm).2
      · exact h.one _ _ p hg₁ hg₂
  · intro p hp
    obtain hp | rfl := hnew p hp
    · obtain ⟨id', hg⟩ | ⟨id', s', hmem, hdropped⟩ := h.asked p hp
      · refine .inl ⟨id', (KeyMap.get?_set_ne _ _ ?_).trans hg⟩
        rintro rfl
        exact hid (h.known _ _ hg)
      · exact .inr ⟨id', s', hsent s' hmem, hdropped⟩
    · exact .inl ⟨id, KeyMap.get?_set_self ..⟩

/-- What a frame does. -/
inductive Received (t : Tab) (e : Event) (id : String) : Tab → Prop where
  | nothing : Received t e id t
  | challenge (nonce : Option Json) : Received t e id (t.sendRequest id (.connect nonce))
  | callEnded : Received t e id {t with client := t.client.handleCallEnded}
  | answered {req : String} {p : Nat} {outcome : Outcome} {result : Option StartResult} :
      e.settles? t.client.page = some (req, outcome) → t.requests.pending.get? req = some (.rtc (.start p)) →
      (∀ r, result = some r → r.callId ≠ "") →
      Received t e id {t with requests := t.requests.settle req outcome, client := t.client.onStartResponse p result}
  | settled {req : String} {body : Body} {outcome : Outcome} : e.settles? t.client.page = some (req, outcome) →
      t.requests.pending.get? req = some body → (∀ p, body = .rtc (.start p) → outcome = .dropped) →
      Received t e id {t with requests := t.requests.settle req outcome}

theorem handleChallenge_received (t : Tab) (e : Event) (payload : Option Json) (id : String) :
    Received t e id (t.handleChallenge payload id) := by
  unfold handleChallenge
  split
  · dsimp only
    split
    · exact .challenge _
    · exact .nothing
  · split
    · exact .nothing
    · exact .nothing
    · exact .challenge _

theorem responseOutcome_resolved {page : Page} {frame : Json} {payload : Option Json}
    (h : responseOutcome page frame = .resolved payload) :
    optTruthy (frame.get? "ok") = true ∧ payload = frame.get? "payload" := by
  unfold responseOutcome at h
  split at h
  · next hok =>
    injection h with h
    exact ⟨hok, h.symm⟩
  · split at h <;> cases h

theorem startResult?_some {payload : Option Json} {r : StartResult} (h : startResult? payload = some r) :
    ∃ v, payload = some v ∧ v ≠ .null ∧ r.callId = ((v.get? "callId").bind Json.asString?).getD "" := by
  unfold startResult? at h
  split at h
  · cases h
  · cases h
  · next v hv =>
    obtain rfl := Option.some.inj h
    exact ⟨v, rfl, hv, rfl⟩

theorem handleResponse_received {t : Tab} {s : Nat} {text id : String} {frame : Json} (hparse : Json.parse text = some frame)
    (htype : frame.get? "type" = some (.str "res")) (hnamed : t.Named (.message s text id)) :
    Received t (.message s text id) id (t.handleResponse frame) := by
  unfold handleResponse
  split
  · next req hid =>
    have hsettles : Event.settles? t.client.page (.message s text id) = some (req, responseOutcome t.client.page frame) := by
      show (Json.parse text).bind _ = _
      rw [hparse, Option.bind_some, settles?, responds?, htype, hid]
      rfl
    split
    · next body hget =>
      dsimp only
      unfold resume
      split
      · next p payload houtcome =>
        rw [houtcome]
        refine .answered (houtcome ▸ hsettles) hget fun r hr => ?_
        obtain ⟨v, rfl, hnull, hcall⟩ := startResult?_some hr
        obtain ⟨hok, hpayload⟩ := responseOutcome_resolved houtcome
        obtain ⟨callId, hcallId, hne⟩ := hnamed frame req p v hparse htype hid hget hok hpayload.symm hnull
        rw [hcall, hcallId]
        exact hne
      · next p message houtcome =>
        rw [houtcome]
        exact .answered (houtcome ▸ hsettles) hget (by simp)
      · next hresolved hrejected =>
        refine .settled hsettles hget fun p hp => ?_
        cases houtcome : responseOutcome t.client.page frame with
        | resolved payload => exact absurd houtcome (hresolved p payload hp)
        | rejected message => exact absurd houtcome (hrejected p message hp)
        | dropped => rfl
    · exact .nothing
  · exact .nothing

theorem onMessage_received {t : Tab} {s : Nat} {text id : String} (hnamed : t.Named (.message s text id)) :
    Received t (.message s text id) id (t.onMessage text id) := by
  unfold onMessage
  split
  · next frame hparse =>
    unfold handleFrame
    split
    · unfold handleEvent
      split
      · exact handleChallenge_received ..
      · exact .callEnded
      · exact .nothing
    · next htype => exact handleResponse_received hparse htype hnamed
    · exact .nothing
  · exact .nothing

/-- A start that is answered waits no more, and no other one changes. -/
theorem onStartResponse_starts (c : Client) (p : Nat) (result : Option StartResult) :
    ∃ v, v ≠ some .response ∧ (c.onStartResponse p result).starts = Function.update c.starts p v := by
  have hawaits : ∀ {v : Option Stage}, (∀ stage, v = some stage → stage.awaits = false) → v ≠ some .response := by
    rintro v hv rfl
    cases hv _ rfl
  cases result with
  | none =>
    obtain ⟨-, v, hstarts, hv⟩ := Client.fail_advances c p
    exact ⟨v, hawaits hv, hstarts⟩
  | some r =>
    have hlater : (Stage.answer (c.page.candidates r.candidates)).awaits = false := rfl
    obtain ⟨-, v, hstarts, hv⟩ := Client.invoke_advances
      {c with currentCallId := some r.callId, returned := c.returned ++ [(p, r.callId)]} p (.handleAnswer r.answerSdp) hlater
    exact ⟨v, hawaits hv, hstarts⟩

theorem cleanupCall_matched {t : Tab} (h : Matched t) : Matched {t with client := t.client.handleCallEnded} := by
  have hstarts := Client.cleanupCall_starts t.client
  refine h.ofSame (Client.step_once h.begun .callEnded) (fun p => ?_) h.unused (List.Subset.refl _)
    (fun _ => List.Subset.refl _) rfl
  show t.client.cleanupCall.starts p = _ ↔ _
  rw [hstarts]

/-- A request that is settled without a start that waits for it. -/
theorem settled_matched {t : Tab} (h : Matched t) {req : String} {body : Body} {outcome : Outcome}
    (hget : t.requests.pending.get? req = some body) (hstart : ∀ p, body = .rtc (.start p) → outcome = .dropped) :
    Matched {t with requests := t.requests.settle req outcome} := by
  have hreq : t.requests.settle req outcome = ⟨t.requests.pending.delete req, t.requests.settled ++ [(req, outcome)]⟩ := by
    unfold Promises.settle
    rw [hget]
  rw [hreq]
  refine ⟨h.begun, h.unused, fun id b hg => h.known id b (KeyMap.get?_delete_some hg).2,
    fun id b hg => h.sent id b (KeyMap.get?_delete_some hg).2, fun id p hg => h.waits id p (KeyMap.get?_delete_some hg).2,
    fun id id' p hg hg' => h.one id id' p (KeyMap.get?_delete_some hg).2 (KeyMap.get?_delete_some hg').2, fun p hp => ?_⟩
  obtain ⟨id, hg⟩ | ⟨id, s, hmem, hdropped⟩ := h.asked p hp
  · by_cases hid : id = req
    · subst hid
      obtain rfl := hstart p (Option.some.inj (hget.symm.trans hg))
      obtain ⟨s, hmem⟩ := h.sent id _ hg
      exact .inr ⟨id, s, hmem, List.mem_append_right _ (List.mem_singleton_self _)⟩
    · exact .inl ⟨id, (KeyMap.get?_delete_ne _ hid).trans hg⟩
  · exact .inr ⟨id, s, hmem, List.mem_append_left _ hdropped⟩

/-- The start that a response is for goes on, and the request is gone. -/
theorem answered_matched {t : Tab} (h : Matched t) {req : String} {p : Nat} (outcome : Outcome) {result : Option StartResult}
    (hget : t.requests.pending.get? req = some (.rtc (.start p))) (hnamed : ∀ r, result = some r → r.callId ≠ "") :
    Matched {t with requests := t.requests.settle req outcome, client := t.client.onStartResponse p result} := by
  have hreq : t.requests.settle req outcome = ⟨t.requests.pending.delete req, t.requests.settled ++ [(req, outcome)]⟩ := by
    unfold Promises.settle
    rw [hget]
  obtain ⟨v, hv, hstarts⟩ := onStartResponse_starts t.client p result
  rw [hreq]
  refine ⟨Client.step_once h.begun (.startResponse (h.waits _ _ hget) hnamed), h.unused,
    fun id b hg => h.known id b (KeyMap.get?_delete_some hg).2, fun id b hg => h.sent id b (KeyMap.get?_delete_some hg).2, ?_,
    fun id id' q hg hg' => h.one id id' q (KeyMap.get?_delete_some hg).2 (KeyMap.get?_delete_some hg').2, fun q hq => ?_⟩
  · intro id q hg
    obtain ⟨hid, hold⟩ := KeyMap.get?_delete_some hg
    have hq : q ≠ p := by
      rintro rfl
      exact hid (h.one id req _ hold hget)
    show (t.client.onStartResponse p result).starts q = _
    rw [hstarts, Function.update_of_ne hq]
    exact h.waits id q hold
  · have hold : (t.client.onStartResponse p result).starts q = some .response := hq
    rw [hstarts] at hold
    have hqp : q ≠ p := by
      rintro rfl
      rw [Function.update_self] at hold
      exact hv hold
    rw [Function.update_of_ne hqp] at hold
    obtain ⟨id, hg⟩ | ⟨id, s, hmem, hdropped⟩ := h.asked q hold
    · refine .inl ⟨id, (KeyMap.get?_delete_ne _ ?_).trans hg⟩
      rintro rfl
      exact hqp (by simpa using hg.symm.trans hget)
    · exact .inr ⟨id, s, hmem, List.mem_append_left _ hdropped⟩

/-- A request of the page itself. -/
theorem Matched.asks {t : Tab} (h : Matched t) (hmade : ∀ s, t.ws = some s → s < t.created) {id : String}
    (hid : id ∉ t.issued) {body : Body} (hbody : ∀ p, body ≠ .rtc (.start p)) : Matched (t.sendRequest id body) := by
  cases hopen : t.isOpen with
  | false => exact (sendRequest_closed hopen id body).symm ▸ h
  | true =>
    exact h.sends hmade hopen (c := t.client) hid body h.begun (fun _ hp => hp) (fun _ hp => .inl hp)
      fun p hp => absurd hp (hbody p)

theorem Received.matched {t t' : Tab} {e : Event} {id : String} (hr : Received t e id t') (h : Matched t)
    (hmade : ∀ s, t.ws = some s → s < t.created) (hid : id ∉ t.issued) : Matched t' := by
  cases hr with
  | nothing => exact h
  | challenge nonce => exact h.asks hmade hid (by simp)
  | callEnded => exact cleanupCall_matched h
  | answered _ hget hnamed => exact answered_matched h _ hget hnamed
  | settled _ hget hstart => exact settled_matched h hget hstart

/-- A step of the call. -/
theorem absorb_matched {t : Tab} (h : Matched t) (hlinked : Linked t) {l : Client.Label} {c : Client} {id : String}
    (hl : l.isLocal = true) (hs : Client.Step t.client l c) (hid : id ∉ t.issued) : Matched (t.absorb c id) := by
  have hbegun := Client.step_once h.begun hs
  have hdrop : ∀ {r}, c.sent = t.client.sent ++ [r] → t.absorb c id = {t with client := c}.sendRequest id (.rtc r) := by
    intro r hsent
    unfold absorb
    rw [hsent, List.drop_left]
  cases Client.step_asks h.begun hl hs with
  | quiet hsent hstarts =>
    obtain hsent | ⟨r, hsent, hws, hr⟩ := hsent
    · have habsorb : t.absorb c id = {t with client := c} := by
        unfold absorb
        rw [hsent, List.drop_length]
      rw [habsorb]
      exact h.ofSame hbegun hstarts h.unused (List.Subset.refl _) (fun _ => List.Subset.refl _) rfl
    · rw [hdrop hsent]
      refine h.sends hlinked.made (hlinked.flag ▸ hws) hid _ hbegun (fun p => (hstarts p).mpr)
        (fun p hp => .inl ((hstarts p).mp hp)) fun p hp => ?_
      injection hp with hp
      exact absurd hp (hr p)
  | @start p hsent hws hp hstarts =>
    rw [hdrop hsent]
    refine h.sends hlinked.made (hlinked.flag ▸ hws) hid _ hbegun (fun q hq => ?_) (fun q hq => ?_) fun q hq => ?_
    · rw [hstarts]
      by_cases hqp : q = p
      · rw [hqp, Function.update_self]
      · rw [Function.update_of_ne hqp]
        exact hq
    · by_cases hqp : q = p
      · exact .inr (by rw [hqp])
      · rw [hstarts, Function.update_of_ne hqp] at hq
        exact .inl hq
    · obtain rfl : p = q := by simpa using hq
      rw [hstarts, Function.update_self]
      exact ⟨rfl, by simp [hp]⟩

/-- An event of the connection, which loses nothing that went out. -/
theorem Matched.ofSockets {t t' : Tab} (h : Matched t) {ws : Bool} (hclient : t'.client = {t.client with ws := ws})
    (hsent : ∀ s, (t'.sockets s).sent = (t.sockets s).sent) (hcreated : t.created ≤ t'.created)
    (hissued : t'.issued = t.issued) (hreq : t'.requests = t.requests) : Matched t' := by
  refine h.ofSame (hclient ▸ Client.step_once h.begun .socket) (fun p => ?_)
    (fun s hs => (hsent s).trans (h.unused s (hcreated.trans hs))) (hissued ▸ List.Subset.refl _)
    (fun s => hsent s ▸ List.Subset.refl _) hreq
  rw [hclient]

theorem setReadyState_sent (t : Tab) (s : Nat) (r : ReadyState) (s' : Nat) :
    ((t.setSocket s {t.sockets s with readyState := r}).sockets s').sent = (t.sockets s').sent := by
  rw [setSocket_sent]
  split
  · next heq => rw [heq]
  · rfl

theorem Matched.connects {t : Tab} (h : Matched t) (s : Nat) :
    ((t.setSocket t.created .new).sockets s).sent = (t.sockets s).sent := by
  rw [setSocket_sent]
  split
  · next heq => exact (heq ▸ h.unused t.created (Nat.le_refl _)).symm
  · rfl

theorem step_matched {t t' : Tab} {e : Event} (h : Matched t) (hlinked : Linked t) (hs : Step t e t') (hnamed : t.Named e) :
    Matched t' := by
  cases hs with
  | page hl hstep hid => exact absorb_matched h hlinked hl hstep hid
  | submit _ hid => exact h.asks hlinked.made hid (by simp)
  | @opened s => exact h.ofSockets rfl (setReadyState_sent t s .open) (Nat.le_refl _) rfl rfl
  | message _ hid => exact (onMessage_received hnamed).matched h hlinked.made hid
  | @closing s => exact h.ofSockets rfl (setReadyState_sent t s .closing) (Nat.le_refl _) rfl rfl
  | @closed s => exact h.ofSockets rfl (setReadyState_sent t s .closed) (Nat.le_refl _) rfl rfl
  | timer => exact h.ofSockets rfl h.connects (Nat.le_succ _) rfl rfl

theorem new_matched (page : Page) : Matched (new page) := by
  refine ⟨Client.new_once ⟨_, rfl⟩, fun s _ => ?_, ?_, ?_, ?_, ?_, ?_⟩
  · show ((setSocket _ 0 .new).sockets s).sent = []
    rw [setSocket_sent]
    split <;> rfl
  all_goals simp [new, connectGateway, sync, setSocket, Client.new]

theorem run_matched {page : Page} {es : List Event} {t : Tab} (h : ((system page).restrict Named).Run es t) : Matched t := by
  refine h.invariant (M := (system page).restrict Named) (I := fun _ t => Matched t) ?_
    fun _ _ _ _ hrun hI hs => step_matched hI (run_linked hrun.of_restrict) hs.1 hs.2
  rintro t rfl
  exact new_matched page

/-! ### The page does what its client does -/

/-- What an event is for the call: the user and the connection come through, and a frame may
be a response or the end of a call. -/
inductive Shows (page : Page) : Event → List Client.Label → Prop where
  | page {l id} : Shows page (.page l id) [l]
  | submit {text id} : Shows page (.submit text id) []
  | opened {s} : Shows page (.opened s) [.socket true]
  | closing {s} : Shows page (.closing s) [.socket false]
  | closed {s} : Shows page (.closed s) [.socket false]
  | timer : Shows page .timer [.socket false]
  | quiet {s text id} : Shows page (.message s text id) []
  | callEnded {s text id} : Shows page (.message s text id) [.callEnded]
  | response {s text id p result} : (Event.settles? page (.message s text id)).isSome = true →
      Shows page (.message s text id) [.startResponse p result]

theorem sendRequest_client (t : Tab) (id : String) (body : Body) : (t.sendRequest id body).client = t.client := by
  unfold sendRequest
  split
  · rfl
  · split <;> rfl

theorem absorb_client (t : Tab) (c : Client) (id : String) : (t.absorb c id).client = c := by
  unfold absorb
  split
  · rfl
  · exact sendRequest_client ..

/-- The part of a step that the call sees. -/
theorem Received.shown {t t' : Tab} {s : Nat} {text id id' : String} (hr : Received t (.message s text id) id' t')
    (h : Matched t) :
    ∃ ls, Shows t.client.page (.message s text id) ls ∧ (Client.system t.client.page).Steps t.client ls t'.client := by
  cases hr with
  | nothing => exact ⟨[], .quiet, .nil⟩
  | challenge nonce =>
    rw [sendRequest_client]
    exact ⟨[], .quiet, .nil⟩
  | callEnded => exact ⟨[.callEnded], .callEnded, .single .callEnded⟩
  | answered hsettles hget hnamed =>
    exact ⟨[.startResponse _ _], .response (hsettles ▸ rfl), .single (.startResponse (h.waits _ _ hget) hnamed)⟩
  | settled => exact ⟨[], .quiet, .nil⟩

theorem opened_open {t : Tab} (h : Linked t) {s : Nat} (hs : (t.sockets s).readyState = .connecting) :
    (t.onOpen s).client = {t.client with ws := true} := by
  have hws := (h.current s).mp (by simp [hs])
  have hopen : (t.setSocket s {t.sockets s with readyState := .open}).isOpen = true := by
    show t.ws.any (fun s' => ((t.setSocket s _).sockets s').readyState = .open) = true
    rw [hws]
    simp [setSocket_readyState]
  exact congrArg (fun ws => {t.client with ws := ws}) hopen

theorem closing_closed {t : Tab} (h : Linked t) {s : Nat} (hs : (t.sockets s).readyState = .open) :
    (t.onClosing s).client = {t.client with ws := false} := by
  have hws := (h.current s).mp (by simp [hs])
  have hopen : (t.setSocket s {t.sockets s with readyState := .closing}).isOpen = false := by
    show t.ws.any (fun s' => ((t.setSocket s _).sockets s').readyState = .open) = false
    rw [hws]
    simp [setSocket_readyState]
  exact congrArg (fun ws => {t.client with ws := ws}) hopen

theorem timer_closed (t : Tab) : t.onTimer.client = {t.client with ws := false} := by
  have hopen : ({t.setSocket t.created .new with ws := some t.created} : Tab).isOpen = false := by
    show (some t.created).any (fun s' => ((t.setSocket _ _).sockets s').readyState = .open) = false
    simp [setSocket_readyState, WebSocket.new]
  exact congrArg (fun ws => {t.client with ws := ws}) hopen

/-- The call of a page takes the same part in every event. -/
theorem simulation (page : Page) : System.Simulation ((system page).restrict Named) (Client.system page)
    (fun t c => c = t.client ∧ Linked t ∧ Matched t ∧ c.page = page) (Shows page) where
  init := by
    rintro t rfl
    exact ⟨_, ⟨_, rfl⟩, rfl, new_linked page, new_matched page, rfl⟩
  step := by
    rintro t e t' c ⟨rfl, hlinked, hmatched, rfl⟩ ⟨hs, hnamed⟩
    have hpage : t'.client.page = t.client.page := step_page hs
    refine (?_ : ∃ ls, Shows t.client.page e ls ∧ (Client.system t.client.page).Steps t.client ls t'.client).elim
      fun ls hls => ⟨ls, t'.client, hls.1, hls.2, rfl, step_linked hlinked hs, step_matched hmatched hlinked hs hnamed, hpage⟩
    cases hs with
    | page _ hstep =>
      rw [absorb_client]
      exact ⟨_, .page, .single hstep⟩
    | submit =>
      rw [sendRequest_client]
      exact ⟨[], .submit, .nil⟩
    | opened hready =>
      rw [opened_open hlinked hready]
      exact ⟨_, .opened, .single .socket⟩
    | message => exact (onMessage_received hnamed).shown hmatched
    | closing hready =>
      rw [closing_closed hlinked hready]
      exact ⟨_, .closing, .single .socket⟩
    | closed => exact ⟨_, .closed, .single .socket⟩
    | timer =>
      rw [timer_closed]
      exact ⟨_, .timer, .single .socket⟩

/-- **The voice call of a page is a `Client`**, whose flag is whether the socket is open; and
a start waits for the one request that carries its offer, sent and not yet answered. It waits
for nothing only where the error for the response could not be made. -/
theorem tab_runs_client {page : Page} {es : List Event} {t : Tab} (h : ((system page).restrict Named).Run es t) :
    (∃ lss, List.Forall₂ (Shows page) es lss ∧ (Client.system page).Run lss.flatten t.client) ∧
      t.client.ws = t.isOpen ∧
      (∀ p, t.client.starts p = some .response →
        (∃! id, t.requests.pending.get? id = some (.rtc (.start p))) ∨
          ∃ id s, ⟨id, .rtc (.start p)⟩ ∈ (t.sockets s).sent ∧ (id, .dropped) ∈ t.requests.settled) ∧
      ∀ id body, t.requests.pending.get? id = some body → (∃ s, ⟨id, body⟩ ∈ (t.sockets s).sent) ∧
        ∀ p, body = .rtc (.start p) → t.client.starts p = some .response := by
  have hmatched := run_matched h
  refine ⟨?_, (run_linked h.of_restrict).flag, fun p hp => ?_, fun id body hget => ⟨hmatched.sent id body hget, ?_⟩⟩
  · obtain ⟨lss, c, hshows, hrun, rfl, -⟩ := (simulation page).run h
    exact ⟨lss, hshows, hrun⟩
  · obtain ⟨id, hid⟩ | hdropped := hmatched.asked p hp
    · exact .inl ⟨id, hid, fun id' hid' => hmatched.one id' id p hid' hid⟩
    · exact .inr hdropped
  · rintro p rfl
    exact hmatched.waits id p hget

/-- A start that waits goes on waiting once the socket is closed. -/
theorem tab_runs_client_closed : ∃ t, (system .html).Run
      [.opened 0, .page .callClick "r1", .page (.media 0 true) "r1", .page (.offer 0 true) "r1",
        .page (.localDescription 0 true) "r1", .closed 0] t ∧
    t.client.ws = false ∧ t.client.starts 0 = some .response ∧
    ∃! id, t.requests.pending.get? id = some (.rtc (.start 0)) := by
  have hlost : Step demoAsked (.closed 0) (demoAsked.onClose 0) := .closed (by decide)
  have hrun := (run_demoOffer.snoc ⟨demoOffer_asks, trivial⟩).snoc ⟨hlost, trivial⟩
  obtain ⟨-, hflag, hwaits, -⟩ := tab_runs_client hrun
  refine ⟨_, hrun.of_restrict, hflag, rfl, (hwaits 0 rfl).resolve_right ?_⟩
  rintro ⟨id, s, -, hmem⟩
  cases hmem

end Tab
end RtcPlugin.Browser
