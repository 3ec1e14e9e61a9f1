import RtcPlugin.Node.Entries
import RtcPlugin.Plugin.Answered
import RtcPlugin.System.Simulation

/-! The plugin's commands in the node's peer manager.

A command runs at the node in a goroutine of its own, in several steps: an accept negotiates
before it stores its entry, a hangup closes what its critical section took out, and a candidate
is added to an entry that was looked up. Each takes effect in one of its steps. There the
agreement's node executes it, so every run of the plugin over the peer manager is a run of the
agreement (`commands_refine`). -/
namespace RtcPlugin.Signalling

open Agreement (send news)
open Node (PeerManager)

/-- Where the goroutine of a command is. -/
inductive Job where
  /-- `AcceptCall`, with its connection. -/
  | accepting (p : Nat)
  /-- `ClosePeer`, by its number, before its critical section. -/
  | hangingUp (k : Nat)
  /-- The same behind it. -/
  | closing (k : Nat)
  /-- A command that took effect, and whether it will succeed. -/
  | returning (ok : Bool)
  deriving DecidableEq, Repr

structure Site where
  plugin : Plugin.World
  /-- The commands that have not taken effect, by the number of their handler. -/
  inflight : KeyMap Nat InvokeParams
  jobs : Nat → Option Job
  /-- Whether a command that returned succeeded. -/
  finished : KeyMap Nat Bool
  node : PeerManager

namespace Site

inductive Label where
  | plugin (l : Plugin.Label)
  /-- The goroutine of a command begins. -/
  | begin (h : Nat)
  /-- A command takes effect. -/
  | effect (h : Nat) (ok : Bool)
  | returned (h : Nat)
  /-- A connection's callback takes out the entry of its call. -/
  | callback (k : Nat) (callId : String)
  | node (l : PeerManager.Label)

def setJob (s : Site) (h : Nat) (job : Option Job) : Site := {s with jobs := Function.update s.jobs h job}

/-- A command takes effect: it is not under way any more. -/
def took (s : Site) (h : Nat) (job : Option Job) : Site := {s.setJob h job with inflight := s.inflight.delete h}

/-- A command returns. -/
def report (s : Site) (h : Nat) (ok : Bool) : Site := {s.setJob h none with finished := s.finished.set h ok}

/-- A wait succeeds only once its command has returned with success. -/
def Heard (s : Site) : Plugin.Label → Prop
  | .resume h (.resolved r) _ => r.ok = true → s.finished.get? h = some true
  | _ => True

/-- The steps of the peer manager that no command takes and that take out no entry. -/
def Background : PeerManager.Label → Prop
  | .register _ | .stateChange _ _ | .track _ | .stop _ | .close _ => True
  | .accept _ | .acceptFails _ | .store _ | .hangup _ | .lookup _ => False

inductive Step (config : WebRtcConfig) (s : Site) : Label → Site → Prop where
  | plugin {l p} : Plugin.Step config s.plugin l p → s.Heard l → Step config s (.plugin l)
      {s with plugin := p, inflight := send s.inflight (news s.plugin.state.log p)}
  | accept {h callId sdp servers node} : s.inflight.get? h = some (.accept callId sdp servers) → s.jobs h = none →
      PeerManager.Step s.node (.accept callId) node →
      Step config s (.begin h) {s.setJob h (some (.accepting s.node.created)) with node := node}
  | hangup {h callId reason node} : s.inflight.get? h = some (.hangup callId reason) → s.jobs h = none →
      PeerManager.Step s.node (.hangup callId) node →
      Step config s (.begin h) {s.setJob h (some (.hangingUp s.node.spawned)) with node := node}
  /-- No connection can be made. -/
  | unopened {h callId sdp servers} : s.inflight.get? h = some (.accept callId sdp servers) → s.jobs h = none →
      Step config s (.effect h false) (s.took h (some (.returning false)))
  | stored {h p node} : s.jobs h = some (.accepting p) → PeerManager.Step s.node (.store p) node →
      Step config s (.effect h true) {s.took h (some (.returning true)) with node := node}
  | failed {h p node} : s.jobs h = some (.accepting p) → PeerManager.Step s.node (.acceptFails p) node →
      Step config s (.effect h false) {s.took h (some (.returning false)) with node := node}
  | looked {h k node} : s.jobs h = some (.hangingUp k) → PeerManager.Step s.node (.lookup k) node →
      Step config s (.effect h true) {s.took h (some (.closing k)) with node := node}
  | closed {h k} : s.jobs h = some (.closing k) → s.node.closers k = none → Step config s (.returned h) (s.report h true)
  | candidate {h callId candidate ok} : s.inflight.get? h = some (.remoteCandidate callId candidate) → s.jobs h = none →
      (ok = true → (s.node.storedPc callId).isSome = true) →
      Step config s (.effect h ok) (s.took h (some (.returning ok)))
  | returned {h ok} : s.jobs h = some (.returning ok) → Step config s (.returned h) (s.report h ok)
  | callback {k closer node} : s.node.closers k = some closer → (∀ h, s.jobs h ≠ some (.hangingUp k)) →
      PeerManager.Step s.node (.lookup k) node → Step config s (.callback k closer.callId) {s with node := node}
  | node {l node} : Background l → PeerManager.Step s.node l node → Step config s (.node l) {s with node := node}

def system (config : WebRtcConfig) (loopbackSec : Nat) : System Site Label where
  init := (· = ⟨.new config, .empty, fun _ => none, .empty, .new loopbackSec⟩)
  step := Step config

/-! ### What goroutines of commands rely on -/

open Node.PeerManager (Grown WellFormed)

/-- What is known of a command by where its goroutine is. -/
def Fits (s : Site) (w : Agreement.World) (h : Nat) : Job → Prop
  | .accepting p => ∃ callId sdp servers c, s.inflight.get? h = some (.accept callId sdp servers) ∧
      s.node.conns p = some c ∧ c.callId = callId
  | .hangingUp k => ∃ callId reason closer, s.inflight.get? h = some (.hangup callId reason) ∧
      s.node.closers k = some closer ∧ closer.callId = callId ∧ closer.phase = .lookup
  | .closing _ => s.inflight.get? h = none ∧ h < s.plugin.served ∧ w.finished.get? h = some true
  | .returning ok => s.inflight.get? h = none ∧ h < s.plugin.served ∧ w.finished.get? h = some ok

/-- The agreement's world that a site stands for: what has returned has been executed, the peers
are the calls of the map, and every goroutine is where its command is. -/
structure Represents (s : Site) (w : Agreement.World) : Prop where
  known : Agreement.Known w
  wellFormed : WellFormed s.node
  plugin : w.plugin = s.plugin
  inflight : w.inflight = s.inflight
  finished : ∀ h ok, s.finished.get? h = some ok → w.finished.get? h = some ok
  unfinished : ∀ h params, s.inflight.get? h = some params → s.finished.get? h = none
  numbered : ∀ h ok, s.finished.get? h = some ok → h < s.plugin.served
  peers : ∀ id, id ∈ w.peers ↔ (s.node.storedPc id).isSome = true
  jobs : ∀ h job, s.jobs h = some job → Fits s w h job
  distinct : ∀ h h' k, s.jobs h = some (.hangingUp k) → s.jobs h' = some (.hangingUp k) → h = h'

variable {config : WebRtcConfig} {loopbackSec : Nat} {s s' : Site} {w w' : Agreement.World} {h : Nat} {job : Job}

theorem Represents.served (hR : Represents s w) (hfits : Fits s w h job) : h < s.plugin.served := by
  cases job with
  | accepting p =>
    obtain ⟨callId, sdp, servers, c, hsent, -, -⟩ := hfits
    exact hR.plugin ▸ hR.known.numbered h _ (hR.inflight ▸ hsent)
  | hangingUp k =>
    obtain ⟨callId, reason, closer, hsent, -, -, -⟩ := hfits
    exact hR.plugin ▸ hR.known.numbered h _ (hR.inflight ▸ hsent)
  | closing | returning => exact hfits.2.1

/-- A goroutine stays where it is, as long as its command, its connection and its call do. -/
theorem Fits.mono (hfits : Fits s w h job) (hin : s'.inflight.get? h = s.inflight.get? h)
    (hconns : Grown s.node.conns s'.node.conns)
    (hclosers : ∀ k closer, job = .hangingUp k → s.node.closers k = some closer → closer.phase = .lookup →
      s'.node.closers k = some closer)
    (hserved : s.plugin.served ≤ s'.plugin.served) (hdone : ∀ ok, w.finished.get? h = some ok → w'.finished.get? h = some ok) :
    Fits s' w' h job := by
  cases job with
  | accepting p =>
    obtain ⟨callId, sdp, servers, c, hsent, hc, hid⟩ := hfits
    obtain ⟨c', hc', hgrows⟩ := hconns p c hc
    exact ⟨callId, sdp, servers, c', hin.trans hsent, hc', hgrows.callId.trans hid⟩
  | hangingUp k =>
    obtain ⟨callId, reason, closer, hsent, hk, hid, hphase⟩ := hfits
    exact ⟨callId, reason, closer, hin.trans hsent, hclosers k closer rfl hk hphase, hid, hphase⟩
  | closing | returning =>
    obtain ⟨hnone, hlt, hfinished⟩ := hfits
    exact ⟨hin.trans hnone, Nat.lt_of_lt_of_le hlt hserved, hdone _ hfinished⟩

/-- A call that has still to look is there until it does. -/
theorem step_closers {pm pm' : PeerManager} {l : PeerManager.Label} (hW : WellFormed pm) (hs : PeerManager.Step pm l pm')
    {k : Nat} (hl : l ≠ .lookup k) {closer : Node.Closer} (hk : pm.closers k = some closer) (hphase : closer.phase = .lookup) :
    pm'.closers k = some closer := by
  cases hs with
  | accept | register | store => exact hk
  | acceptFails => exact PeerManager.closePc_closers hW hk
  | stateChange => exact PeerManager.changeState_closers hW hk
  | track => exact (PeerManager.onTrack_same pm _).2.2.1 ▸ hk
  | hangup => exact PeerManager.spawn_closers hW hk
  | @lookup k' cl hk' =>
    rw [PeerManager.lookup_closers]
    have hne : k ≠ k' := fun he => hl (by rw [he])
    exact (Function.update_of_ne hne _ _).trans hk
  | @stop k' cl entry hk' hph =>
    have hne : k ≠ k' := PeerManager.closer_ne hk' hk fun he => by
      rw [hphase, hph] at he
      cases he
    exact (Function.update_of_ne hne _ _).trans ((PeerManager.stopLoopback_same pm entry).2.2.1 ▸ hk)
  | @close k' cl entry hk' hph =>
    have hne : k ≠ k' := PeerManager.closer_ne hk' hk fun he => by
      rw [hphase, hph] at he
      cases he
    exact (Function.update_of_ne hne _ _).trans (PeerManager.closePc_closers hW hk)

/-! ### What a step leaves -/

/-- The peer manager goes on by itself. -/
theorem Represents.goesOn (hR : Represents s w) {l : PeerManager.Label} {node : PeerManager}
    (hs : PeerManager.Step s.node l node) (hl : ∀ k, l ≠ .lookup k) (hl' : ∀ p, l ≠ .store p) :
    Represents {s with node := node} w where
  known := hR.known
  wellFormed := PeerManager.step_wellFormed hR.wellFormed hs
  plugin := hR.plugin
  inflight := hR.inflight
  finished := hR.finished
  unfinished := hR.unfinished
  numbered := hR.numbered
  peers := fun id => by
    rw [PeerManager.step_storedPc hs hl hl' id]
    exact hR.peers id
  jobs := fun h job hjob => (hR.jobs h job hjob).mono rfl (PeerManager.step_later hR.wellFormed hs hl).conns
    (fun _ _ _ hk hphase => step_closers hR.wellFormed hs (hl _) hk hphase) (Nat.le_refl _) fun _ => id
  distinct := hR.distinct

/-- A goroutine begins or ends. -/
theorem Represents.setJob (hR : Represents s w) {h : Nat} {job : Option Job} (hfits : ∀ j, job = some j → Fits s w h j)
    (hdistinct : ∀ k h', job = some (.hangingUp k) → s.jobs h' ≠ some (.hangingUp k)) : Represents (s.setJob h job) w where
  known := hR.known
  wellFormed := hR.wellFormed
  plugin := hR.plugin
  inflight := hR.inflight
  finished := hR.finished
  unfinished := hR.unfinished
  numbered := hR.numbered
  peers := hR.peers
  jobs := fun h' j hj => by
    have hfits' : Fits s w h' j := by
      obtain ⟨rfl, hself⟩ | ⟨-, hold⟩ := update_some hj
      · exact hfits j hself
      · exact hR.jobs h' j hold
    exact hfits'.mono rfl (.refl _) (fun _ _ _ hk _ => hk) (Nat.le_refl _) fun _ => id
  distinct := fun h₁ h₂ k h₁k h₂k => by
    obtain ⟨rfl, hself⟩ | ⟨-, hold₁⟩ := update_some h₁k
    · obtain ⟨rfl, -⟩ | ⟨-, hold₂⟩ := update_some h₂k
      · rfl
      · exact absurd hold₂ (hdistinct k h₂ hself)
    · obtain ⟨rfl, hself⟩ | ⟨-, hold₂⟩ := update_some h₂k
      · exact absurd hold₁ (hdistinct k h₁ hself)
      · exact hR.distinct h₁ h₂ k hold₁ hold₂

/-- A command that was executed returns. -/
theorem Represents.report (hR : Represents s w) {ok : Bool} (hdone : w.finished.get? h = some ok) (hnone : s.inflight.get? h = none)
    (hserved : h < s.plugin.served) : Represents (s.report h ok) w where
  known := hR.known
  wellFormed := hR.wellFormed
  plugin := hR.plugin
  inflight := hR.inflight
  finished := fun h' ok' hfinished => by
    obtain ⟨rfl, rfl⟩ | ⟨-, hold⟩ := KeyMap.get?_set_some hfinished
    · exact hdone
    · exact hR.finished h' ok' hold
  unfinished := fun h' params hsent => by
    have hne : h' ≠ h := by
      rintro rfl
      exact nomatch hnone.symm.trans hsent
    exact (KeyMap.get?_set_ne _ _ hne).trans (hR.unfinished h' params hsent)
  numbered := fun h' ok' hfinished => by
    obtain ⟨rfl, -⟩ | ⟨-, hold⟩ := KeyMap.get?_set_some hfinished
    · exact hserved
    · exact hR.numbered h' ok' hold
  peers := hR.peers
  jobs := fun h' j hj =>
    (hR.jobs h' j (update_drop hj).2).mono rfl (.refl _) (fun _ _ _ hk _ => hk) (Nat.le_refl _) fun _ => id
  distinct := fun h₁ h₂ k h₁k h₂k => hR.distinct h₁ h₂ k (update_drop h₁k).2 (update_drop h₂k).2

/-- The critical section of `ClosePeer` takes out the entry of its call. -/
theorem lookup_peers {pm : PeerManager} {peers : Finset String} (hpeers : ∀ id, id ∈ peers ↔ (pm.storedPc id).isSome = true)
    {k : Nat} {closer : Node.Closer} (id : String) :
    id ∈ peers.erase closer.callId ↔ ((pm.lookup k closer).storedPc id).isSome = true := by
  rw [PeerManager.storedPc_lookup, Finset.mem_erase, hpeers]
  by_cases hid : id = closer.callId
  · rw [if_pos hid]
    exact iff_of_false (fun h => h.1 hid) nofun
  · rw [if_neg hid]
    exact and_iff_right hid

/-- A command takes effect, here and in the agreement. -/
theorem Represents.took (hR : Represents s w) {params : InvokeParams} {ok : Bool} {peers : Finset String}
    (hsent : s.inflight.get? h = some params) (hex : Agreement.Executes params ok w.peers peers) {node : PeerManager}
    (hwf : WellFormed node) (hconns : Grown s.node.conns node.conns)
    (hclosers : ∀ h' k closer, h' ≠ h → s.jobs h' = some (.hangingUp k) → s.node.closers k = some closer → closer.phase = .lookup →
      node.closers k = some closer)
    (hpeers : ∀ id, id ∈ peers ↔ (node.storedPc id).isSome = true) {job : Option Job}
    (hjob : ∀ j, job = some j → j = .returning ok ∨ ok = true ∧ ∃ k, j = .closing k) :
    ∃ w', Agreement.Step config w (.execute h ok) w' ∧ Represents {s.took h job with node := node} w' := by
  have hsent' : w.inflight.get? h = some params := hR.inflight ▸ hsent
  have hserved : h < s.plugin.served := hR.plugin ▸ hR.known.numbered h _ hsent'
  have hstep : Agreement.Step config w (.execute h ok) _ := .execute hsent' hex
  refine ⟨_, hstep, ?_⟩
  constructor
  · exact Agreement.step_known hR.known hstep
  · exact hwf
  · exact hR.plugin
  · show w.inflight.delete h = s.inflight.delete h
    rw [hR.inflight]
  · intro h' ok' hfinished
    have hne : h' ≠ h := by
      rintro rfl
      exact nomatch (hR.unfinished h' params hsent).symm.trans hfinished
    exact (KeyMap.get?_set_ne _ _ hne).trans (hR.finished h' ok' hfinished)
  · exact fun h' params' hsent' => hR.unfinished h' params' (KeyMap.get?_delete_some hsent').2
  · exact hR.numbered
  · exact hpeers
  · intro h' j hj
    obtain ⟨rfl, hself⟩ | ⟨hne, hold⟩ := update_some hj
    · have hnone : (s.inflight.delete h').get? h' = none := KeyMap.get?_delete_self ..
      have hdone : (w.finished.set h' ok).get? h' = some ok := KeyMap.get?_set_self ..
      obtain rfl | ⟨rfl, k, rfl⟩ := hjob j hself <;> exact ⟨hnone, hserved, hdone⟩
    · have hin : (s.inflight.delete h).get? h' = s.inflight.get? h' := KeyMap.get?_delete_ne _ hne
      refine (hR.jobs h' j hold).mono hin hconns ?_ (Nat.le_refl _) fun ok' hdone => (KeyMap.get?_set_ne _ _ hne).trans hdone
      rintro k closer rfl hk hphase
      exact hclosers h' k closer hne hold hk hphase
  · intro h₁ h₂ k h₁k h₂k
    have hnot : job ≠ some (.hangingUp k) := fun he => by
      obtain h | ⟨-, k', h⟩ := hjob _ he <;> cases h
    obtain ⟨-, hself⟩ | ⟨-, hold₁⟩ := update_some h₁k
    · exact absurd hself hnot
    · obtain ⟨-, hself⟩ | ⟨-, hold₂⟩ := update_some h₂k
      · exact absurd hself hnot
      · exact hR.distinct h₁ h₂ k hold₁ hold₂

/-- A callback takes out the entry of its call. -/
theorem Represents.lost (hR : Represents s w) {k : Nat} {closer : Node.Closer} (hk : s.node.closers k = some closer)
    (hphase : closer.phase = .lookup) (hfree : ∀ h, s.jobs h ≠ some (.hangingUp k)) :
    Represents {s with node := s.node.lookup k closer} {w with peers := w.peers.erase closer.callId} := by
  have hlost : Agreement.Step {} w (.lost closer.callId) _ := .lost
  constructor
  · exact Agreement.step_known hR.known hlost
  · exact PeerManager.step_wellFormed hR.wellFormed (.lookup hk hphase)
  · exact hR.plugin
  · exact hR.inflight
  · exact hR.finished
  · exact hR.unfinished
  · exact hR.numbered
  · exact lookup_peers hR.peers
  · intro h job hjob
    refine (hR.jobs h job hjob).mono rfl ((PeerManager.lookup_same s.node k closer).1 ▸ .refl _) ?_ (Nat.le_refl _) fun _ => id
    rintro k' closer' rfl hk' _
    have hne : k' ≠ k := by
      rintro rfl
      exact hfree h hjob
    rw [PeerManager.lookup_closers]
    exact (Function.update_of_ne hne _ _).trans hk'
  · exact hR.distinct

theorem Represents.heard (hR : Represents s w) {l : Plugin.Label} (hheard : s.Heard l) : Agreement.Heard w l := by
  cases l with
  | request | stop => trivial
  | resume h outcome now =>
    cases outcome with
    | resolved r => exact fun hok => hR.finished h true (hheard hok)
    | noNode | rejected => trivial

/-- The plugin goes on, and its new commands are under way. -/
theorem Represents.sent (hR : Represents s w) {l : Plugin.Label} {p : Plugin.World} (hp : Plugin.Step config s.plugin l p)
    (hheard : s.Heard l) : Represents {s with plugin := p, inflight := send s.inflight (news s.plugin.state.log p)}
      {w with plugin := p, inflight := send w.inflight (news w.plugin.state.log p)} := by
  constructor
  · exact Agreement.step_known hR.known (.plugin (hR.plugin ▸ hp) (hR.heard hheard))
  · exact hR.wellFormed
  · rfl
  · show send w.inflight (news w.plugin.state.log p) = send s.inflight (news s.plugin.state.log p)
    rw [hR.inflight, hR.plugin]
  · exact hR.finished
  · intro h params hsent
    obtain hold | ⟨r, hr, -⟩ := Agreement.send_mem hsent
    · exact hR.unfinished h params hold
    · -- the numbers of new handlers are new
      obtain ⟨rfl, -⟩ := Agreement.news_invoke hp hr
      cases hget : s.finished.get? s.plugin.served with
      | none => rfl
      | some ok => exact absurd (hR.numbered _ ok hget) (Nat.lt_irrefl _)
  · exact fun h ok hfinished => Nat.lt_of_lt_of_le (hR.numbered h ok hfinished) hp.served_le
  · exact hR.peers
  · intro h job hjob
    have hfits := hR.jobs h job hjob
    have hin : (send s.inflight (news s.plugin.state.log p)).get? h = s.inflight.get? h :=
      Agreement.send_other (fun h' r hr => (Agreement.news_invoke hp hr).1) (Nat.ne_of_lt (hR.served hfits))
    exact hfits.mono hin (.refl _) (fun _ _ _ hk _ => hk) hp.served_le fun _ => id
  · exact hR.distinct

/-! ### A run of the site is a run of the agreement -/

/-- What a step is in the agreement. -/
def performed : Label → List Agreement.Label
  | .plugin l => [.plugin l]
  | .effect h ok => [.execute h ok]
  | .callback _ callId => [.lost callId]
  | .begin _ | .returned _ | .node _ => []

/-- Only a callback loses a connection. -/
theorem lost_performed {callId : String} {l : Label} (h : .lost callId ∈ performed l) : ∃ k, l = .callback k callId := by
  cases l with
  | callback k id =>
    cases List.mem_singleton.mp h
    exact ⟨k, rfl⟩
  | plugin | effect => cases List.mem_singleton.mp h
  | begin | returned | node => cases h

theorem initially : Represents ⟨.new config, .empty, fun _ => none, .empty, .new loopbackSec⟩
    ⟨.new config, .empty, .empty, ∅⟩ where
  known := Agreement.run_known (.nil rfl)
  wellFormed := PeerManager.run_wellFormed (.nil rfl)
  plugin := rfl
  inflight := rfl
  finished := nofun
  unfinished := fun _ _ _ => rfl
  numbered := nofun
  peers := fun id => iff_of_false (Finset.notMem_empty id) nofun
  jobs := nofun
  distinct := nofun

/-- `AcceptCall` begins with a connection of its own. -/
theorem Represents.accepting (hR : Represents s w) {callId sdp : String} {servers : List IceServer} {node : PeerManager}
    (hsent : s.inflight.get? h = some (.accept callId sdp servers)) (hs : PeerManager.Step s.node (.accept callId) node) :
    Represents {s.setJob h (some (.accepting s.node.created)) with node := node} w := by
  have hbegun := hR.goesOn hs nofun nofun
  cases hs with
  | accept =>
    refine hbegun.setJob (fun j hj => ?_) nofun
    cases hj
    exact ⟨callId, sdp, servers, _, hsent, Function.update_self .., rfl⟩

/-- `ClosePeer` begins under a number of its own. -/
theorem Represents.hangingUp (hR : Represents s w) {callId reason : String} {node : PeerManager}
    (hsent : s.inflight.get? h = some (.hangup callId reason)) (hs : PeerManager.Step s.node (.hangup callId) node) :
    Represents {s.setJob h (some (.hangingUp s.node.spawned)) with node := node} w := by
  have hbegun := hR.goesOn hs nofun nofun
  cases hs with
  | hangup =>
    refine hbegun.setJob (fun j hj => ?_) (fun k h' hk hold => ?_)
    · cases hj
      exact ⟨callId, reason, _, hsent, Function.update_self .., rfl, rfl⟩
    · cases hk
      obtain ⟨-, -, closer, -, hcloser, -, -⟩ := hR.jobs h' _ hold
      exact absurd (hR.wellFormed.spawned _ closer hcloser) (Nat.lt_irrefl _)

/-- An accept takes effect where its entry is stored. -/
theorem Represents.stored (hR : Represents s w) {p : Nat} {node : PeerManager} (hjob : s.jobs h = some (.accepting p))
    (hs : PeerManager.Step s.node (.store p) node) :
    ∃ w', Agreement.Step config w (.execute h true) w' ∧
      Represents {s.took h (some (.returning true)) with node := node} w' := by
  obtain ⟨callId, sdp, servers, c, hsent, hc, hid⟩ := hR.jobs h _ hjob
  have hother (k : Nat) : PeerManager.Label.store p ≠ .lookup k := nofun
  have hconns := (PeerManager.step_later hR.wellFormed hs hother).conns
  have hwf := PeerManager.step_wellFormed hR.wellFormed hs
  have hpeers (id : String) : id ∈ insert callId w.peers ↔ (node.storedPc id).isSome = true := by
    cases hs with
    | store hc' =>
      cases hc.symm.trans hc'
      rw [hid, PeerManager.storedPc_store, Finset.mem_insert, hR.peers]
      by_cases h : id = callId
      · rw [if_pos h]
        exact iff_of_true (.inl h) rfl
      · rw [if_neg h]
        exact or_iff_right h
  refine hR.took hsent .accepted hwf hconns
    (fun _ _ _ _ _ hk hphase => step_closers hR.wellFormed hs (hother _) hk hphase) hpeers fun j hj => ?_
  cases hj
  exact .inl rfl

/-- A command takes effect and leaves the map as it is. -/
theorem Represents.kept (hR : Represents s w) {params : InvokeParams} {ok : Bool} (hsent : s.inflight.get? h = some params)
    (hex : Agreement.Executes params ok w.peers w.peers) :
    ∃ w', Agreement.Step config w (.execute h ok) w' ∧ Represents (s.took h (some (.returning ok))) w' := by
  refine hR.took hsent hex hR.wellFormed (.refl _) (fun _ _ _ _ _ hk _ => hk) hR.peers fun j hj => ?_
  cases hj
  exact .inl rfl

/-- A hangup takes effect in the critical section of its `ClosePeer`. -/
theorem Represents.looked (hR : Represents s w) {k : Nat} {node : PeerManager} (hjob : s.jobs h = some (.hangingUp k))
    (hs : PeerManager.Step s.node (.lookup k) node) :
    ∃ w', Agreement.Step config w (.execute h true) w' ∧ Represents {s.took h (some (.closing k)) with node := node} w' := by
  obtain ⟨callId, reason, closer, hsent, hk, rfl, -⟩ := hR.jobs h _ hjob
  have hwf := PeerManager.step_wellFormed hR.wellFormed hs
  cases hs with
  | lookup hk' =>
    cases hk.symm.trans hk'
    refine hR.took hsent .hungUp hwf ((PeerManager.lookup_same s.node k closer).1 ▸ .refl _) ?_ (lookup_peers hR.peers)
      fun j hj => ?_
    · intro h' k' closer' hne hjob' hk'' _
      have hne : k' ≠ k := by
        rintro rfl
        exact hne (hR.distinct h' h k' hjob' hjob)
      rw [PeerManager.lookup_closers]
      exact (Function.update_of_ne hne _ _).trans hk''
    · cases hj
      exact .inr ⟨rfl, k, rfl⟩

theorem simulation (config : WebRtcConfig) (loopbackSec : Nat) : System.Simulation (system config loopbackSec)
    (Agreement.system config) Represents (fun l ks => performed l = ks) where
  init := by
    rintro _ rfl
    exact ⟨_, rfl, initially⟩
  step := by
    intro s l s' w hR hs
    have hexecuted {h : Nat} {ok : Bool} {s' : Site}
        (hstep : ∃ w', Agreement.Step config w (.execute h ok) w' ∧ Represents s' w') :
        ∃ ks w', [Agreement.Label.execute h ok] = ks ∧ (Agreement.system config).Steps w ks w' ∧ Represents s' w' := by
      obtain ⟨w', hstep, hR'⟩ := hstep
      exact ⟨_, w', rfl, .single hstep, hR'⟩
    cases hs with
    | plugin hp hheard => exact ⟨_, _, rfl, .single (.plugin (hR.plugin ▸ hp) (hR.heard hheard)), hR.sent hp hheard⟩
    | accept hsent _ hnode => exact ⟨_, w, rfl, .nil, hR.accepting hsent hnode⟩
    | hangup hsent _ hnode => exact ⟨_, w, rfl, .nil, hR.hangingUp hsent hnode⟩
    | unopened hsent => exact hexecuted (hR.kept hsent .refused)
    | stored hjob hnode => exact hexecuted (hR.stored hjob hnode)
    | @failed h p node hjob hnode =>
      obtain ⟨_, _, _, _, hsent, -, -⟩ := hR.jobs h _ hjob
      exact hexecuted ((hR.goesOn hnode nofun nofun).kept hsent .refused)
    | looked hjob hnode => exact hexecuted (hR.looked hjob hnode)
    | @closed h k hjob =>
      obtain ⟨hnone, hserved, hdone⟩ := hR.jobs h _ hjob
      exact ⟨_, w, rfl, .nil, hR.report hdone hnone hserved⟩
    | candidate hsent _ hfound =>
      exact hexecuted (hR.kept hsent (.candidate fun hok => (hR.peers _).mpr (hfound hok)))
    | @returned h ok hjob =>
      obtain ⟨hnone, hserved, hdone⟩ := hR.jobs h _ hjob
      exact ⟨_, w, rfl, .nil, hR.report hdone hnone hserved⟩
    | callback hk hfree hnode =>
      cases hnode with
      | lookup hk' hphase =>
        cases hk.symm.trans hk'
        exact ⟨_, _, rfl, .single .lost, hR.lost hk hphase hfree⟩
    | node hbackground hnode =>
      refine ⟨_, w, rfl, .nil, hR.goesOn hnode ?_ ?_⟩
      · rintro k rfl
        exact hbackground
      · rintro p rfl
        exact hbackground

end Site

/-- **The peer manager's plugin is the agreement's.** In every run, with the goroutines of
commands and the callbacks of connections in any order, every command takes effect in one of
its steps and every other step changes nothing of what plugin and node agree on. So a call
that is connecting has its entry in the map, if no callback of its connections took it out. -/
theorem commands_refine {config : WebRtcConfig} {loopbackSec : Nat} {ls : List Site.Label} {s : Site}
    (hrun : (Site.system config loopbackSec).Run ls s) :
    ∃ w, (Agreement.system config).Run (ls.flatMap Site.performed) w ∧ w.plugin = s.plugin ∧ w.inflight = s.inflight ∧
      (∀ h ok, s.finished.get? h = some ok → w.finished.get? h = some ok) ∧
      (∀ callId, callId ∈ w.peers ↔ (s.node.storedPc callId).isSome = true) ∧
      ∀ callId c, s.plugin.state.orchestrator.getCall callId = some c → c.state = .connecting →
        (∀ k, .callback k callId ∉ ls) → (s.node.storedPc callId).isSome = true := by
  obtain ⟨kss, w, hperformed, hw, hR⟩ := (Site.simulation config loopbackSec).run hrun
  obtain rfl : ls.map Site.performed = kss :=
    List.forall₂_eq_eq_eq ▸ List.forall₂_map_left_iff.mpr hperformed
  rw [← List.flatMap_def] at hw
  refine ⟨w, hw, hR.plugin, hR.inflight, hR.finished, hR.peers, fun callId c hc hst hnone => ?_⟩
  have hc' : w.plugin.state.orchestrator.getCall callId = some c := hR.plugin ▸ hc
  obtain ⟨-, before, h, w₁, w₂, after, hsplit, -, -, -, -, hpeer⟩ := (Agreement.run_answered hw).connecting callId c hc' hst
  refine (hR.peers callId).mp (hpeer (fun hlost => ?_) ⟨c, hc', by rw [RtcCallRecord.live, hst]; rfl⟩)
  have hmem : .lost callId ∈ ls.flatMap Site.performed := hsplit ▸ List.mem_append_right _ (List.mem_cons_of_mem _ hlost)
  obtain ⟨l, hl, hlost⟩ := List.mem_flatMap.mp hmem
  obtain ⟨k, rfl⟩ := Site.lost_performed hlost
  exact hnone k hl

/-- The one start was asked of the node. -/
def demoOffered : Site :=
  ⟨Plugin.demoWaiting, KeyMap.empty.set 0 (.accept Plugin.demoCall "offer" defaultIceServers), fun _ => none, .empty, .new 0⟩

theorem demoSite_run : ∃ s, (Site.system Plugin.demoConfig 0).Run [.plugin (.request Plugin.demoStart), .begin 0,
    .node (.register 0), .effect 0 true, .returned 0, .plugin (.resume 0 Plugin.demoAnswer 1)] s ∧
      s.plugin = Agreement.demoAnswered := by
  have hstart : Site.Step Plugin.demoConfig ⟨.new Plugin.demoConfig, .empty, fun _ => none, .empty, .new 0⟩
      (.plugin (.request Plugin.demoStart)) demoOffered := .plugin Plugin.demoWaiting_step trivial
  have hbegin : Site.Step Plugin.demoConfig demoOffered (.begin 0) _ := .accept rfl rfl (.accept (by decide))
  have hbegun := ((System.Run.nil (M := Site.system Plugin.demoConfig 0) rfl).snoc hstart).snoc hbegin
  have hregistered := hbegun.snoc (Site.Step.node (l := .register 0) trivial
    (.register (p := 0) (c := {callId := Plugin.demoCall}) rfl rfl))
  have hstored := hregistered.snoc (Site.Step.stored (h := 0) (p := 0) rfl
    (.store (c := {callId := Plugin.demoCall, stage := .negotiating, registered := true}) rfl rfl))
  have hreturn {t : Site} (h : t.jobs 0 = some (.returning true)) :
      Site.Step Plugin.demoConfig t (.returned 0) (t.report 0 true) := .returned h
  have hreturned := hstored.snoc (hreturn rfl)
  exact ⟨_, hreturned.snoc (Site.Step.plugin (Plugin.demoWaiting_resume Plugin.demoAnswer nofun 1) fun _ => rfl), rfl⟩

theorem commands_refine_demo : ∃ w, (Agreement.system Plugin.demoConfig).Run [.plugin (.request Plugin.demoStart), .execute 0 true,
    .plugin (.resume 0 Plugin.demoAnswer 1)] w ∧ Plugin.demoCall ∈ w.peers := by
  obtain ⟨s, hrun, hplugin⟩ := demoSite_run
  obtain ⟨w, hw, -, -, -, hpeers, hconnecting⟩ := commands_refine hrun
  have hcall : s.plugin.state.orchestrator.getCall Plugin.demoCall =
      some ⟨Plugin.demoCall, "s1", .connecting, "offer", some (.str "answer"), 0, none, none, none, [], [], []⟩ := by
    rw [hplugin]
    rfl
  refine ⟨w, hw, (hpeers _).mpr (hconnecting _ _ hcall rfl fun k hk => ?_)⟩
  simp at hk

end RtcPlugin.Signalling
