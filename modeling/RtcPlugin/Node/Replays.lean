import RtcPlugin.Node.References

/-! Loopbacks and the goroutines that replay them.

A replay goroutine ends when its loopback is stopped, and only `ClosePeer` stops one:
the one that is in the entry it took out. `Held` says that a loopback is still on its
way there. A track whose call has no entry, or has one with a loopback already, breaks
it, and then nothing ever stops the loopback that was lost (`Lost.steps`). -/
namespace RtcPlugin.Node
open PeerManager (WellFormed)

inductive LoopPhase where
  | recording
  | replaying
  | ended
  deriving DecidableEq, Repr

structure Replays where
  pm : PeerManager
  /-- The call that a loopback was made for. -/
  callOf : Nat → Option String
  phase : Nat → LoopPhase
  /-- A `ClosePeer` has taken out an entry of the call. -/
  removed : String → Bool

namespace Replays

def new (loopbackSec : Nat) : Replays := ⟨.new loopbackSec, fun _ => none, fun _ => .recording, fun _ => false⟩

inductive Label where
  | node (l : PeerManager.Label)
  /-- The recording window is over: the replay goroutine is started. -/
  | expire (lb : Nat)
  /-- The goroutine finds its loopback not stopped and writes a packet. -/
  | write (lb : Nat)
  /-- It finds it stopped and returns. -/
  | stopped (lb : Nat)
  /-- A write fails, and it returns. -/
  | writeFails (lb : Nat)
  deriving DecidableEq, Repr

/-- The call of a new loopback. -/
def callOfAfter (r : Replays) : PeerManager.Label → Nat → Option String
  | .track p =>
    match r.pm.conns p with
    | some c => if r.pm.loopbackSec = 0 then r.callOf else Function.update r.callOf r.pm.tracks (some c.callId)
    | none => r.callOf
  | _ => r.callOf

def removedAfter (r : Replays) : PeerManager.Label → String → Bool
  | .lookup k =>
    match r.pm.closers k with
    | some closer =>
      if (r.pm.peers.get? closer.callId).isSome then Function.update r.removed closer.callId true else r.removed
    | none => r.removed
  | _ => r.removed

def setPhase (r : Replays) (lb : Nat) (phase : LoopPhase) : Replays := {r with phase := Function.update r.phase lb phase}

inductive Move (r : Replays) : Label → Replays → Prop where
  | node {l pm'} : PeerManager.Step r.pm l pm' → Move r (.node l) {r with
      pm := pm'
      callOf := r.callOfAfter l
      removed := r.removedAfter l}
  | expire {lb} : r.callOf lb ≠ none → r.phase lb = .recording → Move r (.expire lb) (r.setPhase lb .replaying)
  | write {lb} : r.phase lb = .replaying → r.pm.loopbacks lb ≠ some true → Move r (.write lb) r
  | stopped {lb} : r.phase lb = .replaying → r.pm.loopbacks lb = some true → Move r (.stopped lb) (r.setPhase lb .ended)
  | writeFails {lb} : r.phase lb = .replaying → r.pm.loopbacks lb ≠ some true →
      Move r (.writeFails lb) (r.setPhase lb .ended)

def system (loopbackSec : Nat) : System Replays Label where
  init := (· = new loopbackSec)
  step := Move

/-- The call is over: its entry was taken out, none is in the map, and no `ClosePeer` of it is running. -/
structure Over (r : Replays) (callId : String) : Prop where
  removed : r.removed callId = true
  noEntry : r.pm.peers.get? callId = none
  noCloser : ∀ k closer, r.pm.closers k = some closer → closer.callId ≠ callId

/-- Once a call is over, its loopbacks are stopped, and a goroutine that replays one of them can only return. -/
def Silenced (r : Replays) : Prop := ∀ callId, Over r callId → ∀ lb, r.callOf lb = some callId →
  r.pm.loopbacks lb = some true ∧ (∀ r', ¬ Move r (.write lb) r') ∧
    (r.phase lb = .replaying → Move r (.stopped lb) (r.setPhase lb .ended))

/-- A track finds an entry of its call, without a loopback; and no entry with a loopback is overwritten. -/
def Careful (r : Replays) : Label → Prop
  | .node (.track p) => r.pm.loopbackSec ≠ 0 → ∀ c, r.pm.conns p = some c →
      ∃ e, r.pm.peers.get? c.callId = some e ∧ e.loopback = none
  | .node (.store p) => ∀ c, r.pm.conns p = some c → ∀ e, r.pm.peers.get? c.callId = some e → e.loopback = none
  | _ => True

/-! ### Where a loopback is -/

/-- A loopback of a call is stopped, or in the call's entry, or in one that a `ClosePeer` is about to stop. -/
def Held (pm : PeerManager) (lb : Nat) (callId : String) : Prop :=
  pm.loopbacks lb = some true ∨ (∃ e, pm.peers.get? callId = some e ∧ e.loopback = some lb) ∨
    ∃ k closer e, pm.closers k = some closer ∧ closer.callId = callId ∧ closer.phase = .stop e ∧ e.loopback = some lb

structure Inv (r : Replays) : Prop where
  wf : WellFormed r.pm
  made : ∀ lb id, r.callOf lb = some id → lb < r.pm.tracks
  held : ∀ lb id, r.callOf lb = some id → Held r.pm lb id

/-- Steps that leave the entries and the loopbacks as they are, and the goroutines that stop one. -/
theorem Held.mono {pm pm' : PeerManager} {lb : Nat} {id : String} (h : Held pm lb id)
    (hloopbacks : pm'.loopbacks = pm.loopbacks) (hpeers : pm'.peers = pm.peers)
    (hclosers : ∀ k cl e, pm.closers k = some cl → cl.phase = .stop e → pm'.closers k = some cl) : Held pm' lb id := by
  obtain h | ⟨e, he, hlb⟩ | ⟨k, cl, e, hk, hid, hph, hlb⟩ := h
  · exact .inl (by rw [hloopbacks, h])
  · exact .inr (.inl ⟨e, by rw [hpeers, he], hlb⟩)
  · exact .inr (.inr ⟨k, cl, e, hclosers k cl e hk hph, hid, hph, hlb⟩)

/-- A stored entry overwrites none with a loopback. -/
theorem Held.store {pm : PeerManager} {lb p : Nat} {callId id : String} (h : Held pm lb id)
    (hcareful : ∀ e, pm.peers.get? callId = some e → e.loopback = none) : Held (pm.store p callId) lb id := by
  obtain h | ⟨e, he, hlb⟩ | h := h
  · exact .inl h
  · refine .inr (.inl ⟨e, ?_, hlb⟩)
    have hne : id ≠ callId := by
      intro heq
      rw [heq] at he
      rw [hcareful e he] at hlb
      cases hlb
    exact (KeyMap.get?_set_ne _ _ hne).trans he
  · exact .inr (.inr h)

/-- A track puts its loopback into an entry without one. -/
theorem Held.onTrack {pm : PeerManager} {lb : Nat} {callId id : String} (h : Held pm lb id) (hmade : lb < pm.tracks)
    (hcareful : pm.loopbackSec ≠ 0 → ∃ e, pm.peers.get? callId = some e ∧ e.loopback = none) :
    Held (pm.onTrack callId) lb id := by
  unfold PeerManager.onTrack
  split
  · exact h
  · next hsec =>
    obtain h | ⟨e, he, hlb⟩ | h := h
    · exact .inl ((Function.update_of_ne (Nat.ne_of_lt hmade) _ _).trans h)
    · obtain ⟨e', he', hnone⟩ := hcareful hsec
      have hne : id ≠ callId := by
        intro heq
        rw [heq, he'] at he
        cases he
        rw [hnone] at hlb
        cases hlb
      exact .inr (.inl ⟨e, (KeyMap.get?_modify_ne _ _ hne).trans he, hlb⟩)
    · exact .inr (.inr h)

theorem onTrack_new {pm : PeerManager} {callId : String} (hsec : pm.loopbackSec ≠ 0) {e : PeerEntry}
    (he : pm.peers.get? callId = some e) : Held (pm.onTrack callId) pm.tracks callId := by
  unfold PeerManager.onTrack
  rw [if_neg hsec]
  refine .inr (.inl ⟨{e with loopback := some pm.tracks}, ?_, rfl⟩)
  show (pm.peers.modify callId _).get? callId = _
  rw [KeyMap.get?_modify_self, he]
  rfl

/-- The entry goes from the map into the hands of the goroutine. -/
theorem Held.lookup {pm : PeerManager} {lb k : Nat} {id : String} {cl : Closer} (h : Held pm lb id)
    (hk : pm.closers k = some cl) (hph : cl.phase = .lookup) : Held (pm.lookup k cl) lb id := by
  have hother : ∀ k' cl' e v, pm.closers k' = some cl' → cl'.phase = .stop e →
      Function.update pm.closers k v k' = some cl' := by
    intro k' cl' e v hk' hph'
    have hne : k' ≠ k := PeerManager.closer_ne hk hk' (by rw [hph', hph]; nofun)
    exact (Function.update_of_ne hne _ _).trans hk'
  unfold PeerManager.lookup
  split
  · next entry hentry =>
    obtain h | ⟨e, he, hlb⟩ | ⟨k', cl', e, hk', hid, hph', hlb⟩ := h
    · exact .inl h
    · by_cases heq : id = cl.callId
      · subst heq
        rw [hentry] at he
        cases he
        exact .inr (.inr ⟨k, {cl with phase := .stop entry}, entry, Function.update_self .., rfl, rfl, hlb⟩)
      · exact .inr (.inl ⟨e, (KeyMap.get?_delete_ne _ heq).trans he, hlb⟩)
    · exact .inr (.inr ⟨k', cl', e, hother k' cl' e _ hk' hph', hid, hph', hlb⟩)
  · exact h.mono rfl rfl fun k' cl' e hk' hph' => hother k' cl' e _ hk' hph'

theorem stopLoopback_self (pm : PeerManager) {entry : PeerEntry} {lb : Nat} (h : entry.loopback = some lb) :
    (pm.stopLoopback entry).loopbacks lb = some true := by
  rw [PeerManager.stopLoopback, h]
  exact Function.update_self ..

theorem stopLoopback_ne (pm : PeerManager) {entry : PeerEntry} {lb : Nat} (h : entry.loopback ≠ some lb) :
    (pm.stopLoopback entry).loopbacks lb = pm.loopbacks lb := by
  unfold PeerManager.stopLoopback
  split
  · next n hn =>
    refine Function.update_of_ne (fun heq => h ?_) _ _
    rw [hn, heq]
  · rfl

/-- The goroutine stops the loopback in its hands. -/
theorem Held.stop {pm : PeerManager} {lb k : Nat} {id : String} {cl cl' : Closer} {entry : PeerEntry} (h : Held pm lb id)
    (hk : pm.closers k = some cl) (hph : cl.phase = .stop entry) :
    Held ((pm.stopLoopback entry).setCloser k (some cl')) lb id := by
  obtain ⟨-, -, hclosers, hpeers, -⟩ := PeerManager.stopLoopback_same pm entry
  obtain h | ⟨e, he, hlb⟩ | ⟨k', c, e, hk', hid, hph', hlb⟩ := h
  · refine .inl ?_
    by_cases hentry : entry.loopback = some lb
    · exact stopLoopback_self pm hentry
    · exact (stopLoopback_ne pm hentry).trans h
  · refine .inr (.inl ⟨e, ?_, hlb⟩)
    show (pm.stopLoopback entry).peers.get? id = _
    rw [hpeers, he]
  · by_cases hkk : k' = k
    · rw [hkk, hk] at hk'
      cases hk'
      rw [hph] at hph'
      cases hph'
      exact .inl (stopLoopback_self pm hlb)
    · refine .inr (.inr ⟨k', c, e, ?_, hid, hph', hlb⟩)
      show Function.update (pm.stopLoopback entry).closers k _ k' = _
      rw [hclosers, Function.update_of_ne hkk, hk']

/-- What a step does to where a loopback is, if the step is careful. -/
theorem step_held {r : Replays} {l : PeerManager.Label} {pm' : PeerManager} (hI : Inv r)
    (hcareful : Careful r (.node l)) (h : PeerManager.Step r.pm l pm') : ∀ lb id, r.callOfAfter l lb = some id →
      lb < pm'.tracks ∧ Held pm' lb id := by
  intro lb id hlb
  have hW := hI.wf
  cases h with
  | track hc hr =>
    rename_i p c
    rw [callOfAfter, hc] at hlb
    dsimp only at hlb
    by_cases hsec : r.pm.loopbackSec = 0
    · rw [if_pos hsec] at hlb
      have hsame : r.pm.onTrack c.callId = r.pm := if_pos hsec
      rw [hsame]
      exact ⟨hI.made lb id hlb, hI.held lb id hlb⟩
    · rw [if_neg hsec] at hlb
      have htracks : (r.pm.onTrack c.callId).tracks = r.pm.tracks + 1 := by
        unfold PeerManager.onTrack
        rw [if_neg hsec]
      rw [htracks]
      obtain ⟨rfl, heq⟩ | ⟨_, hold⟩ := update_some hlb
      · cases heq
        obtain ⟨e, he, _⟩ := hcareful hsec c hc
        exact ⟨Nat.lt_succ_self _, onTrack_new hsec he⟩
      · have hmade := hI.made lb id hold
        exact ⟨Nat.lt_succ_of_lt hmade, (hI.held lb id hold).onTrack hmade fun hsec => hcareful hsec c hc⟩
  | accept => exact ⟨hI.made lb id hlb, (hI.held lb id hlb).mono rfl rfl fun _ _ _ hk _ => hk⟩
  | register => exact ⟨hI.made lb id hlb, (hI.held lb id hlb).mono rfl rfl fun _ _ _ hk _ => hk⟩
  | @acceptFails p c hc hs =>
    obtain ⟨hloopbacks, htracks, hpeers⟩ := PeerManager.closePc_same r.pm p
    refine ⟨?_, (hI.held lb id hlb).mono hloopbacks hpeers fun _ _ _ hk _ => PeerManager.closePc_closers hW hk⟩
    show lb < (r.pm.closePc p).tracks
    rw [htracks]
    exact hI.made lb id hlb
  | store hc hs => exact ⟨hI.made lb id hlb, (hI.held lb id hlb).store fun e he => hcareful _ hc e he⟩
  | stateChange hc hr =>
    obtain ⟨hloopbacks, htracks, hpeers⟩ := PeerManager.changeState_same r.pm _ _ _
    rw [htracks]
    exact ⟨hI.made lb id hlb, (hI.held lb id hlb).mono hloopbacks hpeers fun _ _ _ hk _ =>
      PeerManager.changeState_closers hW hk⟩
  | hangup =>
    exact ⟨hI.made lb id hlb, (hI.held lb id hlb).mono rfl rfl fun _ _ _ hk _ => PeerManager.spawn_closers hW hk⟩
  | @lookup k cl hk hph =>
    have htracks : (r.pm.lookup k cl).tracks = r.pm.tracks := by
      unfold PeerManager.lookup
      split <;> rfl
    rw [htracks]
    exact ⟨hI.made lb id hlb, (hI.held lb id hlb).lookup hk hph⟩
  | @stop k cl entry hk hph =>
    obtain ⟨-, -, -, -, htracks⟩ := PeerManager.stopLoopback_same r.pm entry
    refine ⟨?_, (hI.held lb id hlb).stop hk hph⟩
    show lb < (r.pm.stopLoopback entry).tracks
    rw [htracks]
    exact hI.made lb id hlb
  | @close k cl entry hk hph =>
    obtain ⟨hloopbacks, htracks, hpeers⟩ := PeerManager.closePc_same r.pm entry.pc
    refine ⟨?_, (hI.held lb id hlb).mono hloopbacks hpeers fun k' cl' e hk' hph' => ?_⟩
    · show lb < (r.pm.closePc entry.pc).tracks
      rw [htracks]
      exact hI.made lb id hlb
    · have hne : k' ≠ k := PeerManager.closer_ne hk hk' (by rw [hph', hph]; nofun)
      exact (Function.update_of_ne hne _ _).trans (PeerManager.closePc_closers hW hk')

theorem Inv.move {r r' : Replays} {l : Label} (hI : Inv r) (h : Move r l r') (hcareful : Careful r l) : Inv r' := by
  cases h with
  | node hstep =>
    have hheld := step_held hI hcareful hstep
    exact ⟨PeerManager.step_wellFormed hI.wf hstep, fun lb id hlb => (hheld lb id hlb).1, fun lb id hlb => (hheld lb id hlb).2⟩
  | expire | write | stopped | writeFails => exact ⟨hI.wf, hI.made, hI.held⟩

theorem run_inv {loopbackSec : Nat} {ls : List Label} {r : Replays}
    (h : ((system loopbackSec).restrict Careful).Run ls r) : Inv r := by
  refine h.invariant (I := fun _ r => Inv r) ?_ fun _ _ _ _ _ hI hstep => ?_
  · intro r hr
    obtain rfl : r = new loopbackSec := hr
    exact ⟨PeerManager.run_wellFormed (.nil rfl), (fun _ _ h => nomatch h), (fun _ _ h => nomatch h)⟩
  · exact hI.move hstep.1 hstep.2

/-- What is held is stopped once the call is over. -/
theorem Inv.silenced {r : Replays} (hI : Inv r) : Silenced r := by
  intro callId hover lb hlb
  have hstopped : r.pm.loopbacks lb = some true := by
    obtain h | ⟨e, he, _⟩ | ⟨k, cl, _, hk, hid, _⟩ := hI.held lb callId hlb
    · exact h
    · rw [hover.noEntry] at he
      cases he
    · exact absurd hid (hover.noCloser k cl hk)
  refine ⟨hstopped, fun r' h => ?_, fun hphase => .stopped hphase hstopped⟩
  cases h with
  | write _ hnot => exact hnot hstopped

/-- **Where every step is careful, stopping a call stops its replays.** -/
theorem replays_silenced {loopbackSec : Nat} {ls : List Label} {r : Replays}
    (h : ((system loopbackSec).restrict Careful).Run ls r) : Silenced r :=
  (run_inv h).silenced

/-- A call with a loopback whose window is over, and a hangup. -/
theorem replays_silenced_hangup : ∃ r, ((system 5).restrict Careful).Run
    [.node (.accept "call-0001"), .node (.register 0), .node (.store 0), .node (.track 0), .expire 0,
      .node (.hangup "call-0001"), .node (.lookup 0), .node (.stop 0), .node (.close 0), .node (.lookup 1)] r ∧
      Silenced r ∧ Over r "call-0001" ∧ r.callOf 0 = some "call-0001" := by
  have h₀ : ((system 5).restrict Careful).Run [] (new 5) := .nil rfl
  have h₁ := h₀.snoc ⟨show Move _ (.node (.accept "call-0001")) _ from .node (.accept (by decide)), trivial⟩
  have h₂ := h₁.snoc ⟨show Move _ (.node (.register 0)) _ from .node (.register rfl rfl), trivial⟩
  have h₃ := h₂.snoc ⟨show Move _ (.node (.store 0)) _ from .node (.store rfl rfl), fun c hc e he => by
    cases hc
    cases he⟩
  have h₄ := h₃.snoc ⟨show Move _ (.node (.track 0)) _ from .node (.track rfl rfl), fun _ c hc => by
    cases hc
    exact ⟨⟨0, none⟩, rfl, rfl⟩⟩
  have h₅ := h₄.snoc ⟨show Move _ (.expire 0) _ from .expire (by decide) rfl, trivial⟩
  have h₆ := h₅.snoc ⟨show Move _ (.node (.hangup "call-0001")) _ from .node .hangup, trivial⟩
  have h₇ := h₆.snoc ⟨show Move _ (.node (.lookup 0)) _ from .node (.lookup rfl rfl), trivial⟩
  have h₈ := h₇.snoc ⟨show Move _ (.node (.stop 0)) _ from .node (.stop rfl rfl), trivial⟩
  have h₉ := h₈.snoc ⟨show Move _ (.node (.close 0)) _ from .node (.close rfl rfl), trivial⟩
  have h₁₀ := h₉.snoc ⟨show Move _ (.node (.lookup 1)) _ from .node (.lookup rfl rfl), trivial⟩
  refine ⟨_, h₁₀, replays_silenced h₁₀, ⟨rfl, rfl, fun k closer hk => ?_⟩, rfl⟩
  match k with
  | 0 | 1 | k + 2 => cases hk

/-! ### Lost loopbacks -/

/-- A loopback that is not stopped, and in no entry that a `ClosePeer` can take out or is about to stop. -/
structure Lost (pm : PeerManager) (lb : Nat) : Prop where
  made : lb < pm.tracks
  running : pm.loopbacks lb ≠ some true
  entries : ∀ id e, pm.peers.get? id = some e → e.loopback ≠ some lb
  closers : ∀ k cl e, pm.closers k = some cl → cl.phase = .stop e → e.loopback ≠ some lb

/-- Steps that leave the entries and the loopbacks as they are, and bring no goroutine that stops one. -/
theorem Lost.mono {pm pm' : PeerManager} {lb : Nat} (h : Lost pm lb) (htracks : pm'.tracks = pm.tracks)
    (hloopbacks : pm'.loopbacks = pm.loopbacks) (hpeers : pm'.peers = pm.peers)
    (hclosers : ∀ k cl e, pm'.closers k = some cl → cl.phase = .stop e → pm.closers k = some cl) : Lost pm' lb := by
  refine ⟨by rw [htracks]; exact h.made, by rw [hloopbacks]; exact h.running, fun id e he => ?_, fun k cl e hk hph => ?_⟩
  · rw [hpeers] at he
    exact h.entries id e he
  · exact h.closers k cl e (hclosers k cl e hk hph) hph

theorem spawn_stops {pm : PeerManager} {callId : String} {cause : Option Nat} {k : Nat} {cl : Closer} {e : PeerEntry}
    (hk : (pm.spawn callId cause).closers k = some cl) (hph : cl.phase = .stop e) : pm.closers k = some cl := by
  obtain ⟨_, rfl⟩ | ⟨_, hk⟩ := update_put hk
  · cases hph
  · exact hk

theorem changeState_stops {pm : PeerManager} {p : Nat} {c : Conn} {st : PcState} {k : Nat} {cl : Closer} {e : PeerEntry}
    (hk : (pm.changeState p c st).closers k = some cl) (hph : cl.phase = .stop e) : pm.closers k = some cl := by
  unfold PeerManager.changeState at hk
  split at hk
  · exact spawn_stops hk hph
  · exact hk

theorem closePc_stops {pm : PeerManager} {p k : Nat} {cl : Closer} {e : PeerEntry}
    (hk : (pm.closePc p).closers k = some cl) (hph : cl.phase = .stop e) : pm.closers k = some cl := by
  unfold PeerManager.closePc at hk
  split at hk
  · split at hk
    · exact hk
    · exact changeState_stops hk hph
  · exact hk

theorem Lost.onTrack {pm : PeerManager} {lb : Nat} (h : Lost pm lb) (callId : String) : Lost (pm.onTrack callId) lb := by
  unfold PeerManager.onTrack
  split
  · exact h
  · refine ⟨Nat.lt_succ_of_lt h.made, ?_, fun id e he => ?_, h.closers⟩
    · show Function.update pm.loopbacks pm.tracks _ lb ≠ _
      rw [Function.update_of_ne (Nat.ne_of_lt h.made)]
      exact h.running
    · change (pm.peers.modify callId _).get? id = some e at he
      by_cases hid : id = callId
      · subst hid
        rw [KeyMap.get?_modify_self] at he
        obtain ⟨e', _, rfl⟩ := Option.map_eq_some_iff.mp he
        exact fun heq => Nat.ne_of_gt h.made (Option.some.inj heq)
      · rw [KeyMap.get?_modify_ne _ _ hid] at he
        exact h.entries id e he

theorem Lost.lookup {pm : PeerManager} {lb : Nat} (h : Lost pm lb) (k : Nat) (cl : Closer) : Lost (pm.lookup k cl) lb := by
  unfold PeerManager.lookup
  split
  · next entry hentry =>
    refine ⟨h.made, h.running, fun id e he => h.entries id e (KeyMap.get?_delete_some he).2, fun k' cl' e hk' hph' => ?_⟩
    obtain ⟨_, rfl⟩ | ⟨_, hk'⟩ := update_put hk'
    · cases hph'
      exact h.entries _ entry hentry
    · exact h.closers k' cl' e hk' hph'
  · exact h.mono rfl rfl rfl fun _ _ _ hk' _ => (update_drop hk').2

theorem Lost.stop {pm : PeerManager} {lb k : Nat} (h : Lost pm lb) {cl : Closer} {entry : PeerEntry}
    (hk : pm.closers k = some cl) (hph : cl.phase = .stop entry) :
    Lost ((pm.stopLoopback entry).setCloser k (some {cl with phase := .close entry})) lb := by
  obtain ⟨-, -, hclosers, hpeers, htracks⟩ := PeerManager.stopLoopback_same pm entry
  have hloopbacks := stopLoopback_ne pm (h.closers k cl entry hk hph)
  refine ⟨?_, ?_, fun id e he => ?_, fun k' cl' e hk' hph' => ?_⟩
  · show lb < (pm.stopLoopback entry).tracks
    rw [htracks]
    exact h.made
  · show (pm.stopLoopback entry).loopbacks lb ≠ _
    rw [hloopbacks]
    exact h.running
  · change (pm.stopLoopback entry).peers.get? id = some e at he
    rw [hpeers] at he
    exact h.entries id e he
  · change Function.update (pm.stopLoopback entry).closers k _ k' = some cl' at hk'
    obtain ⟨_, rfl⟩ | ⟨_, hk'⟩ := update_put hk'
    · cases hph'
    · rw [hclosers] at hk'
      exact h.closers k' cl' e hk' hph'

/-- A lost loopback stays lost: whatever happens, nothing stops it. -/
theorem lost_stays {pm pm' : PeerManager} {l : PeerManager.Label} {lb : Nat} (h : Lost pm lb) (hstep : PeerManager.Step pm l pm') :
    Lost pm' lb := by
  cases hstep with
  | accept => exact h.mono rfl rfl rfl fun _ _ _ hk _ => hk
  | register => exact h.mono rfl rfl rfl fun _ _ _ hk _ => hk
  | @acceptFails p c hc hs =>
    obtain ⟨hloopbacks, htracks, hpeers⟩ := PeerManager.closePc_same pm p
    exact h.mono htracks hloopbacks hpeers fun _ _ _ hk hph => closePc_stops hk hph
  | store hc hs =>
    refine ⟨h.made, h.running, fun id e he => ?_, h.closers⟩
    obtain ⟨_, rfl⟩ | ⟨_, he⟩ := KeyMap.get?_set_some he
    · exact fun heq => nomatch heq
    · exact h.entries id e he
  | stateChange hc hr =>
    obtain ⟨hloopbacks, htracks, hpeers⟩ := PeerManager.changeState_same pm _ _ _
    exact h.mono htracks hloopbacks hpeers fun _ _ _ hk hph => changeState_stops hk hph
  | track => exact h.onTrack _
  | hangup => exact h.mono rfl rfl rfl fun _ _ _ hk hph => spawn_stops hk hph
  | lookup => exact h.lookup _ _
  | stop hk hph => exact h.stop hk hph
  | @close k cl entry hk hph =>
    obtain ⟨hloopbacks, htracks, hpeers⟩ := PeerManager.closePc_same pm entry.pc
    exact h.mono htracks hloopbacks hpeers fun _ _ _ hk' hph' => closePc_stops (update_drop hk').2 hph'

theorem Lost.steps {loopbackSec lb : Nat} {pm pm' : PeerManager} {ls : List PeerManager.Label} (h : Lost pm lb)
    (hsteps : (PeerManager.system loopbackSec).Steps pm ls pm') : Lost pm' lb :=
  hsteps.invariant (I := fun pm => Lost pm lb) (fun _ _ _ h hstep => lost_stays h hstep) h

/-- A track without an entry of its call loses its loopback. -/
theorem track_loses {pm : PeerManager} {callId : String} (hsec : pm.loopbackSec ≠ 0) (hnone : pm.peers.get? callId = none)
    (hold : ∀ id e, pm.peers.get? id = some e → e.loopback ≠ some pm.tracks)
    (hclosers : ∀ k cl e, pm.closers k = some cl → cl.phase = .stop e → e.loopback ≠ some pm.tracks) :
    Lost (pm.onTrack callId) pm.tracks := by
  unfold PeerManager.onTrack
  rw [if_neg hsec]
  refine ⟨Nat.lt_succ_self _, ?_, fun id e he => ?_, hclosers⟩
  · show Function.update pm.loopbacks pm.tracks _ pm.tracks ≠ _
    rw [Function.update_self]
    decide
  · change (pm.peers.modify callId _).get? id = some e at he
    have hne : id ≠ callId := by
      intro heq
      rw [heq, KeyMap.get?_modify_self, hnone] at he
      cases he
    rw [KeyMap.get?_modify_ne _ _ hne] at he
    exact hold id e he

/-- The track comes before the entry is stored: the hangup stops nothing. -/
theorem early_track_replays : ¬ ∀ loopbackSec ls r, (system loopbackSec).Run ls r → Silenced r := by
  intro hall
  have h₀ : (system 5).Run [] (new 5) := .nil rfl
  have h₁ := h₀.snoc (show Move _ (.node (.accept "call-0001")) _ from .node (.accept (by decide)))
  have h₂ := h₁.snoc (show Move _ (.node (.register 0)) _ from .node (.register rfl rfl))
  have h₃ := h₂.snoc (show Move _ (.node (.track 0)) _ from .node (.track rfl rfl))
  have h₄ := h₃.snoc (show Move _ (.node (.store 0)) _ from .node (.store rfl rfl))
  have h₅ := h₄.snoc (show Move _ (.expire 0) _ from .expire (by decide) rfl)
  have h₆ := h₅.snoc (show Move _ (.node (.hangup "call-0001")) _ from .node .hangup)
  have h₇ := h₆.snoc (show Move _ (.node (.lookup 0)) _ from .node (.lookup rfl rfl))
  have h₈ := h₇.snoc (show Move _ (.node (.stop 0)) _ from .node (.stop rfl rfl))
  have h₉ := h₈.snoc (show Move _ (.node (.close 0)) _ from .node (.close rfl rfl))
  have h₁₀ := h₉.snoc (show Move _ (.node (.lookup 1)) _ from .node (.lookup rfl rfl))
  have hstopped := (hall 5 _ _ h₁₀ "call-0001" ⟨rfl, rfl, fun k closer hk => ?_⟩ 0 rfl).1
  · cases hstopped
  · match k with
    | 0 | 1 | k + 2 => cases hk

end Replays
end RtcPlugin.Node
