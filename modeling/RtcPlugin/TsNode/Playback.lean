import RtcPlugin.Stream.Rounds
import RtcPlugin.TsNode.Cleanup
import RtcPlugin.TsNode.Timers

/-! What a loopback plays.

The packets of a loopback beside the manager that runs it: those in its buffer, and those
that its local track was given. The buffer is what came before the recording was over; the
track is given the buffer over and over, from its start, with the payload type that was
negotiated (`plays_back`). While its call keeps it and no write fails, a loopback goes on
(`keeps_playing`). -/
namespace RtcPlugin.TsNode

/-- A packet: the payload type in its header, and the rest. -/
structure RtpPacket (α : Type) where
  payloadType : Nat
  rest : α
  deriving DecidableEq, Repr

/-- `if (payloadType != null) rtp.header.payloadType = payloadType` -/
def RtpPacket.retype {α : Type} (payloadType : Option Nat) (packet : RtpPacket α) : RtpPacket α :=
  match payloadType with
  | some payloadType => {packet with payloadType := payloadType}
  | none => packet

theorem RtpPacket.retype_retype {α : Type} (payloadType : Option Nat) (packet : RtpPacket α) :
    (packet.retype payloadType).retype payloadType = packet.retype payloadType := by
  cases payloadType <;> rfl

/-- The packets of one `startDelayedLoopback`. -/
structure Reel (α : Type) where
  payloadType : Option Nat := none
  buffer : List (RtpPacket α) := []
  /-- What the local track was given. -/
  written : List (RtpPacket α) := []

namespace Reel
variable {α : Type}

/-- The packet in the buffer is changed, too. Whether `writeRtp` returns is `written`. -/
def writeRtp (r : Reel α) (i : Nat) (written : Bool) : Reel α :=
  match r.buffer[i]? with
  | some packet => {r with
      buffer := r.buffer.set i (packet.retype r.payloadType)
      written := if written then r.written ++ [packet.retype r.payloadType] else r.written}
  | none => r

def playNext (r : Reel α) (d : Media) (s : Loopback) (written : Bool) : Reel α :=
  if !d.has s.callId || s.buffer ≤ s.i then r else r.writeRtp s.i written

def loopOnce (r : Reel α) (d : Media) (s : Loopback) (written : Bool) : Reel α :=
  if d.has s.callId then r.playNext d {s with i := 0} written else r

def replaced (r : Reel α) (d : Media) (s : Loopback) (ok written : Bool) : Reel α :=
  if ok then r.loopOnce d s written else r

def fire (r : Reel α) (d : Media) (t : Timer) (s : Loopback) (written : Bool) : Reel α :=
  match t.kind with
  | .record => r
  | .loopOnce => r.loopOnce d s written
  | .playNext => r.playNext d s written

end Reel

/-! ### The manager with its packets -/

structure Deck (α : Type) where
  manager : RtcPeerManager
  reels : Nat → Reel α

namespace Deck
variable {α : Type}

inductive Label (α : Type) where
  /-- A packet comes, and the subscriber keeps a clone while it records. -/
  | rtp (loop : Nat) (packet : RtpPacket α)
  /-- A timer fires, and the loopback that it is of. -/
  | timer (handle loop : Nat) (written : Bool)
  | replaced (loop : Nat) (ok written : Bool)
  /-- The import settles; the payload type is of the first codec that was negotiated. -/
  | imported (track : Nat) (ok : Bool) (payloadType : Option Nat)
  | other (l : RtcPeerManager.Label)

/-- What the steps of the manager are that no packet is part of. -/
def quiet : RtcPeerManager.Label → Bool
  | .rtp .. | .timer .. | .replaced .. | .imported .. => false
  | _ => true

def setReel (p : Deck α) (k : Nat) (r : Reel α) : Nat → Reel α := Function.update p.reels k r

inductive Step (p : Deck α) : Label α → Deck α → Prop where
  | rtp {k s packet} : p.manager.loops k = some s →
      Step p (.rtp k packet) ⟨{p.manager with toMedia := p.manager.toMedia.onReceiveRtp k s},
        if s.recording then p.setReel k {p.reels k with buffer := (p.reels k).buffer ++ [packet]} else p.reels⟩
  | timer {t s written} : t ∈ p.manager.timers → p.manager.loops t.loop = some s →
      Step p (.timer t.handle t.loop written) ⟨{p.manager with toMedia := p.manager.toMedia.fire t s written},
        p.setReel t.loop ((p.reels t.loop).fire p.manager.toMedia t s written)⟩
  | replaced {k s ok written} : p.manager.loops k = some s → s.switching = true →
      Step p (.replaced k ok written) ⟨{p.manager with toMedia := p.manager.toMedia.replaced k s ok written},
        p.setReel k ((p.reels k).replaced p.manager.toMedia s ok written)⟩
  | imported {j callId ok payloadType} : p.manager.setups j = some callId →
      Step p (.imported j ok payloadType)
        ⟨{p.manager with toMedia := p.manager.toMedia.startDelayedLoopback j callId ok},
          if ok then p.setReel p.manager.registered {payloadType := payloadType} else p.reels⟩
  | other {l m} : quiet l = true → RtcPeerManager.Step p.manager l m → Step p (.other l) {p with manager := m}

def system (α : Type) (loopbackSec : Int) : System (Deck α) (Label α) where
  init := (· = ⟨.new loopbackSec, fun _ => {}⟩)
  step := Step

/-- The manager's part of a step. -/
def Label.manager : Label α → RtcPeerManager.Label
  | .rtp k _ => .rtp k
  | .timer handle _ written => .timer handle written
  | .replaced k ok written => .replaced k ok written
  | .imported j ok _ => .imported j ok
  | .other l => l

theorem Step.manager {p p' : Deck α} {l : Label α} (h : Step p l p') : RtcPeerManager.Step p.manager l.manager p'.manager := by
  cases h with
  | rtp hs => exact .rtp hs
  | timer ht hs => exact .timer ht hs
  | replaced hs hsw => exact .replaced hs hsw
  | imported hj => exact .imported hj
  | other _ h => exact h

/-- A run with packets is a run of the manager. -/
theorem run_manager {loopbackSec : Int} {ls : List (Label α)} {p : Deck α} (h : (system α loopbackSec).Run ls p) :
    (RtcPeerManager.system loopbackSec).Run (ls.map Label.manager) p.manager := by
  refine h.invariant (M := system α loopbackSec)
    (I := fun ls p => (RtcPeerManager.system loopbackSec).Run (ls.map Label.manager) p.manager) ?_ fun ls p l p' _ hI hs => ?_
  · rintro p rfl
    exact .nil rfl
  · rw [List.map_append]
    exact hI.snoc hs.manager

end Deck

/-! ### One loopback -/

section
open Rounds (rounds)

variable {α : Type} {isOver switched : Prop} {heard : List (RtpPacket α)} {d d' : Media} {k : Nat} {s s' : Loopback} {r r' : Reel α}

/-- Where a loopback is: it records, or waits for its track to be switched, or plays. It has
one timer at most. -/
inductive Phase (isOver switched : Prop) (tape : List (RtpPacket α)) (timers : List Timer) (s : Loopback)
    (written : List (RtpPacket α)) : Prop where
  | recording : ¬ isOver → s.recording = true → s.switching = false → s.i = 0 → written = [] → timers.length ≤ 1 →
      (∀ t ∈ timers, t.kind = .record) → Phase isOver switched tape timers s written
  | switching : isOver → s.recording = false → s.switching = true → s.i = 0 → written = [] → timers = [] →
      Phase isOver switched tape timers s written
  | playing (n : Nat) : isOver → s.recording = false → s.switching = false → s.i ≤ tape.length →
      written = rounds n tape ++ tape.take s.i → (written ≠ [] ∨ timers ≠ [] → switched) → timers.length ≤ 1 →
      (∀ t ∈ timers, t.kind = .playNext ∨ t.kind = .loopOnce ∧ s.i = tape.length) → Phase isOver switched tape timers s written

/-- The loopback's packets are those that were heard, as far as they will be written. -/
structure Taped (isOver switched : Prop) (heard : List (RtpPacket α)) (d : Media) (k : Nat) (s : Loopback) (r : Reel α) : Prop where
  length : s.buffer = r.buffer.length
  tape : r.buffer.map (RtpPacket.retype r.payloadType) = heard.map (RtpPacket.retype r.payloadType)
  phase : Phase isOver switched (heard.map (RtpPacket.retype r.payloadType)) (d.timersOf k) s r.written

/-- Something will happen yet, or nothing was heard. -/
def Going (isOver : Prop) (heard : List (RtpPacket α)) (d : Media) (k : Nat) (s : Loopback) : Prop :=
  s.switching = true ∨ d.timersOf k ≠ [] ∨ isOver ∧ heard = []

/-- A loopback that plays, in a callback of its timer. -/
structure Ready (isOver switched : Prop) (heard : List (RtpPacket α)) (n : Nat) (d : Media) (k : Nat) (s : Loopback)
    (r : Reel α) : Prop where
  length : s.buffer = r.buffer.length
  tape : r.buffer.map (RtpPacket.retype r.payloadType) = heard.map (RtpPacket.retype r.payloadType)
  isOver : isOver
  recording : s.recording = false
  switching : s.switching = false
  timers : d.timersOf k = []
  at_most : s.i ≤ heard.length
  written : r.written = rounds n (heard.map (RtpPacket.retype r.payloadType)) ++
    (heard.map (RtpPacket.retype r.payloadType)).take s.i
  switched : switched

theorem Taped.heard_length (h : Taped isOver switched heard d k s r) : s.buffer = heard.length := by
  rw [h.length]
  simpa using congrArg List.length h.tape

/-- `writeRtp` gives the track the packet of that place. -/
theorem Reel.writeRtp_spec {i : Nat} (hi : i < r.buffer.length) (written : Bool) :
    ∃ packet, (r.buffer.map (RtpPacket.retype r.payloadType))[i]? = some packet ∧
      (r.writeRtp i written).payloadType = r.payloadType ∧
      (r.writeRtp i written).buffer.map (RtpPacket.retype r.payloadType) = r.buffer.map (RtpPacket.retype r.payloadType) ∧
      (r.writeRtp i written).written = if written then r.written ++ [packet] else r.written := by
  have hget : r.buffer[i]? = some r.buffer[i] := List.getElem?_eq_getElem hi
  refine ⟨r.buffer[i].retype r.payloadType, by rw [List.getElem?_map, hget]; rfl, ?_⟩
  unfold writeRtp
  rw [hget]
  refine ⟨rfl, ?_, rfl⟩
  -- what is put back is written no other way
  have hlt : i < (r.buffer.map (RtpPacket.retype r.payloadType)).length := by rwa [List.length_map]
  rw [List.map_set, RtpPacket.retype_retype, ← List.getElem_map (RtpPacket.retype r.payloadType) (h := hlt)]
  exact List.set_getElem_self hlt

/-- No timer is armed again. -/
theorem Ready.stops {n : Nat} (h : Ready isOver switched heard n d k s r) : Taped isOver switched heard d k s r where
  length := h.length
  tape := h.tape
  phase := .playing n h.isOver h.recording h.switching (by rw [List.length_map]; exact h.at_most) h.written
    (fun _ => h.switched) (by simp [h.timers]) (by simp [h.timers])

/-- A timer is armed. -/
theorem Ready.arms {n : Nat} (h : Ready isOver switched heard n d k s r) (kind : TimerKind)
    (hkind : kind = .playNext ∨ kind = .loopOnce ∧ s.i = heard.length) :
    ∃ s', (d.setTimeout k s kind).loops k = some s' ∧ s'.callId = s.callId ∧
      Taped isOver switched heard (d.setTimeout k s kind) k s' r ∧ Going isOver heard (d.setTimeout k s kind) k s' := by
  have htimers : (d.setTimeout k s kind).timersOf k = [⟨d.armed, s.callId, k, kind⟩] := by
    rw [Media.timersOf_setTimeout_self, h.timers]
    rfl
  refine ⟨_, Media.setTimeout_self .., rfl, ⟨h.length, h.tape, ?_⟩, .inr (.inl ?_)⟩
  · refine .playing n h.isOver h.recording h.switching (by rw [List.length_map]; exact h.at_most) h.written
      (fun _ => h.switched) (by rw [htimers]; exact Nat.le_refl 1) fun t ht => ?_
    rw [htimers, List.mem_singleton] at ht
    subst ht
    rw [List.length_map]
    exact hkind
  · rw [htimers]
    exact List.cons_ne_nil _ _

/-- What a callback does to its loopback. -/
structure Played (isOver switched : Prop) (heard : List (RtpPacket α)) (callId : String) (has written : Bool) (d' : Media) (k : Nat)
    (r r' : Reel α) : Prop where
  payloadType : r'.payloadType = r.payloadType
  loop : ∃ s', d'.loops k = some s' ∧ s'.callId = callId ∧ Taped isOver switched heard d' k s' r' ∧
    (has = true → written = true → Going isOver heard d' k s')

theorem Ready.playNext {n : Nat} (h : Ready isOver switched heard n d k s r) (hs : d.loops k = some s) (written : Bool) :
    Played isOver switched heard s.callId (d.has s.callId) written (d.playNext k s written) k r (r.playNext d s written) := by
  have hlength : r.buffer.length = heard.length := by
    simpa using congrArg List.length h.tape
  unfold Media.playNext Reel.playNext
  cases hhas : d.has s.callId with
  | false => exact ⟨rfl, s, hs, rfl, h.stops, nofun⟩
  | true =>
    by_cases hi : s.buffer ≤ s.i
    · -- the whole of the buffer has been written
      have hend : s.i = heard.length := Nat.le_antisymm h.at_most (hlength ▸ h.length ▸ hi)
      obtain ⟨s', hs', hcall, htaped, hgoing⟩ := h.arms .loopOnce (.inr ⟨rfl, hend⟩)
      simp only [hi, decide_true, Bool.or_true, if_true]
      exact ⟨rfl, s', hs', hcall, htaped, fun _ _ => hgoing⟩
    · have hlt : s.i < r.buffer.length := h.length ▸ Nat.lt_of_not_le hi
      obtain ⟨packet, hpacket, hpt, hbuffer, hwritten⟩ := Reel.writeRtp_spec hlt written
      rw [h.tape] at hpacket
      simp only [hi, decide_false, Bool.not_true, Bool.or_false]
      refine ⟨hpt, ?_⟩
      have hlen : s.buffer = (r.writeRtp s.i written).buffer.length := by
        rw [h.length]
        simpa using (congrArg List.length hbuffer).symm
      have htape : (r.writeRtp s.i written).buffer.map (RtpPacket.retype (r.writeRtp s.i written).payloadType) =
          heard.map (RtpPacket.retype (r.writeRtp s.i written).payloadType) := by
        rw [hpt, hbuffer, h.tape]
      cases written with
      | false =>
        have hready : Ready isOver switched heard n d k s (r.writeRtp s.i false) :=
          ⟨hlen, htape, h.isOver, h.recording, h.switching, h.timers, h.at_most,
            by rw [hwritten, hpt]; exact h.written, h.switched⟩
        exact ⟨s, hs, rfl, hready.stops, nofun⟩
      | true =>
        have hmore : (heard.map (RtpPacket.retype r.payloadType)).take s.i ++ [packet] =
            (heard.map (RtpPacket.retype r.payloadType)).take (s.i + 1) := by
          rw [List.take_add_one, hpacket]
          rfl
        have hready : Ready isOver switched heard n d k {s with i := s.i + 1} (r.writeRtp s.i true) := by
          refine ⟨hlen, htape, h.isOver, h.recording, h.switching, h.timers, hlength ▸ hlt, ?_, h.switched⟩
          rw [hwritten, hpt, if_pos rfl, h.written, List.append_assoc, hmore]
        obtain ⟨s', hs', hcall, htaped, hgoing⟩ := hready.arms .playNext (.inl rfl)
        exact ⟨s', hs', hcall, htaped, fun _ _ => hgoing⟩

theorem Ready.loopOnce {n : Nat} (h : Ready isOver switched heard n d k {s with i := 0} r) (hs : d.loops k = some s)
    (hold : Taped isOver switched heard d k s r) (written : Bool) :
    Played isOver switched heard s.callId (d.has s.callId) written (d.loopOnce k s written) k r (r.loopOnce d s written) := by
  unfold Media.loopOnce Reel.loopOnce
  cases hhas : d.has s.callId with
  | false => exact ⟨rfl, s, hs, rfl, hold, nofun⟩
  | true =>
    have hset : Ready isOver switched heard n (d.setLoop k {s with i := 0}) k {s with i := 0} r :=
      ⟨h.length, h.tape, h.isOver, h.recording, h.switching, h.timers, h.at_most, h.written, h.switched⟩
    have hplayed := hset.playNext (Media.setLoop_self ..) written
    rw [show (d.setLoop k {s with i := 0}).has s.callId = true from hhas] at hplayed
    exact hplayed

/-- The recording is over. -/
theorem Taped.recorded {isOver₀ : Prop} (h : Taped isOver₀ switched heard d k s r) (hrecording : s.recording = true)
    (htimers : d'.timersOf k = []) (hover : isOver) (written : Bool) :
    Played isOver switched heard s.callId (d'.has s.callId) written (d'.recorded k s) k r r := by
  obtain ⟨-, -, hsw, hi, hnil, -, -⟩ | ⟨-, hno, -⟩ | ⟨_, -, hno, -⟩ := h.phase
  · unfold Media.recorded
    by_cases hbuffer : s.buffer = 0
    · rw [if_pos hbuffer]
      have hheard : heard = [] := List.eq_nil_of_length_eq_zero (h.heard_length ▸ hbuffer)
      have hset (s' : Loopback) : (d'.setLoop k s').timersOf k = [] := htimers
      refine ⟨rfl, _, Media.setLoop_self .., rfl, ⟨h.length, h.tape, ?_⟩, fun _ _ => .inr (.inr ⟨hover, hheard⟩)⟩
      subst hheard
      refine .playing 0 hover rfl hsw (hi ▸ Nat.le_refl 0) ?_ ?_ (by simp [hset]) (by simp [hset])
      · simpa [rounds] using hnil
      · simp [hset, hnil]
    · rw [if_neg hbuffer]
      exact ⟨rfl, _, Media.setLoop_self .., rfl, ⟨h.length, h.tape, .switching hover rfl rfl hi hnil htimers⟩, fun _ _ => .inl rfl⟩
  · rw [hno] at hrecording
    cases hrecording
  · rw [hno] at hrecording
    cases hrecording

/-- A timer of the loopback fires. -/
theorem Taped.fire {isOver₀ : Prop} (h : Taped isOver₀ switched heard d k s r) (hs : d.loops k = some s) {t : Timer}
    (ht : t ∈ d.timers) (hloop : t.loop = k) (hover : isOver) (written : Bool) :
    Played isOver switched heard s.callId (d.has s.callId) written (d.fire t s written) k r (r.fire d t s written) := by
  subst hloop
  have hfired (hone : (d.timersOf t.loop).length ≤ 1) := Media.timersOf_fired ht hone
  obtain ⟨-, hrecording, -, -, -, hone, hkinds⟩ | ⟨-, -, -, -, -, hnone⟩ |
    ⟨n, -, hrecording, hsw, hle, hwritten, hswitched, hone, hkinds⟩ := h.phase
  · obtain ⟨hlist, hgone⟩ := hfired hone
    have hkind : t.kind = .record := hkinds t (hlist ▸ List.mem_singleton_self t)
    have hrecorded := h.recorded hrecording hgone hover written
    unfold Media.fire Reel.fire
    rw [hkind]
    exact hrecorded
  · have hmem : t ∈ d.timersOf t.loop := List.mem_filter.mpr ⟨ht, decide_eq_true rfl⟩
    rw [hnone] at hmem
    cases hmem
  · obtain ⟨hlist, hgone⟩ := hfired hone
    rw [List.length_map] at hle
    have hsw' : switched := hswitched (.inr (hlist ▸ List.cons_ne_nil _ _))
    have hready : Ready isOver switched heard n (d.clearTimeout t.handle) t.loop s r :=
      ⟨h.length, h.tape, hover, hrecording, hsw, hgone, hle, hwritten, hsw'⟩
    unfold Media.fire Reel.fire
    obtain hkind | ⟨hkind, hend⟩ := hkinds t (hlist ▸ List.mem_singleton_self t)
    · rw [hkind]
      exact hready.playNext hs written
    · rw [hkind]
      rw [List.length_map] at hend
      -- a round is complete, and the next one begins
      have hbegin : Ready isOver switched heard (n + 1) (d.clearTimeout t.handle) t.loop {s with i := 0} r := by
        refine ⟨h.length, h.tape, hover, hrecording, hsw, hgone, Nat.zero_le _, ?_, hsw'⟩
        rw [hwritten, Rounds.rounds_snoc, hend, List.take_of_length_le (by rw [List.length_map]), List.take_zero, List.append_nil]
      exact hbegin.loopOnce hs hready.stops written

/-- The track is switched. -/
theorem Taped.replaced {switched₀ : Prop} (h : Taped isOver switched₀ heard d k s r) (hswitching : s.switching = true)
    {ok : Bool} (hswitched : ok = true → switched) (written : Bool) :
    Played isOver switched heard s.callId (d.has s.callId) (ok && written) (d.replaced k s ok written) k r
      (r.replaced d s ok written) := by
  have hset (s' : Loopback) : (d.setLoop k s').timersOf k = d.timersOf k := rfl
  obtain ⟨-, -, hsw, -⟩ | ⟨hover, hrecording, -, hi, hnil, hnone⟩ | ⟨_, -, -, hsw, -⟩ := h.phase
  · rw [hsw] at hswitching
    cases hswitching
  · cases ok with
    | false =>
      have hgone : (d.replaced k s false written).timersOf k = [] := hnone
      refine ⟨rfl, _, Media.setLoop_self .., rfl, ⟨h.length, h.tape, ?_⟩, nofun⟩
      refine .playing 0 hover hrecording rfl (hi ▸ Nat.zero_le _) ?_ ?_ (by simp [hgone]) (by simp [hgone])
      · have hi' : ({s with switching := false} : Loopback).i = 0 := hi
        rw [hi', show (r.replaced d s false written).written = [] from hnil]
        rfl
      · intro hne
        obtain hne | hne := hne
        · exact absurd hnil hne
        · exact absurd hgone hne
    | true =>
      have hready : Ready isOver switched heard 0 (d.setLoop k {s with switching := false}) k
          {s with switching := false, i := 0} r :=
        ⟨h.length, h.tape, hover, hrecording, rfl, (hset _).trans hnone, Nat.zero_le _, hnil, hswitched rfl⟩
      have hold : Ready isOver switched heard 0 (d.setLoop k {s with switching := false}) k {s with switching := false} r := by
        refine ⟨h.length, h.tape, hover, hrecording, rfl, (hset _).trans hnone, ?_, ?_, hswitched rfl⟩
        · show s.i ≤ _
          rw [hi]
          exact Nat.zero_le _
        · show r.written = _ ++ List.take s.i _
          rw [hi]
          exact hnil
      exact hready.loopOnce (Media.setLoop_self ..) hold.stops written
  · rw [hsw] at hswitching
    cases hswitching

/-- A packet comes. -/
theorem Taped.onReceiveRtp (h : Taped isOver switched heard d k s r) (packet : RtpPacket α) :
    (s.recording = true → ¬ isOver ∧ Taped isOver switched (heard ++ [packet]) (d.setLoop k {s with buffer := s.buffer + 1}) k
      {s with buffer := s.buffer + 1} {r with buffer := r.buffer ++ [packet]}) ∧ (s.recording = false → isOver) := by
  constructor
  · intro hrecording
    obtain ⟨hover, -, hsw, hi, hnil, hone, hkinds⟩ | ⟨-, hno, -⟩ | ⟨_, -, hno, -⟩ := h.phase
    · refine ⟨hover, ⟨?_, ?_, .recording hover hrecording hsw hi hnil hone hkinds⟩⟩
      · rw [List.length_append, List.length_singleton, h.length]
      · rw [List.map_append, List.map_append, h.tape]
    · rw [hno] at hrecording
      cases hrecording
    · rw [hno] at hrecording
      cases hrecording
  · intro hrecording
    obtain ⟨-, hyes, -⟩ | ⟨hover, -⟩ | ⟨_, hover, -⟩ := h.phase
    · rw [hyes] at hrecording
      cases hrecording
    · exact hover
    · exact hover

/-- Timers may be cleared. -/
theorem Taped.elsewhere {switched' : Prop} (h : Taped isOver switched heard d k s r) (htimers : (d'.timersOf k).Sublist (d.timersOf k))
    (hswitched : switched → switched') : Taped isOver switched' heard d' k s r := by
  refine ⟨h.length, h.tape, ?_⟩
  have hone (hone : (d.timersOf k).length ≤ 1) : (d'.timersOf k).length ≤ 1 := htimers.length_le.trans hone
  obtain ⟨hover, hrecording, hsw, hi, hnil, hle, hkinds⟩ | ⟨hover, hrecording, hsw, hi, hnil, hnone⟩ |
    ⟨n, hover, hrecording, hsw, hle, hwritten, hswitched', hlen, hkinds⟩ := h.phase
  · exact .recording hover hrecording hsw hi hnil (hone hle) fun t ht => hkinds t (htimers.subset ht)
  · exact .switching hover hrecording hsw hi hnil (List.sublist_nil.mp (hnone ▸ htimers))
  · refine .playing n hover hrecording hsw hle hwritten (fun hne => hswitched (hswitched' ?_)) (hone hlen)
      fun t ht => hkinds t (htimers.subset ht)
    refine hne.imp_right fun hne hnone => hne ?_
    rw [hnone] at htimers
    exact List.sublist_nil.mp htimers

end

namespace Deck
variable {α : Type} {p p' : Deck α} {l : Label α} {ls : List (Label α)} {k : Nat} {s : Loopback}

/-! ### What a run brings a loopback -/

def Label.timerOf (k : Nat) : Label α → Bool
  | .timer _ loop _ => loop = k
  | _ => false

def Label.packetOf (k : Nat) : Label α → Option (RtpPacket α)
  | .rtp loop packet => if loop = k then some packet else none
  | _ => none

/-- The packets that come until the loopback's first timer fires. -/
def heard (k : Nat) (ls : List (Label α)) : List (RtpPacket α) :=
  (Rounds.upTo (Label.timerOf k) ls).filterMap (Label.packetOf k)

def Over (k : Nat) (ls : List (Label α)) : Prop := ∃ l ∈ ls, l.timerOf k = true

/-- The track was switched. -/
def Switched (k : Nat) (ls : List (Label α)) : Prop := ∃ written, .replaced k true written ∈ ls

theorem heard_over (h : Over k ls) (l : Label α) : heard k (ls ++ [l]) = heard k ls := by
  unfold heard
  rw [Rounds.upTo_append_of_some h]

theorem heard_snoc (h : ¬ Over k ls) (l : Label α) : heard k (ls ++ [l]) = heard k ls ++ (l.packetOf k).toList := by
  have hnone : ∀ l ∈ ls, l.timerOf k = false := by
    intro l hl
    by_contra htimer
    exact h ⟨l, hl, eq_true_of_ne_false htimer⟩
  unfold heard
  rw [Rounds.upTo_snoc_of_none hnone, Rounds.upTo_of_none hnone, List.filterMap_append]
  cases hl : l.packetOf k <;> simp [hl]

theorem heard_other (h : l.packetOf k = none) : heard k (ls ++ [l]) = heard k ls := by
  by_cases hover : Over k ls
  · exact heard_over hover l
  · rw [heard_snoc hover, h]
    exact List.append_nil _

theorem over_snoc (l : Label α) : Over k (ls ++ [l]) ↔ Over k ls ∨ l.timerOf k = true := by
  simp [Over, or_and_right, exists_or]

theorem over_other (h : l.timerOf k = false) : Over k (ls ++ [l]) = Over k ls := by
  rw [eq_iff_iff, over_snoc, h]
  simp

theorem Switched.snoc (h : Switched k ls) (l : Label α) : Switched k (ls ++ [l]) :=
  ⟨h.choose, List.mem_append_left _ h.choose_spec⟩

theorem not_over_snoc (h : ¬ Over k ls) (hl : l.timerOf k = false) : ¬ Over k (ls ++ [l]) := by
  rwa [over_other hl]

/-- What a run brought a loopback is what it holds. -/
structure Inv (k : Nat) (ls : List (Label α)) (p : Deck α) : Prop where
  unset : p.manager.loops k = none → heard k ls = [] ∧ ¬ Over k ls ∧ p.manager.toMedia.timersOf k = []
  set : ∀ s, p.manager.loops k = some s → Taped (Over k ls) (Switched k ls) (heard k ls) p.manager.toMedia k s (p.reels k)

/-- A step that is none of the loopback's. -/
theorem Inv.elsewhere (h : Inv k ls p) (hloop : p'.manager.loops k = p.manager.loops k) (hreel : p'.reels k = p.reels k)
    (htimers : (p'.manager.toMedia.timersOf k).Sublist (p.manager.toMedia.timersOf k)) (htimer : l.timerOf k = false)
    (hpacket : l.packetOf k = none) : Inv k (ls ++ [l]) p' := by
  constructor
  · intro hnone
    obtain ⟨hheard, hover, hgone⟩ := h.unset (hloop ▸ hnone)
    exact ⟨(heard_other hpacket).trans hheard, not_over_snoc hover htimer, List.sublist_nil.mp (hgone ▸ htimers)⟩
  · intro s hs
    rw [hreel, heard_other hpacket, over_other htimer]
    exact (h.set s (hloop ▸ hs)).elsewhere htimers fun hsw => hsw.snoc l

theorem Inv.of_taped (hs : p.manager.loops k = some s)
    (h : Taped (Over k ls) (Switched k ls) (heard k ls) p.manager.toMedia k s (p.reels k)) : Inv k ls p := by
  constructor
  · intro hnone
    exact nomatch hs.symm.trans hnone
  · intro s' hs'
    obtain rfl := Option.some.inj (hs.symm.trans hs')
    exact h

/-- A step without packets keeps the loopbacks and adds no timer. -/
theorem quiet_step {m m' : RtcPeerManager} {l : RtcPeerManager.Label} (hs : RtcPeerManager.Step m l m') (hq : quiet l = true) :
    m'.loops = m.loops ∧ m'.armed = m.armed ∧ m'.timers.Sublist m.timers := by
  have hclose (m : RtcPeerManager) (callId : String) : (m.closePeer callId).loops = m.loops ∧
      (m.closePeer callId).armed = m.armed ∧ (m.closePeer callId).timers.Sublist m.timers := by
    refine ⟨Media.closePeer_loops .., (Media.closePeer_counts ..).2.2, ?_⟩
    show (m.toMedia.closePeer callId).timers.Sublist _
    unfold Media.closePeer
    split
    · cases m.toMedia.timerOf callId with
      | none => exact List.Sublist.refl _
      | some handle => exact List.filter_sublist
    · exact List.Sublist.refl _
  cases hs with
  | acceptCall | awaited => exact ⟨rfl, rfl, List.Sublist.refl _⟩
  | track =>
    show (m.toMedia.onTrack _ _).loops = _ ∧ (m.toMedia.onTrack _ _).armed = _ ∧ (m.toMedia.onTrack _ _).timers.Sublist _
    unfold Media.onTrack
    split <;> exact ⟨rfl, rfl, List.Sublist.refl _⟩
  | connectionState =>
    unfold RtcPeerManager.connectionStateChange
    split
    · exact hclose ..
    · exact ⟨rfl, rfl, List.Sublist.refl _⟩
  | closePeer => exact hclose ..
  | closeAll =>
    unfold RtcPeerManager.closeAll
    generalize m.peers.keys = ids
    induction ids generalizing m with
    | nil => exact ⟨rfl, rfl, List.Sublist.refl _⟩
    | cons callId ids ih =>
      obtain ⟨hloops, harmed, htimers⟩ := ih (m := m.closePeer callId)
      obtain ⟨hloops', harmed', htimers'⟩ := hclose m callId
      exact ⟨hloops.trans hloops', harmed.trans harmed', htimers.trans htimers'⟩
  | imported | rtp | timer | replaced => cases hq

theorem setReel_self (p : Deck α) (k : Nat) (r : Reel α) : p.setReel k r k = r := Function.update_self ..

theorem setReel_ne {k' : Nat} {r : Reel α} (h : k' ≠ k) : p.setReel k r k' = p.reels k' := Function.update_of_ne h ..

theorem step_inv (h : Inv k ls p) (hsound : p.manager.Sound) (hs : Step p l p') : Inv k (ls ++ [l]) p' := by
  cases hs with
  | @rtp k' s packet hs =>
    by_cases hk : k = k'
    · subst hk
      obtain ⟨hrecording, hplaying⟩ := (h.set s hs).onReceiveRtp packet
      cases hrec : s.recording with
      | true =>
        obtain ⟨hover, htaped⟩ := hrecording hrec
        have hheard : heard k (ls ++ [.rtp k packet]) = heard k ls ++ [packet] := by
          rw [heard_snoc hover]
          simp [Label.packetOf]
        have hset : p.manager.toMedia.onReceiveRtp k s = p.manager.toMedia.setLoop k {s with buffer := s.buffer + 1} := if_pos hrec
        refine .of_taped (s := {s with buffer := s.buffer + 1}) ?_ ?_
        · show (p.manager.toMedia.onReceiveRtp k s).loops k = _
          rw [hset, Media.setLoop_self]
        · rw [hheard, over_other rfl, hset]
          show Taped _ _ _ _ _ _ (p.setReel k _ k)
          rw [setReel_self]
          exact htaped.elsewhere (List.Sublist.refl _) fun hsw => hsw.snoc _
      | false =>
        have hset : p.manager.toMedia.onReceiveRtp k s = p.manager.toMedia := if_neg (by rw [hrec]; exact Bool.false_ne_true)
        refine .of_taped (s := s) ?_ ?_
        · rw [hset]
          exact hs
        · rw [heard_over (hplaying hrec), over_other rfl, hset]
          exact (h.set s hs).elsewhere (List.Sublist.refl _) fun hsw => hsw.snoc _
    · have helse := Media.elsewhere_onReceiveRtp (d := p.manager.toMedia) (s := s) hk
      refine h.elsewhere helse.loop ?_ (helse.timers ▸ List.Sublist.refl _) rfl (if_neg (Ne.symm hk))
      split
      · exact setReel_ne hk
      · rfl
  | @timer t s written ht hs =>
    by_cases hk : k = t.loop
    · subst hk
      have hover : Over t.loop (ls ++ [.timer t.handle t.loop written]) := (over_snoc _).mpr (.inr (decide_eq_true rfl))
      obtain ⟨-, s', hs', -, htaped, -⟩ := (h.set s hs).fire hs ht rfl hover written
      refine .of_taped hs' ?_
      rw [heard_other rfl]
      show Taped _ _ _ _ _ _ (p.setReel t.loop _ t.loop)
      rw [setReel_self]
      exact htaped.elsewhere (List.Sublist.refl _) fun hsw => hsw.snoc _
    · have helse := Media.elsewhere_fire p.manager.toMedia s written hk
      refine h.elsewhere helse.loop (setReel_ne hk) ?_ (decide_eq_false (Ne.symm hk)) rfl
      rw [helse.timers, Media.timersOf_clearTimeout]
      exact List.filter_sublist
  | @replaced k' s ok written hs hsw =>
    by_cases hk : k = k'
    · subst hk
      have hswitched : ok = true → Switched k (ls ++ [.replaced k ok written]) := by
        rintro rfl
        exact ⟨written, List.mem_append_right _ (List.mem_singleton_self _)⟩
      have hold := (h.set s hs).elsewhere (List.Sublist.refl _) fun hsw => hsw.snoc (.replaced k ok written)
      obtain ⟨-, s', hs', -, htaped, -⟩ := hold.replaced hsw hswitched written
      refine .of_taped hs' ?_
      rw [heard_other rfl, over_other rfl]
      show Taped _ _ _ _ _ _ (p.setReel k _ k)
      rw [setReel_self]
      exact htaped
    · have helse := Media.elsewhere_replaced p.manager.toMedia s ok written hk
      exact h.elsewhere helse.loop (setReel_ne hk) (helse.timers ▸ List.Sublist.refl _) rfl rfl
  | @imported j callId ok payloadType hj =>
    cases ok with
    | false => exact h.elsewhere rfl rfl (List.Sublist.refl _) rfl rfl
    | true =>
      by_cases hk : k = p.manager.registered
      · subst hk
        obtain ⟨hheard, hover, hgone⟩ := h.unset (hsound.media.fresh _ (Nat.le_refl _))
        have htimers : (p.manager.toMedia.startDelayedLoopback j callId true).timersOf p.manager.registered =
            [⟨p.manager.armed, callId, p.manager.registered, .record⟩] := by
          refine (Media.timersOf_setTimeout_self ..).trans ?_
          exact congrArg (· ++ _) hgone
        refine .of_taped (Media.setTimeout_self ..) ?_
        rw [heard_other rfl, over_other rfl, hheard]
        show Taped _ _ _ _ _ _ (p.setReel _ _ _)
        rw [setReel_self]
        refine ⟨rfl, rfl, .recording hover rfl rfl rfl rfl ?_ ?_⟩
        · rw [htimers]
          exact Nat.le_refl 1
        · rw [htimers]
          intro t ht
          rw [List.mem_singleton.mp ht]
      · have htimers : (p.manager.toMedia.startDelayedLoopback j callId true).timersOf k = p.manager.toMedia.timersOf k :=
          Media.timersOf_setTimeout_ne hk
        refine h.elsewhere (Media.setTimeout_ne hk) (setReel_ne hk) ?_ rfl rfl
        rw [htimers]
  | @other l m hq hm =>
    obtain ⟨hloops, -, htimers⟩ := quiet_step hm hq
    exact h.elsewhere (congrFun hloops k) rfl (htimers.filter _) rfl rfl

/-! ### Going on -/

/-- A step without packets clears no timer of a call that keeps its loopback. -/
theorem quiet_kept {m m' : RtcPeerManager} {l : RtcPeerManager.Label} (hsound : m.Sound) (hs : RtcPeerManager.Step m l m')
    (hq : quiet l = true) {callId : String} (hk : m'.loopbacks.get? callId = some k) :
    m.loopbacks.get? callId = some k ∧ ∀ t ∈ m.timers, t.callId = callId → t ∈ m'.timers := by
  have hclose {m : RtcPeerManager} (hsound : m.Sound) {callId' : String}
      (hk : (m.closePeer callId').loopbacks.get? callId = some k) :
      m.loopbacks.get? callId = some k ∧ ∀ t ∈ m.timers, t.callId = callId → t ∈ (m.closePeer callId').timers := by
    obtain ⟨hne, hold⟩ := Media.closePeer_loopbacks_some hk
    refine ⟨hold, fun t ht hcall => (Media.closePeer_timers ..).mpr ⟨ht, fun hof => hne ?_⟩⟩
    exact hcall.symm.trans (hsound.media.owner_timerOf ht hof)
  cases hs with
  | acceptCall | awaited => exact ⟨hk, fun t ht _ => ht⟩
  | track =>
    have hsame (d : Media) (loopbackSec : Int) (callId : String) :
        (d.onTrack loopbackSec callId).loopbacks = d.loopbacks ∧ (d.onTrack loopbackSec callId).timers = d.timers := by
      unfold Media.onTrack
      split <;> exact ⟨rfl, rfl⟩
    obtain ⟨hloopbacks, htimers⟩ := hsame m.toMedia m.loopbackSec _
    exact ⟨hloopbacks ▸ hk, fun t ht _ => htimers ▸ ht⟩
  | connectionState =>
    unfold RtcPeerManager.connectionStateChange at hk ⊢
    split at hk
    · next hclosing =>
      rw [if_pos hclosing]
      exact hclose hsound hk
    · next hclosing =>
      rw [if_neg hclosing]
      exact ⟨hk, fun t ht _ => ht⟩
  | closePeer => exact hclose hsound hk
  | closeAll =>
    unfold RtcPeerManager.closeAll at hk ⊢
    generalize m.peers.keys = ids at hk ⊢
    induction ids generalizing m with
    | nil => exact ⟨hk, fun t ht _ => ht⟩
    | cons callId' ids ih =>
      obtain ⟨hmid, htimers⟩ := ih (hsound.closePeer callId') hk
      obtain ⟨hold, htimers'⟩ := hclose hsound hmid
      exact ⟨hold, fun t ht hcall => htimers t (htimers' t ht hcall) hcall⟩
  | imported | rtp | timer | replaced => cases hq

/-- Nothing goes wrong for the loopback: its track is switched, and what it writes is taken. -/
def Smooth (k : Nat) : Label α → Prop
  | .timer _ loop written => loop = k → written = true
  | .replaced loop ok written => loop = k → ok = true ∧ written = true
  | _ => True

structure Lasting (k : Nat) (ls : List (Label α)) (p : Deck α) : Prop where
  tagged : p.manager.toMedia.Tagged
  going : (∀ l ∈ ls, Smooth k l) → ∀ s, p.manager.loops k = some s → p.manager.loopbacks.get? s.callId = some k →
    Going (Over k ls) (heard k ls) p.manager.toMedia k s

theorem step_tagged (h : p.manager.toMedia.Tagged) (hsound : p.manager.Sound) (hs : Step p l p') : p'.manager.toMedia.Tagged := by
  cases hs with
  | rtp hs => exact h.moves (Media.moves_onReceiveRtp hs)
  | timer _ hs => exact h.moves (Media.moves_fire hs _)
  | replaced hs _ => exact h.moves (Media.moves_replaced hs _ _)
  | @imported j callId ok payloadType hj =>
    cases ok with
    | false => exact ⟨h.named, h.below, h.distinct⟩
    | true =>
      have hcounted : Media.Tagged {p.manager.toMedia with
          setups := Function.update p.manager.setups j none
          loopbacks := p.manager.loopbacks.set callId p.manager.registered
          registered := p.manager.registered + 1} := ⟨h.named, h.below, h.distinct⟩
      exact hcounted.setTimeout (fun r hr => nomatch (hsound.media.fresh _ (Nat.le_refl _)).symm.trans hr) .record
  | other hq hm =>
    obtain ⟨hloops, harmed, htimers⟩ := quiet_step hm hq
    refine ⟨fun t ht => ?_, fun t ht => ?_, h.distinct.sublist htimers⟩
    · rw [hloops]
      exact h.named t (htimers.subset ht)
    · rw [harmed]
      exact h.below t (htimers.subset ht)

/-- A step that is none of the loopback's. -/
theorem Lasting.elsewhere (h : Lasting k ls p) (hloop : p'.manager.loops k = p.manager.loops k)
    (htimers : ∀ s, p.manager.loops k = some s → p'.manager.loopbacks.get? s.callId = some k →
      p.manager.loopbacks.get? s.callId = some k ∧ (p.manager.toMedia.timersOf k ≠ [] → p'.manager.toMedia.timersOf k ≠ []))
    (htimer : l.timerOf k = false) (hpacket : l.packetOf k = none) (hsmooth : ∀ l' ∈ ls ++ [l], Smooth k l') (s : Loopback)
    (hs : p'.manager.loops k = some s) (hk : p'.manager.loopbacks.get? s.callId = some k) :
    Going (Over k (ls ++ [l])) (heard k (ls ++ [l])) p'.manager.toMedia k s := by
  rw [hloop] at hs
  obtain ⟨hold, hkept⟩ := htimers s hs hk
  rw [over_other htimer, heard_other hpacket]
  obtain hsw | hne | hend := h.going (fun l' hl' => hsmooth l' (List.mem_append_left _ hl')) s hs hold
  · exact .inl hsw
  · exact .inr (.inl (hkept hne))
  · exact .inr (.inr hend)

theorem step_going (h : Lasting k ls p) (hI : Inv k ls p) (hsound : p.manager.Sound) (hs : Step p l p')
    (hsmooth : ∀ l' ∈ ls ++ [l], Smooth k l') (s' : Loopback) (hs' : p'.manager.loops k = some s')
    (hk' : p'.manager.loopbacks.get? s'.callId = some k) :
    Going (Over k (ls ++ [l])) (heard k (ls ++ [l])) p'.manager.toMedia k s' := by
  have hlast : Smooth k l := hsmooth l (List.mem_append_right _ (List.mem_singleton_self l))
  have hbefore : ∀ l' ∈ ls, Smooth k l' := fun l' hl' => hsmooth l' (List.mem_append_left _ hl')
  -- what a callback of the loopback leaves
  have hplayed {callId : String} {isOver switched : Prop} {r r' : Reel α}
      (hp : Played isOver switched (heard k ls) callId (p.manager.toMedia.has callId) true p'.manager.toMedia k r r')
      (hloopbacks : p'.manager.loopbacks = p.manager.loopbacks) : Going isOver (heard k ls) p'.manager.toMedia k s' := by
    obtain ⟨s'', hs'', hcall, -, hgoing⟩ := hp.loop
    obtain rfl := Option.some.inj (hs''.symm.trans hs')
    rw [hcall, hloopbacks] at hk'
    exact hgoing (Option.isSome_iff_exists.mpr ⟨k, hk'⟩) rfl
  cases hs with
  | @rtp k₀ s packet hs =>
    by_cases hk : k = k₀
    · subst hk
      obtain ⟨hrecording, hplaying⟩ := (hI.set s hs).onReceiveRtp packet
      have hloopbacks : (p.manager.toMedia.onReceiveRtp k s).loopbacks = p.manager.loopbacks :=
        (Media.plays_onReceiveRtp hs).loopbacks
      have hk' : p.manager.loopbacks.get? s'.callId = some k := hloopbacks ▸ hk'
      have hs' : (p.manager.toMedia.onReceiveRtp k s).loops k = some s' := hs'
      cases hrec : s.recording with
      | true =>
        have hset : p.manager.toMedia.onReceiveRtp k s = p.manager.toMedia.setLoop k {s with buffer := s.buffer + 1} := if_pos hrec
        rw [hset, Media.setLoop_self] at hs'
        obtain rfl := Option.some.inj hs'
        obtain hsw | hne | ⟨hover, -⟩ := h.going hbefore s hs hk'
        · exact .inl hsw
        · refine .inr (.inl ?_)
          rw [hset]
          exact hne
        · exact absurd hover (hrecording hrec).1
      | false =>
        have hset : p.manager.toMedia.onReceiveRtp k s = p.manager.toMedia := if_neg (by rw [hrec]; exact Bool.false_ne_true)
        rw [hset] at hs'
        obtain rfl := Option.some.inj (hs.symm.trans hs')
        rw [heard_over (hplaying hrec), over_other rfl, hset]
        exact h.going hbefore s hs hk'
    · have helse := Media.elsewhere_onReceiveRtp (d := p.manager.toMedia) (s := s) hk
      have hpacket : (Label.rtp k₀ packet).packetOf k = none := if_neg (Ne.symm hk)
      exact h.elsewhere helse.loop (fun r hr hget => ⟨helse.loopbacks ▸ hget, helse.timers ▸ id⟩) rfl hpacket hsmooth s' hs' hk'
  | @timer t s written ht hs =>
    by_cases hk : k = t.loop
    · subst hk
      have hover : Over t.loop (ls ++ [.timer t.handle t.loop written]) := (over_snoc _).mpr (.inr (decide_eq_true rfl))
      obtain rfl : written = true := hlast rfl
      rw [heard_other rfl]
      exact hplayed ((hI.set s hs).fire hs ht rfl hover true) (Media.plays_fire hs true).loopbacks
    · have helse := Media.elsewhere_fire p.manager.toMedia s written hk
      -- no timer of this loopback has the handle of the one that fired
      have hkept : (p.manager.toMedia.fire t s written).timersOf k = p.manager.toMedia.timersOf k := by
        rw [helse.timers, Media.timersOf_clearTimeout]
        refine List.filter_eq_self.mpr fun t' ht' => decide_eq_true fun hhandle => hk ?_
        obtain ⟨ht', hloop⟩ := List.mem_filter.mp ht'
        rw [← h.tagged.same ht' ht hhandle]
        exact (of_decide_eq_true hloop).symm
      have htimer : (Label.timer t.handle t.loop written : Label α).timerOf k = false := decide_eq_false (Ne.symm hk)
      exact h.elsewhere helse.loop (fun r hr hget => ⟨helse.loopbacks ▸ hget, hkept ▸ id⟩) htimer rfl hsmooth s' hs' hk'
  | @replaced k₀ s ok written hs hsw =>
    by_cases hk : k = k₀
    · subst hk
      obtain ⟨rfl, rfl⟩ := hlast rfl
      have hswitched : Switched k (ls ++ [.replaced k true true]) := ⟨true, List.mem_append_right _ (List.mem_singleton_self _)⟩
      have hreplaced := (hI.set s hs).replaced hsw (fun _ : true = true => hswitched) true
      rw [heard_other rfl, over_other rfl]
      exact hplayed hreplaced (Media.plays_replaced hs true true).loopbacks
    · have helse := Media.elsewhere_replaced p.manager.toMedia s ok written hk
      exact h.elsewhere helse.loop (fun r hr hget => ⟨helse.loopbacks ▸ hget, helse.timers ▸ id⟩) rfl rfl hsmooth s' hs' hk'
  | @imported j callId ok payloadType hj =>
    cases ok with
    | false => exact h.elsewhere rfl (fun r hr hget => ⟨hget, id⟩) rfl rfl hsmooth s' hs' hk'
    | true =>
      by_cases hk : k = p.manager.registered
      · refine .inr (.inl ?_)
        have htimers := Media.timersOf_setTimeout_self {p.manager.toMedia with
          setups := Function.update p.manager.setups j none
          loopbacks := p.manager.loopbacks.set callId p.manager.registered
          registered := p.manager.registered + 1} p.manager.registered ⟨callId, none, true, 0, 0, false⟩ .record
        rw [hk]
        intro hnone
        exact List.append_ne_nil_of_right_ne_nil _ (List.cons_ne_nil _ _) (htimers.symm.trans hnone)
      · have htimers : (p.manager.toMedia.startDelayedLoopback j callId true).timersOf k = p.manager.toMedia.timersOf k :=
          Media.timersOf_setTimeout_ne hk
        refine h.elsewhere (Media.setTimeout_ne hk) (fun r hr hget => ⟨?_, htimers ▸ id⟩) rfl rfl hsmooth s' hs' hk'
        obtain ⟨-, hk'⟩ | ⟨-, hold⟩ := KeyMap.get?_set_some hget
        · exact absurd hk' hk
        · exact hold
  | @other l m hq hm =>
    refine h.elsewhere (congrFun (quiet_step hm hq).1 k) (fun r hr hget => ?_) rfl rfl hsmooth s' hs' hk'
    obtain ⟨hold, hkept⟩ := quiet_kept hsound hm hq hget
    refine ⟨hold, fun hne => ?_⟩
    obtain ⟨t, ht⟩ := List.exists_mem_of_ne_nil _ hne
    obtain ⟨ht, hloop⟩ := List.mem_filter.mp ht
    obtain ⟨r', hr', hcall⟩ := h.tagged.named t ht
    have hloop : t.loop = k := of_decide_eq_true hloop
    rw [hloop] at hr'
    obtain rfl := Option.some.inj (hr.symm.trans hr')
    exact List.ne_nil_of_mem (List.mem_filter.mpr ⟨hkept t ht hcall.symm, decide_eq_true hloop⟩)

theorem run_inv {loopbackSec : Int} (h : (system α loopbackSec).Run ls p) (k : Nat) : Inv k ls p := by
  refine h.invariant (M := system α loopbackSec) (I := Inv k) ?_ fun ls p l p' hrun hI hs => ?_
  · rintro p rfl
    refine ⟨fun _ => ⟨rfl, fun hover => ?_, rfl⟩, nofun⟩
    exact absurd hover.choose_spec.1 List.not_mem_nil
  · exact step_inv hI (RtcPeerManager.run_sound (run_manager hrun)) hs

theorem run_lasting {loopbackSec : Int} (h : (system α loopbackSec).Run ls p) (k : Nat) : Lasting k ls p := by
  refine h.invariant (M := system α loopbackSec) (I := Lasting k) ?_ fun ls p l p' hrun hI hs => ?_
  · rintro p rfl
    exact ⟨⟨nofun, nofun, List.Pairwise.nil⟩, nofun⟩
  · have hsound := RtcPeerManager.run_sound (run_manager hrun)
    exact ⟨step_tagged hI.tagged hsound hs, step_going hI (run_inv hrun k) hsound hs⟩

/-- What a loopback writes of the packets it heard. -/
def tape (k : Nat) (ls : List (Label α)) (p : Deck α) : List (RtpPacket α) :=
  (heard k ls).map (RtpPacket.retype (p.reels k).payloadType)

/-- **A loopback plays back what it heard**: the packets that came until its recording was over,
from the first one, over and over, with the payload type that was negotiated; and nothing before
the recording is over and the track is switched. It has one timer at most. -/
theorem plays_back {loopbackSec : Int} (h : (system α loopbackSec).Run ls p) (hs : p.manager.loops k = some s) :
    (∃ n, (p.reels k).written = Rounds.rounds n (tape k ls p) ++ (tape k ls p).take s.i) ∧
    ((p.reels k).written ≠ [] → Over k ls ∧ Switched k ls) ∧ s.buffer = (heard k ls).length ∧
    (p.manager.toMedia.timersOf k).length ≤ 1 := by
  have htaped := (run_inv h k).set s hs
  refine ⟨?_, fun hne => ?_, htaped.heard_length, ?_⟩
  · obtain ⟨-, -, -, hi, hnil, -⟩ | ⟨-, -, -, hi, hnil, -⟩ | ⟨n, -, -, -, -, hwritten, -⟩ := htaped.phase
    · exact ⟨0, by rw [hnil, hi]; rfl⟩
    · exact ⟨0, by rw [hnil, hi]; rfl⟩
    · exact ⟨n, hwritten⟩
  · obtain ⟨-, -, -, -, hnil, -⟩ | ⟨-, -, -, -, hnil, -⟩ | ⟨_, hover, -, -, -, -, hswitched, -⟩ := htaped.phase
    · exact absurd hnil hne
    · exact absurd hnil hne
    · exact ⟨hover, hswitched (.inl hne)⟩
  · obtain ⟨-, -, -, -, -, hone, -⟩ | ⟨-, -, -, -, -, hnone⟩ | ⟨_, -, -, -, -, -, -, hone, -⟩ := htaped.phase
    · exact hone
    · rw [hnone]
      exact Nat.zero_le 1
    · exact hone

/-- A packet of a call is recorded and played twice. -/
def demoRun : List (Label Unit) :=
  [.other (.acceptCall "c"), .other (.awaited "c" true), .other (.track 0), .imported 0 true (some 111), .rtp 0 ⟨96, ()⟩,
    .timer 0 0 true, .replaced 0 true true, .timer 1 0 true, .timer 2 0 true]

theorem demoRun_run : ∃ p : Deck Unit, (system Unit 5).Run demoRun p ∧
    p.manager.loops 0 = some ⟨"c", some 3, false, 1, 1, false⟩ ∧ p.manager.loopbacks.get? "c" = some 0 ∧
    (p.reels 0).written = [⟨111, ()⟩, ⟨111, ()⟩] := by
  have h₀ : (system Unit 5).Run [] ⟨.new 5, fun _ => {}⟩ := .nil rfl
  have h₁ := h₀.snoc (show Step _ (.other (.acceptCall "c")) _ from .other rfl (.acceptCall List.not_mem_nil))
  have h₂ := h₁.snoc (show Step _ (.other (.awaited "c" true)) _ from .other rfl (.awaited rfl))
  have h₃ := h₂.snoc (show Step _ (.other (.track 0)) _ from .other rfl (.track rfl))
  have h₄ := h₃.snoc (show Step _ (.imported 0 true (some 111)) _ from .imported rfl)
  have h₅ := h₄.snoc (show Step _ (.rtp 0 ⟨96, ()⟩) _ from .rtp rfl)
  have h₆ := h₅.snoc (show Step _ (.timer 0 0 true) _ from .timer (t := ⟨0, "c", 0, .record⟩) (List.mem_singleton_self _) rfl)
  have h₇ := h₆.snoc (show Step _ (.replaced 0 true true) _ from .replaced rfl rfl)
  have h₈ := h₇.snoc (show Step _ (.timer 1 0 true) _ from .timer (t := ⟨1, "c", 0, .playNext⟩) (List.mem_singleton_self _) rfl)
  have h₉ := h₈.snoc (show Step _ (.timer 2 0 true) _ from .timer (t := ⟨2, "c", 0, .loopOnce⟩) (List.mem_singleton_self _) rfl)
  exact ⟨_, h₉, rfl, rfl, rfl⟩

/-- The track gets the packet with the negotiated type, two times around. -/
theorem plays_back_around : ∃ p : Deck Unit, (p.reels 0).written = [⟨111, ()⟩, ⟨111, ()⟩] ∧
    (∃ n, (p.reels 0).written = Rounds.rounds n (tape 0 demoRun p) ++ (tape 0 demoRun p).take 1) ∧ Over 0 demoRun ∧
    Switched 0 demoRun := by
  obtain ⟨p, hrun, hs, -, hwritten⟩ := demoRun_run
  obtain ⟨hrounds, hover, -, -⟩ := plays_back hrun hs
  obtain ⟨hover, hswitched⟩ := hover (hwritten ▸ List.cons_ne_nil _ _)
  exact ⟨p, hwritten, hrounds, hover, hswitched⟩

/-- **A loopback goes on**: while its call keeps it, and nothing goes wrong for it, a timer of it
is armed or the switch of its track is awaited, unless nothing was heard. -/
theorem keeps_playing {loopbackSec : Int} (h : (system α loopbackSec).Run ls p) (hs : p.manager.loops k = some s)
    (hk : p.manager.loopbacks.get? s.callId = some k) (hsmooth : ∀ l ∈ ls, Smooth k l) :
    s.switching = true ∨ (∃ t ∈ p.manager.timers, t.loop = k) ∨ Over k ls ∧ heard k ls = [] := by
  obtain hsw | hne | hend := (run_lasting h k).going hsmooth s hs hk
  · exact .inl hsw
  · obtain ⟨t, ht⟩ := List.exists_mem_of_ne_nil _ hne
    obtain ⟨ht, hloop⟩ := List.mem_filter.mp ht
    exact .inr (.inl ⟨t, ht, of_decide_eq_true hloop⟩)
  · exact .inr (.inr hend)

/-- The next timer is armed. -/
theorem keeps_playing_around : ∃ p : Deck Unit, (system Unit 5).Run demoRun p ∧ ∃ t ∈ p.manager.timers, t.loop = 0 := by
  obtain ⟨p, hrun, hs, hk, -⟩ := demoRun_run
  have hsmooth : ∀ l ∈ demoRun, Smooth 0 l := by simp [demoRun, Smooth]
  obtain hsw | ht | ⟨-, hnil⟩ := keeps_playing hrun hs hk hsmooth
  · cases hsw
  · exact ⟨p, hrun, ht⟩
  · cases hnil

end Deck
end RtcPlugin.TsNode
