import RtcPlugin.Stream.Rounds
import RtcPlugin.System.Run

/-! One loopback: the goroutine that records and echoes, and the one that replays.

`loopbackTrack` reads packets until its window is over and then starts `replayLoop`;
a `Stop` may come between any two of their steps. `Inv` says what each of them has
written and kept so far: the packets of the window (`recorded`), and then rounds of
them. The window is a number of nanoseconds in 64 bits, so it is the number of
seconds only where that fits (`delayed_loopback`). The headers are sent again as they
were recorded, so the numbers of the stream go on only where they advance from the
last recorded packet to the first (`replay_advances`). -/
namespace RtcPlugin.Node.Loopback
open Rounds

structure Packet (Header : Type) where
  header : Header
  payload : List UInt8
  deriving DecidableEq, Repr, Inhabited

/-! ### Time -/

/-- `time.Second`, in nanoseconds. -/
def second : Int := 1000000000

def minDuration : Int := -2 ^ 63

def maxDuration : Int := 2 ^ 63 - 1

/-- `time.Duration(lb.seconds)*time.Second`, in 64 bits. -/
def window (seconds : Int) : Int := (seconds * second).bmod (2 ^ 64)

/-- `time.Since(start)`, which saturates. -/
def since (start now : Int) : Int := max minDuration (min maxDuration (now - start))

def windowOver (seconds start now : Int) : Bool := decide (window seconds ≤ since start now)

theorem window_range (seconds : Int) : minDuration ≤ window seconds ∧ window seconds ≤ maxDuration := by
  have hle := Int.le_bmod (x := seconds * second) (m := 2 ^ 64) (by decide)
  have hlt := Int.bmod_lt (x := seconds * second) (m := 2 ^ 64) (by decide)
  unfold minDuration maxDuration window
  omega

/-- While the clock goes on, the saturation makes no difference. -/
theorem windowOver_iff {seconds start now : Int} (h : start ≤ now) :
    windowOver seconds start now = true ↔ window seconds ≤ now - start := by
  obtain ⟨hmin, hmax⟩ := window_range seconds
  have hneg : minDuration ≤ 0 := by decide
  unfold windowOver since
  rw [decide_eq_true_iff, le_max_iff, le_min_iff]
  omega

/-! ### The goroutines -/

/-- Where `loopbackTrack` is. -/
inductive Reader (Header : Type) where
  | read
  | echo (pkt : Packet Header)
  | append (pkt : Packet Header)
  | check (pkt : Packet Header)
  | returned
  deriving Repr

/-- Where `replayLoop` is; `rest` is what this round has yet to write. -/
inductive Replay (Header : Type) where
  | notStarted
  | started
  | loop (buf : List (Packet Header))
  | packet (buf rest : List (Packet Header))
  | write (buf : List (Packet Header)) (pkt : Packet Header) (rest : List (Packet Header))
  | returned
  deriving Repr

structure LoopbackState (Header : Type) where
  seconds : Int
  buffer : List (Packet Header)
  /-- `stopCh` is closed. -/
  stopped : Bool
  deriving Repr

structure State (Header : Type) extends LoopbackState Header where
  recording : Bool
  /-- None for the zero time. -/
  recordStart : Option Int
  reader : Reader Header
  replay : Replay Header
  /-- The last reading of the clock. -/
  clock : Int
  /-- What was read, and the clock at the end of its iteration. -/
  log : List (Packet Header × Int)
  /-- What the local track was given, and by which goroutine. -/
  written : List (Packet Header)
  echoed : List (Packet Header)
  replayed : List (Packet Header)
  /-- How often `replayLoop` was started, and what it wrote after the stop. -/
  starts : Nat
  late : Nat
  deriving Repr

variable {Header : Type}

/-- `NewLoopbackState`, and `loopbackTrack` at its first read. -/
def new (seconds clock : Int) : State Header where
  seconds := seconds
  buffer := []
  stopped := false
  recording := true
  recordStart := none
  reader := .read
  replay := .notStarted
  clock := clock
  log := []
  written := []
  echoed := []
  replayed := []
  starts := 0
  late := 0

namespace State

/-- A packet, read at the time `now`. -/
def readRTP (s : State Header) (pkt : Packet Header) (now : Int) : State Header :=
  let s := {s with clock := now, recordStart := some (s.recordStart.getD now)}
  if s.recording then {s with reader := .echo pkt} else {s with log := s.log ++ [(pkt, now)]}

def echo (s : State Header) (pkt : Packet Header) : State Header := {s with
  reader := .append pkt
  written := s.written ++ [pkt]
  echoed := s.echoed ++ [pkt]}

def clone (pkt : Packet Header) : Packet Header := {header := pkt.header, payload := pkt.payload}

def append (s : State Header) (pkt : Packet Header) : State Header := {s with
  reader := .check pkt
  buffer := s.buffer ++ [clone pkt]}

/-- Is the window over? The clock may have gone on since the packet was read. -/
def check (s : State Header) (pkt : Packet Header) (now : Int) : State Header :=
  let s := {s with clock := now, reader := .read, log := s.log ++ [(pkt, now)]}
  if windowOver s.seconds (s.recordStart.getD 0) now then
    {s with recording := false, replay := .started, starts := s.starts + 1}
  else s

def stop (s : State Header) : State Header := {s with stopped := true}

/-- The copy of the buffer that is replayed. -/
def snapshot (s : State Header) : State Header :=
  {s with replay := if s.buffer = [] then .returned else .loop s.buffer}

def nextRound (s : State Header) (buf : List (Packet Header)) : State Header :=
  {s with replay := if s.stopped then .returned else .packet buf buf}

def nextPacket (s : State Header) (buf : List (Packet Header)) : List (Packet Header) → State Header
  | [] => {s with replay := .loop buf}
  | pkt :: rest => {s with replay := if s.stopped then .returned else .write buf pkt rest}

/-- The packet is given to the track, which may fail. -/
def writeRTP (s : State Header) (buf : List (Packet Header)) (pkt : Packet Header) (rest : List (Packet Header))
    (ok : Bool) : State Header := {s with
  replay := if ok then .packet buf rest else .returned
  written := s.written ++ [pkt]
  replayed := s.replayed ++ [pkt]
  late := if s.stopped then s.late + 1 else s.late}

theorem readRTP_recording {s : State Header} (hrec : s.recording = true) (pkt : Packet Header) (now : Int) :
    s.readRTP pkt now = {s with clock := now, recordStart := some (s.recordStart.getD now), reader := .echo pkt} :=
  if_pos hrec

theorem readRTP_dropped {s : State Header} (hrec : s.recording = false) (pkt : Packet Header) (now : Int) :
    s.readRTP pkt now =
      {s with clock := now, recordStart := some (s.recordStart.getD now), log := s.log ++ [(pkt, now)]} :=
  if_neg (ne_true_of_eq_false hrec)

@[simp] theorem readRTP_seconds (s : State Header) (pkt : Packet Header) (now : Int) :
    (s.readRTP pkt now).seconds = s.seconds := by
  simp only [readRTP]
  split <;> rfl

@[simp] theorem readRTP_replayed (s : State Header) (pkt : Packet Header) (now : Int) :
    (s.readRTP pkt now).replayed = s.replayed := by
  simp only [readRTP]
  split <;> rfl

theorem check_eq {s : State Header} {now : Int} {past : Bool}
    (h : windowOver s.seconds (s.recordStart.getD 0) now = past) (pkt : Packet Header) : s.check pkt now = {s with
      clock := now
      reader := .read
      log := s.log ++ [(pkt, now)]
      recording := s.recording && !past
      replay := if past then .started else s.replay
      starts := if past then s.starts + 1 else s.starts} := by
  simp only [check, h]
  cases past
  · rw [Bool.not_false, Bool.and_true]
    rfl
  · rw [Bool.not_true, Bool.and_false]
    rfl

@[simp] theorem check_seconds (s : State Header) (pkt : Packet Header) (now : Int) :
    (s.check pkt now).seconds = s.seconds := by
  simp only [check]
  split <;> rfl

@[simp] theorem check_replayed (s : State Header) (pkt : Packet Header) (now : Int) :
    (s.check pkt now).replayed = s.replayed := by
  simp only [check]
  split <;> rfl

end State

inductive Label (Header : Type) where
  | read (pkt : Packet Header) (now : Int)
  | readFails
  | echo
  | append
  | check (now : Int)
  | stop
  | snapshot
  | nextRound
  | nextPacket
  | write (ok : Bool)
  deriving DecidableEq, Repr

inductive Step (s : State Header) : Label Header → State Header → Prop where
  | read {pkt now} : s.reader = .read → s.clock ≤ now → Step s (.read pkt now) (s.readRTP pkt now)
  | readFails : s.reader = .read → Step s .readFails {s with reader := .returned}
  | echo {pkt} : s.reader = .echo pkt → Step s .echo (s.echo pkt)
  | append {pkt} : s.reader = .append pkt → Step s .append (s.append pkt)
  | check {pkt now} : s.reader = .check pkt → s.clock ≤ now → Step s (.check now) (s.check pkt now)
  | stop : Step s .stop s.stop
  | snapshot : s.replay = .started → Step s .snapshot s.snapshot
  | nextRound {buf} : s.replay = .loop buf → Step s .nextRound (s.nextRound buf)
  | nextPacket {buf rest} : s.replay = .packet buf rest → Step s .nextPacket (s.nextPacket buf rest)
  | write {buf pkt rest ok} : s.replay = .write buf pkt rest → Step s (.write ok) (s.writeRTP buf pkt rest ok)

def system (Header : Type) (seconds : Int) : System (State Header) (Label Header) where
  init s := ∃ clock, s = new seconds clock
  step := Step

/-! ### What is recorded -/

/-- What the packet in work has been given to so far. -/
def Reader.echoed : Reader Header → List (Packet Header)
  | .append pkt | .check pkt => [pkt]
  | _ => []

def Reader.buffered : Reader Header → List (Packet Header)
  | .check pkt => [pkt]
  | _ => []

/-- The packet in work. -/
def Reader.pending : Reader Header → List (Packet Header)
  | .echo pkt | .append pkt | .check pkt => [pkt]
  | _ => []

/-- Between two packets, or at the end. -/
def Reader.Idle (r : Reader Header) : Prop := r = .read ∨ r = .returned

namespace State

/-- Every packet read. -/
def incoming (s : State Header) : List (Packet Header) := s.log.map Prod.fst ++ s.reader.pending

/-- The packets read up to the first that meets `past`, by the time it is checked at. -/
def recordedBy (s : State Header) (past : Int → Int → Bool) : List (Packet Header) :=
  (upTo (fun x => past (s.recordStart.getD 0) x.2) s.log).map Prod.fst

/-- Up to the first at which the code finds the window over. -/
def recorded (s : State Header) : List (Packet Header) := s.recordedBy (windowOver s.seconds)

end State

/-! ### The recording -/

/-- What holds of the goroutine that reads, and of what it has done. -/
structure Recorder (s : State Header) : Prop where
  echoed : s.echoed = s.recorded ++ s.reader.echoed
  buffer : s.buffer = s.recorded ++ s.reader.buffered
  recording : s.recording = true → ∀ x ∈ s.log, windowOver s.seconds (s.recordStart.getD 0) x.2 = false
  past : s.recording = false →
    s.reader.Idle ∧ ∃ x ∈ s.log, windowOver s.seconds (s.recordStart.getD 0) x.2 = true
  unread : s.recordStart = none → s.log = [] ∧ s.reader.Idle ∧ s.recording = true
  starts : s.starts = if s.recording then 0 else 1
  times : ∀ start, s.recordStart = some start → start ≤ s.clock ∧ ∀ x ∈ s.log, start ≤ x.2

namespace Recorder

variable {s s' : State Header} {pkt : Packet Header}

theorem recording_of_pending (h : Recorder s) (hpending : ¬ s.reader.Idle) : s.recording = true := by
  cases hrec : s.recording with
  | true => rfl
  | false => exact absurd (h.past hrec).1 hpending

theorem started_of_pending (h : Recorder s) (hpending : ¬ s.reader.Idle) : ∃ start, s.recordStart = some start := by
  cases hstart : s.recordStart with
  | none => exact absurd (h.unread hstart).2.1 hpending
  | some start => exact ⟨start, rfl⟩

/-- While the window is not over, everything in the log is recorded. -/
theorem recorded_eq (h : Recorder s) (hrec : s.recording = true) : s.recorded = s.log.map Prod.fst := by
  unfold State.recorded State.recordedBy
  rw [upTo_of_none (h.recording hrec)]

theorem new (seconds clock : Int) : Recorder (new seconds clock : State Header) where
  echoed := rfl
  buffer := rfl
  recording _ := List.forall_mem_nil _
  past h := by cases h
  unread _ := ⟨rfl, .inl rfl, rfl⟩
  starts := rfl
  times _ h := by cases h

/-- The first packet sets the time. -/
theorem readRTP_first (h : Recorder s) (hreader : s.reader = .read) (hstart : s.recordStart = none)
    (pkt : Packet Header) (now : Int) : Recorder (s.readRTP pkt now) := by
  obtain ⟨hlog, -, hrec⟩ := h.unread hstart
  have hnone : s.recorded = [] := by simp [State.recorded, State.recordedBy, hlog, upTo]
  have hechoed := h.echoed
  have hbuffer := h.buffer
  rw [hreader, hnone] at hechoed hbuffer
  rw [State.readRTP_recording hrec, hstart]
  have hnone' : State.recorded {s with clock := now, recordStart := some now, reader := .echo pkt} = [] := by
    simp [State.recorded, State.recordedBy, hlog, upTo]
  constructor
  · rw [Option.getD_none, hnone']
    exact hechoed
  · rw [Option.getD_none, hnone']
    exact hbuffer
  · simp [hlog]
  · intro hnot
    exact absurd hnot (by simp [hrec])
  · intro hsome
    cases hsome
  · exact h.starts
  · intro _ heq
    cases heq
    exact ⟨Int.le_refl _, by simp [hlog]⟩

theorem readRTP_next (h : Recorder s) (hreader : s.reader = .read) {start : Int} (hstart : s.recordStart = some start)
    (hrec : s.recording = true) {now : Int} (hclock : s.clock ≤ now) : Recorder (s.readRTP pkt now) := by
  obtain ⟨htime, htimes⟩ := h.times start hstart
  have hechoed := h.echoed
  have hbuffer := h.buffer
  have hrecording := h.recording hrec
  rw [hreader] at hechoed hbuffer
  rw [hstart] at hrecording
  rw [State.readRTP_recording hrec, hstart]
  have hsame : State.recorded {s with clock := now, recordStart := some start, reader := .echo pkt} = s.recorded := by
    simp [State.recorded, State.recordedBy, hstart]
  constructor
  · rw [Option.getD_some, hsame]
    exact hechoed
  · rw [Option.getD_some, hsame]
    exact hbuffer
  · exact fun _ => hrecording
  · intro hnot
    exact absurd hnot (by simp [hrec])
  · intro hsome
    cases hsome
  · exact h.starts
  · intro _ heq
    cases heq
    exact ⟨Int.le_trans htime hclock, htimes⟩

/-- The packet is dropped: the window was over before it. -/
theorem readRTP_late (h : Recorder s) {start : Int} (hstart : s.recordStart = some start) (hrec : s.recording = false)
    {now : Int} (hclock : s.clock ≤ now) : Recorder (s.readRTP pkt now) := by
  obtain ⟨htime, htimes⟩ := h.times start hstart
  obtain ⟨hidle, hover⟩ := h.past hrec
  have hle := Int.le_trans htime hclock
  rw [State.readRTP_dropped hrec, hstart]
  have hsame : State.recorded {s with clock := now, recordStart := some start, log := s.log ++ [(pkt, now)]} =
      s.recorded := by
    rw [hstart] at hover
    simp only [State.recorded, State.recordedBy, hstart]
    exact congrArg _ (upTo_append_of_some hover _)
  constructor
  · rw [Option.getD_some, hsame]
    exact h.echoed
  · rw [Option.getD_some, hsame]
    exact h.buffer
  · intro hyes
    exact absurd hyes (by simp [hrec])
  · intro _
    obtain ⟨x, hx, hxover⟩ := hover
    rw [hstart] at hxover
    exact ⟨hidle, x, List.mem_append_left _ hx, hxover⟩
  · exact nofun
  · exact h.starts
  · intro _ heq
    cases heq
    exact ⟨hle, List.forall_mem_append.mpr ⟨htimes, List.forall_mem_singleton.mpr hle⟩⟩

theorem readRTP {now : Int} (h : Recorder s) (hreader : s.reader = .read) (hclock : s.clock ≤ now) :
    Recorder (s.readRTP pkt now) := by
  cases hstart : s.recordStart with
  | none => exact h.readRTP_first hreader hstart pkt now
  | some start =>
    cases hrec : s.recording with
    | true => exact h.readRTP_next hreader hstart hrec hclock
    | false => exact h.readRTP_late hstart hrec hclock

/-- Work on the packet that was read: the log and the times stay as they are. -/
theorem work (h : Recorder s) (hpending : ¬ s.reader.Idle) {reader : Reader Header}
    {written echoed buffer : List (Packet Header)} (hechoed : echoed = s.recorded ++ reader.echoed)
    (hbuffer : buffer = s.recorded ++ reader.buffered) :
    Recorder {s with reader := reader, written := written, echoed := echoed, buffer := buffer} := by
  have hrec := h.recording_of_pending hpending
  obtain ⟨start, hstart⟩ := h.started_of_pending hpending
  constructor
  · exact hechoed
  · exact hbuffer
  · exact h.recording
  · intro hnot
    exact absurd hnot (by simp [hrec])
  · intro hnone
    exact absurd hnone (by simp [hstart])
  · exact h.starts
  · exact h.times

theorem echo (h : Recorder s) (hreader : s.reader = .echo pkt) : Recorder (s.echo pkt) := by
  have hpending : ¬ s.reader.Idle := by simp [hreader, Reader.Idle]
  have hechoed := h.echoed
  have hbuffer := h.buffer
  rw [hreader] at hechoed hbuffer
  refine h.work hpending ?_ hbuffer
  rw [hechoed]
  exact congrArg (· ++ [pkt]) (List.append_nil _)

theorem append (h : Recorder s) (hreader : s.reader = .append pkt) : Recorder (s.append pkt) := by
  have hpending : ¬ s.reader.Idle := by simp [hreader, Reader.Idle]
  have hechoed := h.echoed
  have hbuffer := h.buffer
  rw [hreader] at hechoed hbuffer
  refine h.work hpending hechoed ?_
  rw [hbuffer]
  exact congrArg (· ++ [pkt]) (List.append_nil _)

/-- The packet in work is recorded, and it is the last one if it finds the window over. -/
theorem check {now : Int} (h : Recorder s) (hreader : s.reader = .check pkt) (hclock : s.clock ≤ now) :
    Recorder (s.check pkt now) := by
  have hpending : ¬ s.reader.Idle := by simp [hreader, Reader.Idle]
  have hechoed := h.echoed
  have hbuffer := h.buffer
  have hrec := h.recording_of_pending hpending
  obtain ⟨start, hstart⟩ := h.started_of_pending hpending
  obtain ⟨htime, htimes⟩ := h.times start hstart
  have hnone := h.recording hrec
  have hle := Int.le_trans htime hclock
  rw [hreader, h.recorded_eq hrec] at hechoed hbuffer
  obtain ⟨past, hpast⟩ : ∃ past, windowOver s.seconds (s.recordStart.getD 0) now = past := ⟨_, rfl⟩
  have hrecorded : (s.check pkt now).recorded = s.log.map Prod.fst ++ [pkt] := by
    rw [State.check_eq hpast, State.recorded, State.recordedBy, upTo_snoc_of_none hnone, List.map_append,
      List.map_singleton]
  rw [State.check_eq hpast] at hrecorded ⊢
  constructor
  · rw [hrecorded, hechoed]
    exact (List.append_nil _).symm
  · rw [hrecorded, hbuffer]
    exact (List.append_nil _).symm
  · intro hrecording
    rw [hrec, Bool.true_and, Bool.not_eq_true'] at hrecording
    exact List.forall_mem_append.mpr ⟨hnone, List.forall_mem_singleton.mpr (hpast.trans hrecording)⟩
  · intro hrecording
    rw [hrec, Bool.true_and, Bool.not_eq_false'] at hrecording
    exact ⟨.inl rfl, (pkt, now), by simp, hpast.trans hrecording⟩
  · intro hnone'
    rw [hstart] at hnone'
    cases hnone'
  · rw [h.starts, hrec]
    cases past <;> rfl
  · rw [hstart]
    intro _ heq
    cases heq
    exact ⟨hle, List.forall_mem_append.mpr ⟨htimes, List.forall_mem_singleton.mpr hle⟩⟩

/-- Steps of the other goroutine, and a `Stop`. -/
theorem other (h : Recorder s) {replay : Replay Header} {written replayed : List (Packet Header)} {stopped : Bool}
    {late : Nat} : Recorder {s with
      stopped := stopped
      replay := replay
      written := written
      replayed := replayed
      late := late} := ⟨h.echoed, h.buffer, h.recording, h.past, h.unread, h.starts, h.times⟩

theorem readFails (h : Recorder s) (hreader : s.reader = .read) : Recorder {s with reader := .returned} := by
  have hechoed := h.echoed
  have hbuffer := h.buffer
  rw [hreader] at hechoed hbuffer
  exact ⟨hechoed, hbuffer, h.recording, fun hrec => ⟨.inr rfl, (h.past hrec).2⟩,
    fun hnone => ⟨(h.unread hnone).1, .inr rfl, (h.unread hnone).2.2⟩, h.starts, h.times⟩

theorem step {l : Label Header} (h : Recorder s) (hstep : Step s l s') : Recorder s' := by
  cases hstep with
  | read hreader hclock => exact h.readRTP hreader hclock
  | readFails hreader => exact h.readFails hreader
  | echo hreader => exact h.echo hreader
  | append hreader => exact h.append hreader
  | check hreader hclock => exact h.check hreader hclock
  | stop => exact h.other
  | snapshot hreplay => exact h.other
  | nextRound hreplay => exact h.other
  | @nextPacket buf rest hreplay =>
    cases rest with
    | nil => exact h.other
    | cons pkt rest => exact h.other
  | write hreplay => exact h.other

end Recorder

/-! ### The replay -/

/-- How far the rounds of the buffer have got. -/
def Progress (buffer replayed : List (Packet Header)) : Replay Header → Prop
  | .notStarted | .started => replayed = []
  | .loop buf => buf = buffer ∧ ∃ n, replayed = rounds n buffer
  | .packet buf rest => buf = buffer ∧ ∃ n done, replayed = rounds n buffer ++ done ∧ done ++ rest = buffer
  | .write buf pkt rest => buf = buffer ∧ ∃ n done, replayed = rounds n buffer ++ done ∧ done ++ pkt :: rest = buffer
  | .returned => ∃ n, replayed <+: rounds n buffer

theorem prefix_rounds {buffer done rest : List (Packet Header)} (n : Nat) (h : done ++ rest = buffer) :
    rounds n buffer ++ done <+: rounds (n + 1) buffer := by
  rw [rounds_snoc]
  exact ⟨rest, by rw [List.append_assoc, h]⟩

theorem Progress.rounds {buffer replayed : List (Packet Header)} {replay : Replay Header}
    (h : Progress buffer replayed replay) : ∃ n, replayed <+: rounds n buffer := by
  cases replay with
  | notStarted | started =>
    obtain rfl : replayed = [] := h
    exact ⟨0, List.nil_prefix⟩
  | loop buf =>
    obtain ⟨-, n, rfl⟩ := h
    exact ⟨n, List.prefix_rfl⟩
  | packet buf rest =>
    obtain ⟨-, n, done, rfl, hdone⟩ := h
    exact ⟨n + 1, prefix_rounds n hdone⟩
  | write buf pkt rest =>
    obtain ⟨-, n, done, rfl, hdone⟩ := h
    exact ⟨n + 1, prefix_rounds n hdone⟩
  | returned => exact h

structure Replayer (s : State Header) : Prop where
  before : s.recording = true → s.replay = .notStarted
  progress : Progress s.buffer s.replayed s.replay
  written : s.written = s.echoed ++ s.replayed
  /-- No packet is written after the stop while another is about to be. -/
  writing : ∀ buf pkt rest, s.replay = .write buf pkt rest → s.late = 0
  running : s.stopped = false → s.late = 0
  late : s.late ≤ 1

namespace Replayer

variable {s s' : State Header} {pkt : Packet Header}

theorem new (seconds clock : Int) : Replayer (new seconds clock : State Header) where
  before _ := rfl
  progress := rfl
  written := rfl
  writing _ _ _ _ := rfl
  running _ := rfl
  late := Nat.zero_le _

/-- While the replay has not started, it has written nothing. -/
theorem replayed_nil (h : Replayer s) (hrec : s.recording = true) : s.replayed = [] := by
  have hprogress := h.progress
  rw [h.before hrec] at hprogress
  exact hprogress

theorem readRTP {now : Int} (h : Replayer s) : Replayer (s.readRTP pkt now) := by
  cases hrec : s.recording with
  | true =>
    rw [State.readRTP_recording hrec]
    exact ⟨h.before, h.progress, h.written, h.writing, h.running, h.late⟩
  | false =>
    rw [State.readRTP_dropped hrec]
    exact ⟨h.before, h.progress, h.written, h.writing, h.running, h.late⟩

theorem echo (h : Replayer s) (hrec : s.recording = true) : Replayer (s.echo pkt) := by
  refine ⟨h.before, h.progress, ?_, h.writing, h.running, h.late⟩
  show s.written ++ [pkt] = s.echoed ++ [pkt] ++ s.replayed
  rw [h.written, h.replayed_nil hrec, List.append_nil, List.append_nil]

theorem append (h : Replayer s) (hrec : s.recording = true) : Replayer (s.append pkt) := by
  refine ⟨h.before, ?_, h.written, h.writing, h.running, h.late⟩
  have hprogress : Progress (s.buffer ++ [pkt]) s.replayed s.replay := by
    rw [h.before hrec]
    exact h.replayed_nil hrec
  exact hprogress

/-- The replay starts with nothing written. -/
theorem check {now : Int} (h : Replayer s) (hrec : s.recording = true) : Replayer (s.check pkt now) := by
  unfold State.check
  dsimp only
  split
  · refine ⟨fun hnot => ?_, h.replayed_nil hrec, h.written, fun _ _ _ hwrite => ?_, h.running, h.late⟩
    · cases hnot
    · cases hwrite
  · exact ⟨h.before, h.progress, h.written, h.writing, h.running, h.late⟩

/-- A step of the replay that writes nothing, and is not about to write after the stop. -/
theorem move (h : Replayer s) (hstarted : s.recording = false) {replay : Replay Header}
    (hprogress : Progress s.buffer s.replayed replay)
    (hwriting : ∀ buf pkt rest, replay = .write buf pkt rest → s.stopped = false) :
    Replayer {s with replay := replay} where
  before hrec := by
    have hrec : s.recording = true := hrec
    rw [hstarted] at hrec
    cases hrec
  progress := hprogress
  written := h.written
  writing buf pkt rest hwrite := h.running (hwriting buf pkt rest hwrite)
  running := h.running
  late := h.late

theorem snapshot (h : Replayer s) (hstarted : s.recording = false) (hreplay : s.replay = .started) :
    Replayer s.snapshot := by
  have hprogress := h.progress
  rw [hreplay] at hprogress
  have hnone : s.replayed = [] := hprogress
  refine h.move hstarted ?_ fun buf pkt rest hwrite => ?_
  · split
    · exact ⟨0, by rw [hnone]; exact List.nil_prefix⟩
    · exact ⟨rfl, 0, hnone⟩
  · split at hwrite <;> cases hwrite

theorem nextRound {buf : List (Packet Header)} (h : Replayer s) (hstarted : s.recording = false)
    (hreplay : s.replay = .loop buf) : Replayer (s.nextRound buf) := by
  have hprogress := h.progress
  rw [hreplay] at hprogress
  obtain ⟨rfl, n, hn⟩ := hprogress
  refine h.move hstarted ?_ fun buf pkt rest hwrite => ?_
  · split
    · exact ⟨n, by rw [hn]⟩
    · exact ⟨rfl, n, [], by rw [hn, List.append_nil], rfl⟩
  · split at hwrite <;> cases hwrite

theorem nextPacket {buf rest : List (Packet Header)} (h : Replayer s) (hstarted : s.recording = false)
    (hreplay : s.replay = .packet buf rest) : Replayer (s.nextPacket buf rest) := by
  have hprogress := h.progress
  rw [hreplay] at hprogress
  obtain ⟨rfl, n, done, hn, hdone⟩ := hprogress
  cases rest with
  | nil =>
    -- the round is over
    rw [List.append_nil] at hdone
    subst hdone
    exact h.move hstarted ⟨rfl, n + 1, by rw [hn, rounds_snoc]⟩ fun buf pkt rest hwrite => by cases hwrite
  | cons pkt rest =>
    refine h.move hstarted ?_ fun buf pkt rest hwrite => ?_
    · split
      · exact ⟨n + 1, by rw [hn]; exact prefix_rounds n hdone⟩
      · exact ⟨rfl, n, done, hn, hdone⟩
    · split at hwrite
      · cases hwrite
      · next hstopped => exact Bool.eq_false_iff.mpr hstopped

/-- A packet is written: the next of its round. -/
theorem writeRTP {buf rest : List (Packet Header)} {ok : Bool} (h : Replayer s) (hstarted : s.recording = false)
    (hreplay : s.replay = .write buf pkt rest) : Replayer (s.writeRTP buf pkt rest ok) := by
  have hprogress := h.progress
  have hlate := h.writing buf pkt rest hreplay
  rw [hreplay] at hprogress
  obtain ⟨rfl, n, done, hn, hdone⟩ := hprogress
  have hdone : done ++ [pkt] ++ rest = s.buffer := by rw [List.append_assoc, List.singleton_append, hdone]
  constructor
  · intro hrec
    have hrec : s.recording = true := hrec
    rw [hstarted] at hrec
    cases hrec
  · show Progress s.buffer (s.replayed ++ [pkt]) (if ok then .packet s.buffer rest else .returned)
    split
    · exact ⟨rfl, n, done ++ [pkt], by rw [hn, List.append_assoc], hdone⟩
    · exact ⟨n + 1, by rw [hn, List.append_assoc]; exact prefix_rounds n hdone⟩
  · show s.written ++ [pkt] = s.echoed ++ (s.replayed ++ [pkt])
    rw [h.written, List.append_assoc]
  · intro buf pkt rest hwrite
    simp only [State.writeRTP] at hwrite
    split at hwrite <;> cases hwrite
  · intro hrunning
    simp only [State.writeRTP] at hrunning ⊢
    rw [hrunning, hlate]
    rfl
  · simp only [State.writeRTP, hlate]
    split <;> decide

theorem step {l : Label Header} (h : Replayer s) (hrecorder : Recorder s) (hstep : Step s l s') : Replayer s' := by
  have hpending : ∀ {pkt}, s.reader = .echo pkt ∨ s.reader = .append pkt ∨ s.reader = .check pkt →
      s.recording = true := fun hreader =>
    hrecorder.recording_of_pending (by rintro (heq | heq) <;> simp [heq] at hreader)
  -- the replay has started, so the recording is over
  have hstarted : s.replay ≠ .notStarted → s.recording = false := fun hne =>
    Bool.eq_false_iff.mpr fun hrec => hne (h.before hrec)
  cases hstep with
  | read hreader hclock => exact h.readRTP
  | readFails hreader => exact ⟨h.before, h.progress, h.written, h.writing, h.running, h.late⟩
  | echo hreader => exact h.echo (hpending (.inl hreader))
  | append hreader => exact h.append (hpending (.inr (.inl hreader)))
  | check hreader hclock => exact h.check (hpending (.inr (.inr hreader)))
  | stop => exact ⟨h.before, h.progress, h.written, h.writing, (fun hnot => by cases hnot), h.late⟩
  | snapshot hreplay => exact h.snapshot (hstarted (by simp [hreplay])) hreplay
  | nextRound hreplay => exact h.nextRound (hstarted (by simp [hreplay])) hreplay
  | nextPacket hreplay => exact h.nextPacket (hstarted (by simp [hreplay])) hreplay
  | write hreplay => exact h.writeRTP (hstarted (by simp [hreplay])) hreplay

end Replayer

/-! ### Runs -/

/-- The packets a run reads from the remote track. -/
def packets (ls : List (Label Header)) : List (Packet Header) := ls.filterMap fun
  | .read pkt _ => some pkt
  | _ => none

structure Inv (seconds : Int) (ls : List (Label Header)) (s : State Header) : Prop where
  recorder : Recorder s
  replayer : Replayer s
  seconds : s.seconds = seconds
  incoming : s.incoming = packets ls
  written : s.replayed = [] ↔ ∀ ok, .write ok ∉ ls

section
variable {seconds : Int} {ls : List (Label Header)} {s s' : State Header} {l : Label Header}

theorem step_seconds (h : Step s l s') : s'.seconds = s.seconds := by
  cases h with
  | read | check => simp
  | @nextPacket buf rest => cases rest <;> rfl
  | readFails | echo | append | stop | snapshot | nextRound | write => rfl

theorem step_incoming (h : Step s l s') : s'.incoming = s.incoming ++ packets [l] := by
  cases h with
  | @read pkt now hreader =>
    have hpending : s.reader.pending = [] := by rw [hreader]; rfl
    cases hrec : s.recording with
    | true =>
      rw [State.readRTP_recording hrec, State.incoming, State.incoming, hpending, List.append_nil]
      rfl
    | false =>
      rw [State.readRTP_dropped hrec, State.incoming, State.incoming, hpending, List.append_nil, List.append_nil,
        List.map_append]
      rfl
  | @check pkt now hreader =>
    have hpending : s.reader.pending = [pkt] := by rw [hreader]; rfl
    rw [State.check_eq rfl, State.incoming, State.incoming, hpending]
    simp [Reader.pending, packets]
  | readFails hreader | echo hreader | append hreader => simp [State.incoming, State.echo, State.append, hreader, Reader.pending, packets]
  | @nextPacket buf rest => cases rest <;> simp [State.incoming, State.nextPacket, packets]
  | stop | snapshot | nextRound | write => simp [State.incoming, State.stop, State.snapshot, State.nextRound, State.writeRTP, packets]

theorem step_replayed (h : Step s l s') :
    s'.replayed = s.replayed ∧ (∀ ok, l ≠ .write ok) ∨ ∃ ok, l = .write ok ∧ s'.replayed ≠ [] := by
  cases h with
  | read | check => simp
  | @nextPacket buf rest => cases rest <;> exact .inl ⟨rfl, nofun⟩
  | @write buf pkt rest ok => exact .inr ⟨ok, rfl, List.append_ne_nil_of_right_ne_nil _ (List.cons_ne_nil _ _)⟩
  | readFails | echo | append | stop | snapshot | nextRound => exact .inl ⟨rfl, nofun⟩

theorem Inv.step (h : Inv seconds ls s) (hstep : Step s l s') : Inv seconds (ls ++ [l]) s' where
  recorder := h.recorder.step hstep
  replayer := h.replayer.step h.recorder hstep
  seconds := (step_seconds hstep).trans h.seconds
  incoming := by
    rw [step_incoming hstep, h.incoming, packets, packets, packets, ← List.filterMap_append]
  written := by
    obtain ⟨hsame, hnot⟩ | ⟨ok, rfl, hne⟩ := step_replayed hstep
    · rw [hsame, h.written]
      exact forall_congr' fun ok => by simp [(hnot ok).symm]
    · exact ⟨fun hnil => absurd hnil hne, fun hnot => absurd (by simp) (hnot ok)⟩

theorem run_inv (h : (system Header seconds).Run ls s) : Inv seconds ls s := by
  refine h.invariant (I := Inv seconds) ?_ fun _ _ _ _ _ hI hstep => hI.step hstep
  intro _ hinit
  obtain ⟨clock, rfl⟩ := hinit
  exact ⟨.new .., .new .., rfl, rfl, by simp [new]⟩

/-- Once the replay was started, nothing is echoed or kept. -/
theorem step_quiet (h : Recorder s) (hstarts : s.starts ≠ 0) (hstep : Step s l s') :
    s'.echoed = s.echoed ∧ s'.buffer = s.buffer := by
  have hrec : s.recording = false := by
    rw [h.starts] at hstarts
    cases hrec : s.recording with
    | false => rfl
    | true => simp [hrec] at hstarts
  have hidle := (h.past hrec).1
  cases hstep with
  | read => simp [State.readRTP, hrec]
  | echo hreader | append hreader | check hreader => simp [hreader, Reader.Idle] at hidle
  | @nextPacket buf rest => cases rest <;> exact ⟨rfl, rfl⟩
  | readFails | stop | snapshot | nextRound | write => exact ⟨rfl, rfl⟩

end

/-! ### The window in seconds -/

/-- Has the time since the first packet reached the number of seconds? -/
def reached (seconds start now : Int) : Bool := decide (seconds * second ≤ now - start)

/-- The window fits into 64 bits, or it is over at once both with and without the overflow. -/
def Fits (seconds : Int) : Prop :=
  minDuration ≤ seconds * second ∧ seconds * second ≤ maxDuration ∨
    seconds < 0 ∧ (seconds * second).bmod (2 ^ 64) ≤ 0

/-- What one loopback does in a run. -/
structure Delayed (ls : List (Label Header)) (s : State Header) : Prop where
  incoming : s.incoming = packets ls
  /-- The packets echoed and those kept: the ones read up to the end of the window. -/
  alike : s.reader.Idle → s.echoed = s.buffer ∧ s.buffer = s.recordedBy (reached s.seconds)
  kept : s.buffer <+: s.echoed
  once : s.starts ≤ 1
  quiet : s.starts ≠ 0 → ∀ l s', Step s l s' → s'.echoed = s.echoed ∧ s'.buffer = s.buffer
  rounds : ∃ n, s.replayed <+: rounds n s.buffer
  /-- Over and over, with none left out. -/
  item : ∀ i < s.replayed.length, s.replayed[i]? = s.buffer[i % s.buffer.length]?
  late : s.late ≤ 1

theorem windowOver_eq {seconds start now : Int} (h : Fits seconds) (htime : start ≤ now) :
    windowOver seconds start now = reached seconds start now := by
  rw [Bool.eq_iff_iff, windowOver_iff htime, reached, decide_eq_true_iff, window]
  obtain ⟨hmin, hmax⟩ | ⟨hneg, hle⟩ := h
  · rw [Int.bmod_eq_of_le (by unfold minDuration at hmin; omega) (by unfold maxDuration at hmax; omega)]
  · have hwindow : seconds * second ≤ 0 := by unfold second; omega
    exact ⟨fun _ => by omega, fun _ => by omega⟩

theorem Inv.delayed {seconds : Int} {ls : List (Label Header)} {s : State Header} (h : Inv seconds ls s)
    (hfits : Fits seconds) : Delayed ls s where
  incoming := h.incoming
  alike hidle := by
    have hechoed := h.recorder.echoed
    have hbuffer := h.recorder.buffer
    have hrecorded : s.recorded = s.recordedBy (reached s.seconds) := by
      unfold State.recorded State.recordedBy
      refine congrArg _ (upTo_congr fun x hx => ?_)
      cases hstart : s.recordStart with
      | none =>
        rw [(h.recorder.unread hstart).1] at hx
        cases hx
      | some start =>
        rw [h.seconds]
        exact windowOver_eq hfits ((h.recorder.times start hstart).2 x hx)
    obtain hreader | hreader := hidle <;> rw [hreader] at hechoed hbuffer <;>
      exact ⟨hechoed.trans hbuffer.symm, hbuffer.trans ((List.append_nil _).trans hrecorded)⟩
  kept := by
    rw [h.recorder.echoed, h.recorder.buffer]
    refine (List.prefix_append_right_inj _).mpr ?_
    cases s.reader with
    | check => exact List.prefix_rfl
    | read | echo | append | returned => exact List.nil_prefix
  once := by
    rw [h.recorder.starts]
    split <;> decide
  quiet hstarts l s' hstep := step_quiet h.recorder hstarts hstep
  rounds := h.replayer.progress.rounds
  item i hi := by
    obtain ⟨n, hn⟩ := h.replayer.progress.rounds
    exact getElem?_of_prefix_rounds hn hi
  late := h.replayer.late

/-- A run's first packet, read at the time 0 and checked at `now`. -/
def firstPacket (seconds : Int) (pkt : Packet Header) (now : Int) (past : Bool) : State Header where
  seconds := seconds
  buffer := [pkt]
  stopped := false
  recording := !past
  recordStart := some 0
  reader := .read
  replay := if past then .started else .notStarted
  clock := now
  log := [(pkt, now)]
  written := [pkt]
  echoed := [pkt]
  replayed := []
  starts := if past then 1 else 0
  late := 0

/-- A packet of the recording, read at the time `now` and checked at `later`. -/
theorem run_packet {seconds now later : Int} {ls : List (Label Header)} {s : State Header}
    (h : (system Header seconds).Run ls s) (pkt : Packet Header) (hreader : s.reader = .read)
    (hrec : s.recording = true) (hnow : s.clock ≤ now) (hlater : now ≤ later) :
    (system Header seconds).Run (ls ++ [.read pkt now, .echo, .append, .check later])
      ((((s.readRTP pkt now).echo pkt).append pkt).check pkt later) := by
  have hread : (s.readRTP pkt now).reader = .echo pkt ∧ (s.readRTP pkt now).clock = now := by
    simp [State.readRTP, hrec]
  have h₁ := h.snoc (show Step _ (.read pkt now) _ from .read hreader hnow)
  have h₂ := h₁.snoc (show Step _ .echo _ from .echo hread.1)
  have h₃ := h₂.snoc (show Step _ .append _ from .append rfl)
  have h₄ := h₃.snoc (show Step _ (.check later) _ from .check rfl (hread.2.trans_le hlater))
  simpa [List.append_assoc] using h₄

theorem run_firstPacket {seconds now : Int} (pkt : Packet Header) (h : 0 ≤ now) {past : Bool}
    (hover : windowOver seconds 0 now = past) :
    (system Header seconds).Run [.read pkt 0, .echo, .append, .check now] (firstPacket seconds pkt now past) := by
  have hrun := run_packet (.nil ⟨0, rfl⟩ : (system Header seconds).Run [] (new seconds 0)) pkt rfl rfl (Int.le_refl 0) h
  have heq : ((((new seconds 0).readRTP pkt 0).echo pkt).append pkt).check pkt now = firstPacket seconds pkt now past := by
    subst hover
    show (if windowOver seconds 0 now then _ else _) = _
    unfold firstPacket
    cases windowOver seconds 0 now <;> rfl
  rwa [heq] at hrun

/-- A window too long for 64 bits is over too early: the second packet is not echoed. -/
theorem too_early [Inhabited Header] {seconds : Int} (hlong : maxDuration < seconds * second) :
    ∃ ls, ∃ s : State Header, (system Header seconds).Run ls s ∧ ¬ Delayed ls s := by
  have hmax : max 0 (window seconds) ≤ maxDuration := Int.max_le.mpr ⟨by decide, (window_range seconds).2⟩
  have hnow : 0 ≤ max 0 (window seconds) := Int.le_max_left ..
  have hle : window seconds ≤ max 0 (window seconds) := Int.le_max_right ..
  generalize max 0 (window seconds) = now at hmax hnow hle
  have hover : windowOver seconds 0 now = true := (windowOver_iff hnow).mpr (by omega)
  have hreached : reached seconds 0 now = false := decide_eq_false (by omega)
  have h := (run_firstPacket (default : Packet Header) hnow hover).snoc
    (show Step _ (.read default now) _ from .read rfl (Int.le_refl _))
  refine ⟨_, _, h, fun hdelayed => ?_⟩
  have hbuffer := (hdelayed.alike (.inl rfl)).2
  simp [firstPacket, State.readRTP, State.recordedBy, hreached, upTo] at hbuffer

/-- A window too far below zero is not over at the first packet. -/
theorem too_late [Inhabited Header] {seconds : Int} (hneg : seconds * second < 0) (hpos : 0 < window seconds) :
    ∃ ls, ∃ s : State Header, (system Header seconds).Run ls s ∧ ¬ Delayed ls s := by
  have hover : windowOver seconds 0 0 = false :=
    Bool.eq_false_iff.mpr fun hover => by
      have hle := (windowOver_iff (Int.le_refl 0)).mp hover
      omega
  have hreached : reached seconds 0 0 = true := decide_eq_true (by omega)
  have h₀ := run_firstPacket (default : Packet Header) (Int.le_refl 0) hover
  have h₁ := run_packet h₀ (default : Packet Header) rfl rfl (Int.le_refl 0) (Int.le_refl 0)
  refine ⟨_, _, h₁, fun hdelayed => ?_⟩
  have hcheck : ∀ s : State Header, s.seconds = seconds → s.recordStart = some 0 →
      s.check default 0 = {s with clock := 0, reader := .read, log := s.log ++ [(default, 0)]} := by
    intro s hseconds hstart
    simp [State.check, hseconds, hstart, hover]
  rw [hcheck _ rfl rfl] at hdelayed
  have hbuffer := (hdelayed.alike (.inl rfl)).2
  simp [firstPacket, State.readRTP, State.echo, State.append, State.recordedBy, hreached, upTo] at hbuffer

/-- **In every run a loopback echoes, keeps and replays what the window says, exactly if the window fits.** -/
theorem delayed_loopback [Inhabited Header] (seconds : Int) :
    (∀ ls s, (system Header seconds).Run ls s → Delayed ls s) ↔ Fits seconds := by
  refine ⟨fun hall => ?_, fun hfits ls s h => (run_inv h).delayed hfits⟩
  by_contra hfits
  have hrange := not_or.mp hfits
  have hnot : ∃ ls, ∃ s : State Header, (system Header seconds).Run ls s ∧ ¬ Delayed ls s := by
    by_cases hlong : maxDuration < seconds * second
    · exact too_early hlong
    · have hmin : seconds * second < minDuration := by omega
      unfold minDuration at hmin
      have hpos : 0 < window seconds := by
        by_contra hle
        exact hrange.2 ⟨by unfold second at hmin; omega, Int.not_lt.mp hle⟩
      exact too_late (by omega) hpos
  obtain ⟨ls, s, hrun, hdelayed⟩ := hnot
  exact hdelayed (hall ls s hrun)

/-- The window of 9223372037 s is over after the first packet. -/
theorem long_window : ¬ ∀ (seconds : Int) (ls : List (Label Nat)) (s : State Nat),
    (system Nat seconds).Run ls s → Delayed ls s := by
  intro hall
  have hover : windowOver 9223372037 0 0 = true := by decide
  have h := (run_firstPacket (⟨1, []⟩ : Packet Nat) (Int.le_refl 0) hover).snoc
    (show Step _ (.read ⟨2, []⟩ 20000000) _ from .read rfl (by decide))
  have hbuffer := ((hall _ _ _ h).alike (.inl rfl)).2
  exact absurd hbuffer (by decide)

/-! ### Sequence numbers -/

section
variable (seq : Header → BitVec 16)

def numbers (l : List (Packet Header)) : List (BitVec 16) := l.map fun pkt => seq pkt.header

theorem numbers_append (l m : List (Packet Header)) : numbers seq (l ++ m) = numbers seq l ++ numbers seq m :=
  List.map_append

/-- What is echoed is the start of what is read. -/
theorem Recorder.echoed_start {s : State Header} (h : Recorder s) : s.echoed <+: s.incoming := by
  rw [h.echoed]
  cases hrec : s.recording with
  | true =>
    rw [h.recorded_eq hrec]
    refine (List.prefix_append_right_inj _).mpr ?_
    cases s.reader with
    | append pkt | check pkt => exact List.prefix_rfl
    | read | echo | returned => exact List.nil_prefix
  | false =>
    have hnone : s.reader.echoed = [] := by
      obtain hreader | hreader := (h.past hrec).1 <;> rw [hreader] <;> rfl
    rw [hnone, List.append_nil]
    exact ((upTo_start _ _).map _).trans (List.prefix_append _ _)

/-- What is written is what was echoed, and the start of rounds of it. -/
theorem Inv.advances {seconds : Int} {ls : List (Label Header)} {s : State Header} (hI : Inv seconds ls s)
    (hin : Advancing (numbers seq (packets ls))) :
    Advancing (numbers seq s.written) ↔ (∀ ok, .write ok ∉ ls) ∨ Seam (numbers seq s.recorded) := by
  have hechoed : Advancing (numbers seq s.echoed) := by
    rw [← hI.incoming] at hin
    exact advancing_start hin (hI.recorder.echoed_start.map _)
  rw [hI.replayer.written, numbers_append, ← hI.written]
  by_cases hnil : s.replayed = []
  · rw [hnil]
    simpa [numbers] using hechoed
  · have hrec : s.recording = false := Bool.eq_false_iff.mpr fun hrec => hnil (hI.replayer.replayed_nil hrec)
    have hbuffer : s.buffer = s.recorded ∧ s.echoed = s.recorded := by
      rw [hI.recorder.echoed, hI.recorder.buffer]
      obtain hreader | hreader := (hI.recorder.past hrec).1 <;> rw [hreader] <;>
        exact ⟨List.append_nil _, List.append_nil _⟩
    obtain ⟨n, hrounds⟩ := hI.replayer.progress.rounds
    rw [hbuffer.1] at hrounds
    rw [hbuffer.2] at hechoed ⊢
    have hhead : (numbers seq s.replayed).head? = (numbers seq s.recorded).head? := by
      unfold numbers
      rw [List.head?_map, List.head?_map, head?_of_prefix_rounds hrounds hnil]
    constructor
    · intro hadv
      refine .inr fun a ha b hb => ?_
      exact (advancing_append.mp hadv).2.2 a ha b (by rwa [hhead])
    · intro h
      obtain hnil' | hseam := h
      · exact absurd hnil' hnil
      · -- what is written is the start of one more round
        have hmore : numbers seq s.recorded ++ numbers seq s.replayed <+: rounds (n + 1) (numbers seq s.recorded) := by
          rw [rounds_succ, List.prefix_append_right_inj, numbers, numbers, ← map_rounds]
          exact hrounds.map _
        exact advancing_start (advancing_rounds hechoed hseam _) hmore

/-- A recording over at most half of the range of the numbers, and a packet of it sent again. -/
theorem Inv.goes_back {seconds : Int} {ls : List (Label Header)} {s : State Header} (hI : Inv seconds ls s)
    (hin : Advancing (numbers seq (packets ls))) {ok : Bool} (hwrite : .write ok ∈ ls) {a : BitVec 16}
    {l : List (BitVec 16)} (hrecorded : numbers seq s.recorded = a :: l) (hspan : span a l ≤ 2 ^ 15) :
    ¬ Advancing (numbers seq s.written) := by
  rw [hI.advances seq hin, hrecorded, not_or]
  exact ⟨fun hnone => hnone ok hwrite, seam_of_span hspan⟩

/-- **Where the numbers read advance, those written do until the replay, and then only if they advance at its seam.** -/
theorem replay_advances {seconds : Int} {ls : List (Label Header)} {s : State Header}
    (h : (system Header seconds).Run ls s) (hin : Advancing (numbers seq (packets ls))) :
    Advancing (numbers seq s.written) ↔ (∀ ok, .write ok ∉ ls) ∨ Seam (numbers seq s.recorded) :=
  (run_inv h).advances seq hin

end

/-- Three numbers that go all the way round: the first of them advances over the last. -/
theorem replay_advances_around : ∃ ls, ∃ s : State (BitVec 16), (system (BitVec 16) 5).Run ls s ∧
    .write true ∈ ls ∧ numbers id (packets ls) = [0, 0x6000, 0xC000] ∧
    (Advancing (numbers id s.written) ↔ (∀ ok, .write ok ∉ ls) ∨ Seam (numbers id s.recorded)) ∧
    numbers id s.written = [0, 0x6000, 0xC000, 0] := by
  have hover : windowOver 5 0 0 = false := by decide
  have h₁ := run_firstPacket (⟨0, []⟩ : Packet (BitVec 16)) (Int.le_refl 0) hover
  have h₂ := run_packet h₁ ⟨0x6000, []⟩ rfl rfl (Int.le_refl 0) (Int.le_refl 0)
  have h₃ := run_packet h₂ ⟨0xC000, []⟩ rfl rfl (show (0 : Int) ≤ 5000000000 by decide) (Int.le_refl _)
  have h₄ := h₃.snoc (show Step _ .snapshot _ from .snapshot rfl)
  have h₅ := h₄.snoc (show Step _ .nextRound _ from .nextRound rfl)
  have h₆ := h₅.snoc (show Step _ .nextPacket _ from .nextPacket rfl)
  have h₇ := h₆.snoc (show Step _ (.write true) _ from .write rfl)
  exact ⟨_, _, h₇, by simp, by decide, replay_advances id h₇ (by decide), by decide⟩

/-- Two packets with the numbers 1 and 2, and the first of them again. -/
theorem replay_goes_back : ¬ ∀ (seconds : Int) (ls : List (Label (BitVec 16))) (s : State (BitVec 16)),
    (system (BitVec 16) seconds).Run ls s → Advancing (numbers id (packets ls)) → Advancing (numbers id s.written) := by
  intro hall
  have hover : windowOver 5 0 0 = false := by decide
  have h₁ := run_firstPacket (⟨1, []⟩ : Packet (BitVec 16)) (Int.le_refl 0) hover
  have h₂ := run_packet h₁ ⟨2, []⟩ rfl rfl (show (0 : Int) ≤ 5000000000 by decide) (Int.le_refl _)
  have h₃ := h₂.snoc (show Step _ .snapshot _ from .snapshot rfl)
  have h₄ := h₃.snoc (show Step _ .nextRound _ from .nextRound rfl)
  have h₅ := h₄.snoc (show Step _ .nextPacket _ from .nextPacket rfl)
  have h₆ := h₅.snoc (show Step _ (.write true) _ from .write rfl)
  exact absurd (hall _ _ _ h₆ (by decide)) (by decide)

end RtcPlugin.Node.Loopback
