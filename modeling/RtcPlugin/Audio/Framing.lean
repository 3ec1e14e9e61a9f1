import Mathlib.Data.PNat.Basic
import RtcPlugin.Audio.Buffer
import RtcPlugin.Stream.Cut

/-! Frames of a fixed size: a whole buffer at once, or as the bytes come in.

Both loops cut their input (`chunkPcm_cut`, `push_cut`). A cut is unique and goes
on where it stopped, so the frames do not depend on how the bytes were split
(`framing`). -/
namespace RtcPlugin.Audio
open Buffer

/-- A copy at the start of a zeroed buffer of the size. -/
def padded (size : ℕ+) (b : Buffer) : Buffer := b.copy (alloc size)

/-- The loop of `chunkPcm`, from the index `i` on. -/
def chunksFrom (audio : Buffer) (chunkSize : ℕ+) (i : Nat) : List Buffer :=
  if i < audio.length then
    let stop := min (i + chunkSize) audio.length
    let chunk := audio.subarray i stop
    (if chunk.length < chunkSize then padded chunkSize chunk else chunk) :: chunksFrom audio chunkSize (i + chunkSize)
  else []
termination_by audio.length - i
decreasing_by
  have := chunkSize.pos
  omega

/-- Everything the generator yields. -/
def chunkPcm (audio : Buffer) (chunkSize : ℕ+) : List Buffer := chunksFrom audio chunkSize 0

structure AudioFrameAccumulator where
  buffer : Buffer
  frameSize : ℕ+

namespace AudioFrameAccumulator

def new (frameSize : ℕ+) : AudioFrameAccumulator := ⟨alloc 0, frameSize⟩

/-- The loop of `push`: the complete frames, and what is left of the buffer. -/
def drain (frameSize : ℕ+) (buffer : Buffer) : List Buffer × Buffer :=
  if frameSize ≤ buffer.length then
    let rest := drain frameSize (buffer.subarray frameSize buffer.length)
    (buffer.subarray 0 frameSize :: rest.1, rest.2)
  else ([], buffer)
termination_by buffer.length
decreasing_by
  have := frameSize.pos
  simp only [subarray, List.take_length, List.length_drop]
  omega

def push (a : AudioFrameAccumulator) (data : Buffer) : List Buffer × AudioFrameAccumulator :=
  let drained := drain a.frameSize (a.buffer ++ data)
  (drained.1, {a with buffer := drained.2})

def flush (a : AudioFrameAccumulator) : Option Buffer × AudioFrameAccumulator :=
  if a.buffer.length = 0 then (none, a)
  else (some (padded a.frameSize a.buffer), {a with buffer := alloc 0})

def reset (a : AudioFrameAccumulator) : AudioFrameAccumulator := {a with buffer := alloc 0}

/-- Buffers pushed one after the other: all their frames, and the accumulator left. -/
def pushAll (a : AudioFrameAccumulator) : List Buffer → List Buffer × AudioFrameAccumulator
  | [] => ([], a)
  | data :: rest =>
    let pushed := a.push data
    let more := pushed.2.pushAll rest
    (pushed.1 ++ more.1, more.2)

end AudioFrameAccumulator

/-! ### Padding -/

theorem padded_eq {size : ℕ+} {b : Buffer} (h : b.length ≤ size) :
    padded size b = b ++ List.replicate (size - b.length) 0 := by
  unfold padded copy alloc
  rw [List.length_replicate, List.take_of_length_le h, List.drop_replicate]

/-- What a rest of the bytes adds to the frames: nothing, or itself padded. -/
def lastFrame (size : ℕ+) (rest : Buffer) : Option Buffer :=
  if rest.length = 0 then none else some (padded size rest)

/-! ### A whole buffer -/

/-- Chunks from `i` on are those of a cut of what follows `i`, with the rest padded. -/
theorem chunksFrom_cut (audio : Buffer) (size : ℕ+) (i : Nat) : ∃ pieces rest,
    Cut size (audio.drop i) pieces rest ∧ chunksFrom audio size i = pieces ++ (lastFrame size rest).toList := by
  have hpos := size.pos
  induction i using chunksFrom.induct audio size with
  | case1 i hi ih =>
    obtain ⟨pieces, rest, hcut, heq⟩ := ih
    rw [chunksFrom, if_pos hi]
    dsimp only
    by_cases hfull : i + size ≤ audio.length
    · have hchunk : audio.subarray i (min (i + size) audio.length) = (audio.drop i).take size := by
        rw [Nat.min_eq_left hfull, subarray, List.drop_take, Nat.add_sub_cancel_left]
      have hlen : (size : Nat) ≤ (audio.drop i).length := by
        rw [List.length_drop]
        omega
      refine ⟨(audio.drop i).take size :: pieces, rest, .cons hlen ?_, ?_⟩
      · rwa [List.drop_drop]
      · rw [hchunk, List.length_take_of_le hlen, if_neg (Nat.lt_irrefl _), heq, List.cons_append]
    · have hchunk : audio.subarray i (min (i + size) audio.length) = audio.drop i := by
        rw [Nat.min_eq_right (by omega), subarray, List.take_length]
      have hlen : (audio.drop i).length < size := by
        rw [List.length_drop]
        omega
      have hne : (audio.drop i).length ≠ 0 := by
        rw [List.length_drop]
        omega
      have hend : chunksFrom audio size (i + size) = [] := by
        rw [chunksFrom, if_neg (by omega)]
      refine ⟨[], audio.drop i, .nil hlen, ?_⟩
      rw [hchunk, if_pos hlen, hend, lastFrame, if_neg hne]
      rfl
  | case2 i hi =>
    have hnil : audio.drop i = [] := List.drop_eq_nil_of_le (by omega)
    refine ⟨[], [], ?_, ?_⟩
    · rw [hnil]
      exact .nil hpos
    · rw [chunksFrom, if_neg hi]
      rfl

theorem chunkPcm_cut {audio : Buffer} {size : ℕ+} {pieces : List Buffer} {rest : Buffer}
    (h : Cut size audio pieces rest) : chunkPcm audio size = pieces ++ (lastFrame size rest).toList := by
  obtain ⟨pieces', rest', hcut, heq⟩ := chunksFrom_cut audio size 0
  rw [List.drop_zero] at hcut
  obtain ⟨rfl, rfl⟩ := h.unique hcut
  exact heq

/-! ### Bytes as they come -/

namespace AudioFrameAccumulator

theorem drain_cut (size : ℕ+) (b : Buffer) : Cut size b (drain size b).1 (drain size b).2 := by
  induction b using drain.induct size with
  | case1 b hfull ih =>
    have hhead : b.subarray 0 size = b.take size := by rw [subarray, List.drop_zero]
    have htail : b.subarray size b.length = b.drop size := by rw [subarray, List.take_length]
    rw [htail] at ih
    rw [drain, if_pos hfull]
    dsimp only
    rw [hhead, htail]
    exact .cons hfull ih
  | case2 b hshort =>
    rw [drain, if_neg hshort]
    exact .nil (Nat.not_le.mp hshort)

@[simp] theorem push_frameSize (a : AudioFrameAccumulator) (data : Buffer) :
    (a.push data).2.frameSize = a.frameSize := rfl

@[simp] theorem pushAll_frameSize (a : AudioFrameAccumulator) (datas : List Buffer) :
    (a.pushAll datas).2.frameSize = a.frameSize := by
  induction datas generalizing a with
  | nil => rfl
  | cons data rest ih => exact ih (a.push data).2

/-- A push goes on cutting where the last one stopped. -/
theorem push_cut {a : AudioFrameAccumulator} {l : Buffer} {frames : List Buffer}
    (h : Cut a.frameSize l frames a.buffer) (data : Buffer) :
    Cut a.frameSize (l ++ data) (frames ++ (a.push data).1) (a.push data).2.buffer :=
  h.append (drain_cut a.frameSize (a.buffer ++ data))

theorem pushAll_cut {a : AudioFrameAccumulator} {l : Buffer} {frames : List Buffer}
    (h : Cut a.frameSize l frames a.buffer) (datas : List Buffer) :
    Cut a.frameSize (l ++ datas.flatten) (frames ++ (a.pushAll datas).1) (a.pushAll datas).2.buffer := by
  induction datas generalizing a l frames with
  | nil =>
    rw [List.flatten_nil, List.append_nil]
    show Cut _ _ (frames ++ []) _
    rwa [List.append_nil]
  | cons data rest ih =>
    have hrest := ih (a := (a.push data).2) (push_cut h data)
    rw [List.flatten_cons, ← List.append_assoc]
    show Cut _ _ (frames ++ ((a.push data).1 ++ ((a.push data).2.pushAll rest).1)) _
    rw [← List.append_assoc]
    exact hrest

theorem new_cut (size : ℕ+) : Cut size [] [] (new size).buffer := .nil size.pos

theorem flush_eq (a : AudioFrameAccumulator) : a.flush.1 = lastFrame a.frameSize a.buffer := by
  unfold flush lastFrame
  split <;> rfl

end AudioFrameAccumulator
open AudioFrameAccumulator

/-- **Streaming is batching.** Whatever buffers are pushed, the frames and the flushed
one are the chunks of all the bytes; nothing is lost between, and only zeros are added. -/
theorem framing (size : ℕ+) (datas : List Buffer) :
    let frames := ((new size).pushAll datas).1
    let a := ((new size).pushAll datas).2
    frames ++ a.flush.1.toList = chunkPcm datas.flatten size ∧
      a.buffer.length < size ∧
      (∀ frame ∈ frames, frame.length = size) ∧
      frames.flatten ++ a.buffer = datas.flatten ∧
      a.flush.1 = (if a.buffer = [] then none else some (a.buffer ++ List.replicate (size - a.buffer.length) 0)) ∧
      a.flush.2.buffer = [] := by
  intro frames a
  have hcut : Cut size datas.flatten frames a.buffer := pushAll_cut (a := new size) (new_cut size) datas
  have hsize : a.frameSize = size := pushAll_frameSize (new size) datas
  have hflush : a.flush.1 = lastFrame size a.buffer := by
    rw [flush_eq, hsize]
  refine ⟨?_, hcut.short, hcut.sizes, hcut.whole, ?_, ?_⟩
  · rw [hflush, chunkPcm_cut hcut]
  · rw [hflush, lastFrame, padded_eq (Nat.le_of_lt hcut.short)]
    simp only [List.length_eq_zero_iff]
  · unfold AudioFrameAccumulator.flush
    split
    · next hnil => exact List.length_eq_zero_iff.mp hnil
    · rfl

end RtcPlugin.Audio
