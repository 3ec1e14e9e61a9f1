import RtcPlugin.Audio.Buffer

/-! The frames of the speech service.

Four bytes of header, four of the payload's size, and the payload. The reader takes
the same nibbles that the writer shifted into place, and as much of what follows as
the size says: frames are read back whatever follows them (`readFrame_frame`). -/
namespace RtcPlugin.TsNode
open Audio (Buffer RangeError)

def PROTOCOL_VERSION : Nat := 0x01
def HEADER_SIZE_UNITS : Nat := 0x01

def MSG_FULL_CLIENT : Nat := 0x01
def MSG_AUDIO_ONLY_CLIENT : Nat := 0x09
def MSG_AUDIO_ONLY_SERVER : Nat := 0x0b
def MSG_ERROR_SERVER : Nat := 0x0f

def SERIAL_JSON : Nat := 0x01
def SERIAL_NONE : Nat := 0x00

def COMPRESS_NONE : Nat := 0x00

/-- What a byte of a buffer takes of a number. -/
def toByte (n : Nat) : UInt8 := UInt8.ofNat n

def buildHeader (msgType serialization payloadSize : Nat) : Except RangeError Buffer :=
  let header := Buffer.alloc 8
  let header := header.set 0 (toByte (PROTOCOL_VERSION <<< 4 ||| HEADER_SIZE_UNITS))
  let header := header.set 1 (toByte (msgType <<< 4 ||| 0x00))
  let header := header.set 2 (toByte (serialization <<< 4 ||| COMPRESS_NONE))
  let header := header.set 3 0x00
  Buffer.writeUInt32BE header payloadSize 4

/-- A header and its payload, as `sendJsonFrame` and `sendAudioFrame` put them together. -/
def frame (msgType serialization : Nat) (payload : Buffer) : Except RangeError Buffer := do
  let header ← buildHeader msgType serialization payload.length
  return header ++ payload

def sendJsonFrame (payloadBuf : Buffer) : Except RangeError Buffer := frame MSG_FULL_CLIENT SERIAL_JSON payloadBuf

def sendAudioFrame (pcmData : Buffer) : Except RangeError Buffer := frame MSG_AUDIO_ONLY_CLIENT SERIAL_NONE pcmData

structure Frame where
  msgType : Nat
  serialization : Nat
  payload : Buffer
  deriving DecidableEq, Repr

/-- `(data[i] >> 4) & 0x0f` -/
def highNibble (data : Buffer) (i : Nat) : Nat := (data.getD i 0).toNat >>> 4 &&& 0x0f

/-- The beginning of `handleMessage`: what it reads off the data, unless they are too short. -/
def readFrame (data : Buffer) : Except RangeError (Option Frame) :=
  if data.length < 8 then .ok none
  else do
    let msgType := highNibble data 1
    let serialization := highNibble data 2
    let payloadSize ← Buffer.readUInt32BE data 4
    let payload := Buffer.subarray data 8 (8 + payloadSize)
    return some ⟨msgType, serialization, payload⟩

theorem nibble_toByte {n : Nat} (h : n < 16) : (toByte (n <<< 4)).toNat >>> 4 &&& 0x0f = n := by
  revert n
  decide

/-- The header, byte by byte. -/
theorem buildHeader_eq {msgType serialization payloadSize : Nat} (h : payloadSize < 2 ^ 32) :
    buildHeader msgType serialization payloadSize = .ok [0x11, toByte (msgType <<< 4), toByte (serialization <<< 4), 0,
      UInt8.ofNat (payloadSize / 2 ^ 24), UInt8.ofNat (payloadSize / 2 ^ 16), UInt8.ofNat (payloadSize / 2 ^ 8),
      UInt8.ofNat payloadSize] := by
  have hzero : ∀ n : Nat, n ||| 0 = n := Nat.or_zero
  unfold buildHeader Buffer.writeUInt32BE
  dsimp only
  rw [if_neg (Nat.not_le.mpr h), hzero, COMPRESS_NONE, hzero]
  rfl

/-- What is read off a header and what follows it. -/
theorem readFrame_cons (a b c d e f g i : UInt8) (rest : Buffer) :
    readFrame (a :: b :: c :: d :: e :: f :: g :: i :: rest) =
      .ok (some ⟨b.toNat >>> 4 &&& 0x0f, c.toNat >>> 4 &&& 0x0f, rest.take (Buffer.uint32 e f g i)⟩) := by
  have hsub : ∀ n, Buffer.subarray (a :: b :: c :: d :: e :: f :: g :: i :: rest) 8 (8 + n) = rest.take n := by
    intro n
    rw [Nat.add_comm]
    rfl
  have hlen : ¬ List.length (a :: b :: c :: d :: e :: f :: g :: i :: rest) < 8 := by
    simp only [List.length_cons]
    omega
  unfold readFrame
  rw [if_neg hlen, ← hsub]
  rfl

/-- A frame is read back, whatever follows it. -/
theorem readFrame_frame {msgType serialization : Nat} {payload : Buffer} (ht : msgType < 16) (hs : serialization < 16)
    (hp : payload.length < 2 ^ 32) : ∃ data, frame msgType serialization payload = .ok data ∧
      ∀ trailing, readFrame (data ++ trailing) = .ok (some ⟨msgType, serialization, payload⟩) := by
  unfold frame
  rw [buildHeader_eq hp]
  refine ⟨_, rfl, fun trailing => ?_⟩
  simp only [List.cons_append, List.nil_append]
  rw [readFrame_cons, nibble_toByte ht, nibble_toByte hs, Buffer.uint32_bytes hp, List.take_left]

/-- From eight bytes on there is a frame, inside the data. -/
theorem readFrame_total {data : Buffer} (h : 8 ≤ data.length) : ∃ size payload, Buffer.readUInt32BE data 4 = .ok size ∧
    readFrame data = .ok (some ⟨highNibble data 1, highNibble data 2, payload⟩) ∧
      payload <+: data.drop 8 ∧ payload.length ≤ size := by
  obtain ⟨size, hsize⟩ := Buffer.exists_readUInt32BE (show 4 + 4 ≤ data.length from h)
  refine ⟨size, Buffer.subarray data 8 (8 + size), hsize, ?_, ?_, ?_⟩
  · unfold readFrame
    rw [if_neg (Nat.not_lt.mpr h), hsize]
    rfl
  · unfold Buffer.subarray
    rw [List.drop_take]
    exact List.take_prefix ..
  · unfold Buffer.subarray
    rw [List.length_drop, List.length_take]
    omega

/-- **Frames are read back**: whatever follows, so that different frames are different
data; and from eight bytes on something is read, inside the data. -/
theorem frames_read_back : (∀ msgType serialization payload, msgType < 16 → serialization < 16 →
      payload.length < 2 ^ 32 → ∃ data, frame msgType serialization payload = .ok data ∧
        (∀ trailing, readFrame (data ++ trailing) = .ok (some ⟨msgType, serialization, payload⟩)) ∧
        ∀ msgType' serialization' payload', msgType' < 16 → serialization' < 16 → payload'.length < 2 ^ 32 →
          frame msgType' serialization' payload' = .ok data →
          msgType' = msgType ∧ serialization' = serialization ∧ payload' = payload) ∧
    ∀ data : Buffer, 8 ≤ data.length → data[1]?.isSome ∧ data[2]?.isSome ∧
      ∃ size payload, Buffer.readUInt32BE data 4 = .ok size ∧
        readFrame data = .ok (some ⟨highNibble data 1, highNibble data 2, payload⟩) ∧
          payload <+: data.drop 8 ∧ payload.length ≤ size := by
  constructor
  · intro msgType serialization payload ht hs hp
    obtain ⟨data, hdata, hread⟩ := readFrame_frame ht hs hp
    refine ⟨data, hdata, hread, fun msgType' serialization' payload' ht' hs' hp' hdata' => ?_⟩
    obtain ⟨data', heq, hread'⟩ := readFrame_frame ht' hs' hp'
    obtain rfl : data' = data := Except.ok.inj (heq.symm.trans hdata')
    have hsame := (hread' []).symm.trans (hread [])
    cases hsame
    exact ⟨rfl, rfl, rfl⟩
  · intro data h
    refine ⟨?_, ?_, readFrame_total h⟩
    · rw [List.getElem?_eq_getElem (by omega)]
      rfl
    · rw [List.getElem?_eq_getElem (by omega)]
      rfl

/-- Two bytes of audio, and a byte that follows them. -/
theorem frames_read_back_audio : ∃ data, sendAudioFrame [1, 2] = .ok data ∧
    readFrame (data ++ [7]) = .ok (some ⟨MSG_AUDIO_ONLY_CLIENT, SERIAL_NONE, [1, 2]⟩) ∧
      ∃ size payload, Buffer.readUInt32BE [0x11, 0xB0, 0, 0, 0, 0, 0, 9, 5] 4 = .ok size ∧
        readFrame [0x11, 0xB0, 0, 0, 0, 0, 0, 9, 5] = .ok (some ⟨MSG_AUDIO_ONLY_SERVER, SERIAL_NONE, payload⟩) ∧
          payload <+: [5] ∧ payload.length ≤ size := by
  obtain ⟨data, hdata, hread, _⟩ := frames_read_back.1 MSG_AUDIO_ONLY_CLIENT SERIAL_NONE [1, 2] (by decide) (by decide) (by decide)
  exact ⟨data, hdata, hread [7], (frames_read_back.2 [0x11, 0xB0, 0, 0, 0, 0, 0, 9, 5] (by decide)).2.2⟩

end RtcPlugin.TsNode
