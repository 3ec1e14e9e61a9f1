import Mathlib.Algebra.Order.Floor.Ring
import Mathlib.Data.Rat.Floor

/-! Byte buffers.

`subarray` and `copy` cut their bounds down to the buffers they are given; the
typed reads and writes throw where an offset or a value is out of range. An offset
is a number: one that is no integer is out of range too. -/
namespace RtcPlugin.Audio

abbrev Buffer := List UInt8

inductive RangeError where
  | offset
  | value
  deriving DecidableEq, Repr

namespace Buffer

def alloc (n : Nat) : Buffer := List.replicate n 0

def subarray (b : Buffer) (start stop : Nat) : Buffer := (b.take stop).drop start

/-- `source.copy(target)`: what does not fit is left out. -/
def copy (source target : Buffer) : Buffer := source.take target.length ++ target.drop source.length

/-- A byte index for a field of two bytes. -/
def index? (b : Buffer) (offset : ℚ) : Option Nat :=
  if offset.den = 1 ∧ 0 ≤ offset ∧ offset + 2 ≤ b.length then some offset.num.toNat else none

/-- Two bytes in two's complement. -/
def int16 (low high : UInt8) : ℤ :=
  let v : ℤ := low.toNat + 256 * high.toNat
  if v < 32768 then v else v - 65536

def lowByte (value : ℤ) : UInt8 := UInt8.ofNat ((value % 65536).toNat % 256)

def highByte (value : ℤ) : UInt8 := UInt8.ofNat ((value % 65536).toNat / 256)

def readInt16LE (b : Buffer) (offset : ℚ) : Except RangeError ℤ :=
  match b.index? offset with
  | some i => .ok (int16 (b.getD i 0) (b.getD (i + 1) 0))
  | none => .error .offset

def writeInt16LE (b : Buffer) (value : ℤ) (offset : ℚ) : Except RangeError Buffer :=
  if value < -32768 ∨ 32767 < value then .error .value
  else match b.index? offset with
    | some i => .ok ((b.set i (lowByte value)).set (i + 1) (highByte value))
    | none => .error .offset

theorem int16_bytes {value : ℤ} (h₀ : -32768 ≤ value) (h₁ : value ≤ 32767) :
    int16 (lowByte value) (highByte value) = value := by
  have hlow : (lowByte value).toNat = (value % 65536).toNat % 256 := by
    rw [lowByte, UInt8.toNat_ofNat', Nat.mod_mod]
  have hhigh : (highByte value).toNat = (value % 65536).toNat / 256 := by
    rw [highByte, UInt8.toNat_ofNat']
    omega
  unfold int16
  rw [hlow, hhigh]
  dsimp only
  split <;> omega

/-- The bits of a value are the two bytes it was read from. -/
theorem int16_emod (low high : UInt8) : int16 low high % 65536 = low.toNat + 256 * high.toNat := by
  have hlow := low.toNat_lt
  have hhigh := high.toNat_lt
  unfold int16
  dsimp only
  split <;> omega

theorem bytes_int16 (low high : UInt8) :
    lowByte (int16 low high) = low ∧ highByte (int16 low high) = high := by
  have hlow := low.toNat_lt
  have hnat : ((low.toNat : ℤ) + 256 * high.toNat).toNat = low.toNat + 256 * high.toNat := by omega
  unfold lowByte highByte
  rw [int16_emod, hnat]
  constructor
  · rw [show (low.toNat + 256 * high.toNat) % 256 = low.toNat by omega, UInt8.ofNat_toNat]
  · rw [show (low.toNat + 256 * high.toNat) / 256 = high.toNat by omega, UInt8.ofNat_toNat]

theorem int16_bounds (low high : UInt8) : -32768 ≤ int16 low high ∧ int16 low high < 32768 := by
  have hlow := low.toNat_lt
  have hhigh := high.toNat_lt
  unfold int16
  dsimp only
  split <;> constructor <;> omega

theorem index?_natCast {b : Buffer} {i : Nat} (h : i + 2 ≤ b.length) : b.index? i = some i := by
  have hle : (i : ℚ) + 2 ≤ b.length := by exact_mod_cast h
  unfold index?
  rw [if_pos ⟨Rat.den_natCast i, Nat.cast_nonneg i, hle⟩, Rat.num_natCast, Int.toNat_natCast]

/-! ### Whole samples -/

/-- The buffer of a list of samples. -/
def pcm (samples : List Int16) : Buffer := samples.flatMap fun s => [lowByte s.toInt, highByte s.toInt]

@[simp] theorem length_pcm (samples : List Int16) : (pcm samples).length = 2 * samples.length := by
  induction samples with
  | nil => rfl
  | cons s rest ih =>
    rw [pcm, List.flatMap_cons, List.length_append, ← pcm, ih]
    simp only [List.length_cons, List.length_nil]
    omega

theorem pcm_append (a b : List Int16) : pcm (a ++ b) = pcm a ++ pcm b := List.flatMap_append

/-- Every buffer of an even length is made of whole samples. -/
theorem exists_pcm {b : Buffer} (n : Nat) (h : b.length = 2 * n) : ∃ samples, b = pcm samples := by
  induction n generalizing b with
  | zero => exact ⟨[], List.length_eq_zero_iff.mp h⟩
  | succ n ih =>
    match b, h with
    | low :: high :: rest, h =>
      simp only [List.length_cons] at h
      obtain ⟨samples, hrest⟩ := ih (b := rest) (by omega)
      have hbounds := int16_bounds low high
      have hint : (Int16.ofInt (int16 low high)).toInt = int16 low high :=
        Int16.toInt_ofInt_of_le hbounds.1 hbounds.2
      obtain ⟨hlow, hhigh⟩ := bytes_int16 low high
      refine ⟨Int16.ofInt (int16 low high) :: samples, ?_⟩
      rw [pcm, List.flatMap_cons, ← pcm, ← hrest, hint, hlow, hhigh]
      rfl

theorem getD_pcm {samples : List Int16} {i : Nat} {s : Int16} (h : samples[i]? = some s) :
    (pcm samples).getD (2 * i) 0 = lowByte s.toInt ∧ (pcm samples).getD (2 * i + 1) 0 = highByte s.toInt := by
  induction samples generalizing i with
  | nil => cases h
  | cons a rest ih =>
    cases i with
    | zero =>
      cases h
      exact ⟨rfl, rfl⟩
    | succ i => exact ih h

/-- A read at a sample gives the sample. -/
theorem readInt16LE_pcm {samples : List Int16} {i : Nat} {s : Int16} (h : samples[i]? = some s) :
    (pcm samples).readInt16LE (2 * i : Nat) = .ok s.toInt := by
  have hi : i < samples.length := (List.getElem?_eq_some_iff.mp h).1
  obtain ⟨hlow, hhigh⟩ := getD_pcm h
  have hbytes := int16_bytes s.le_toInt (Int.le_of_lt_add_one s.toInt_lt)
  unfold readInt16LE
  rw [index?_natCast (by rw [length_pcm]; omega)]
  dsimp only
  rw [hlow, hhigh, hbytes]

/-- A write behind the samples written so far adds a sample. -/
theorem writeInt16LE_pcm (samples : List Int16) (s : Int16) (a b : UInt8) (rest : Buffer) :
    (pcm samples ++ a :: b :: rest).writeInt16LE s.toInt (2 * samples.length : Nat) =
      .ok (pcm (samples ++ [s]) ++ rest) := by
  have hlow := s.le_toInt
  have hhigh := s.toInt_lt
  have hlen : (pcm samples).length = 2 * samples.length := length_pcm samples
  unfold writeInt16LE
  rw [if_neg (by omega), index?_natCast (by simp only [List.length_append, List.length_cons]; omega)]
  dsimp only
  rw [← hlen, List.set_append_right _ _ (Nat.le_refl _), Nat.sub_self, List.set_cons_zero,
    List.set_append_right _ _ (Nat.le_succ _), Nat.succ_sub (Nat.le_refl _), Nat.sub_self, pcm_append,
    List.append_assoc]
  rfl

/-! ### Fields of four bytes, most significant first -/

def uint32 (a b c d : UInt8) : Nat := ((a.toNat * 256 + b.toNat) * 256 + c.toNat) * 256 + d.toNat

def readUInt32BE (b : Buffer) (offset : Nat) : Except RangeError Nat :=
  match b.drop offset with
  | a :: b :: c :: d :: _ => .ok (uint32 a b c d)
  | _ => .error .offset

def writeUInt32BE (b : Buffer) (value offset : Nat) : Except RangeError Buffer :=
  if 2 ^ 32 ≤ value then .error .value
  else if b.length < offset + 4 then .error .offset
  else .ok (b.take offset ++ [UInt8.ofNat (value / 2 ^ 24), UInt8.ofNat (value / 2 ^ 16), UInt8.ofNat (value / 2 ^ 8),
    UInt8.ofNat value] ++ b.drop (offset + 4))

theorem uint32_bytes {value : Nat} (h : value < 2 ^ 32) : uint32 (UInt8.ofNat (value / 2 ^ 24))
    (UInt8.ofNat (value / 2 ^ 16)) (UInt8.ofNat (value / 2 ^ 8)) (UInt8.ofNat value) = value := by
  unfold uint32
  simp only [UInt8.toNat_ofNat']
  omega

/-- Inside a buffer a read gives a value. -/
theorem exists_readUInt32BE {b : Buffer} {offset : Nat} (h : offset + 4 ≤ b.length) :
    ∃ value, b.readUInt32BE offset = .ok value := by
  have hlen : 4 ≤ (b.drop offset).length := by
    rw [List.length_drop]
    omega
  unfold readUInt32BE
  match b.drop offset, hlen with
  | a :: b :: c :: d :: _, _ => exact ⟨uint32 a b c d, rfl⟩

end Buffer
end RtcPlugin.Audio
