import Mathlib.Data.List.Basic
import Mathlib.Data.List.DropRight

/-! Bytes as text: hexadecimal, and base64 in the alphabet of URLs without padding.

Three bytes are four digits of six bits; one or two bytes at the end are two or
three digits, whose last bits a decoder does not look at. Decoding undoes encoding
(`decode_encode`); encoding does not undo decoding, for line breaks are passed over
and those last bits are free. The standard alphabet has two other signs, and padding
(`Base64.replaced_encode`). -/
namespace RtcPlugin

/-- `hex.EncodeToString` -/
def hexEncode (bytes : List UInt8) : String :=
  String.ofList (bytes.flatMap fun b => [Nat.digitChar (b.toNat / 16), Nat.digitChar (b.toNat % 16)])

namespace Base64Url

def digit (n : Nat) : Char :=
  if n < 26 then Char.ofNat ('A'.toNat + n)
  else if n < 52 then Char.ofNat ('a'.toNat + (n - 26))
  else if n < 62 then Char.ofNat ('0'.toNat + (n - 52))
  else if n = 62 then '-' else '_'

def value? (c : Char) : Option Nat :=
  if 'A' ≤ c ∧ c ≤ 'Z' then some (c.toNat - 'A'.toNat)
  else if 'a' ≤ c ∧ c ≤ 'z' then some (c.toNat - 'a'.toNat + 26)
  else if c.isDigit then some (c.toNat - '0'.toNat + 52)
  else if c = '-' then some 62
  else if c = '_' then some 63
  else none

/-- The values of the digits. -/
def sextets : List UInt8 → List Nat
  | a :: b :: c :: rest =>
    a.toNat / 4 :: (a.toNat % 4 * 16 + b.toNat / 16) :: (b.toNat % 16 * 4 + c.toNat / 64) :: c.toNat % 64 ::
      sextets rest
  | [a, b] => [a.toNat / 4, a.toNat % 4 * 16 + b.toNat / 16, b.toNat % 16 * 4]
  | [a] => [a.toNat / 4, a.toNat % 4 * 16]
  | [] => []

def bytes : List Nat → Option (List UInt8)
  | a :: b :: c :: d :: rest => (bytes rest).map fun out =>
    UInt8.ofNat (a * 4 + b / 16) :: UInt8.ofNat (b * 16 + c / 4) :: UInt8.ofNat (c * 64 + d) :: out
  | [a, b, c] => some [UInt8.ofNat (a * 4 + b / 16), UInt8.ofNat (b * 16 + c / 4)]
  | [a, b] => some [UInt8.ofNat (a * 4 + b / 16)]
  | [_] => none
  | [] => some []

/-- `base64.RawURLEncoding.EncodeToString` -/
def encode (data : List UInt8) : String := String.ofList ((sextets data).map digit)

/-- `base64.RawURLEncoding.DecodeString` -/
def decode (s : String) : Option (List UInt8) :=
  ((s.toList.filter fun c => c != '\r' && c != '\n').mapM value?).bind bytes

/-! ### Decoding undoes encoding -/

theorem sextets_lt (data : List UInt8) : ∀ n ∈ sextets data, n < 64 := by
  fun_induction sextets data with
  | case1 a b c rest ih =>
    have ha := a.toNat_lt
    have hb := b.toNat_lt
    have hc := c.toNat_lt
    simp only [List.forall_mem_cons]
    exact ⟨by omega, by omega, by omega, by omega, ih⟩
  | case2 a b =>
    have ha := a.toNat_lt
    have hb := b.toNat_lt
    simp only [List.forall_mem_cons]
    exact ⟨by omega, by omega, by omega, List.forall_mem_nil _⟩
  | case3 a =>
    have ha := a.toNat_lt
    simp only [List.forall_mem_cons]
    exact ⟨by omega, by omega, List.forall_mem_nil _⟩
  | case4 => exact List.forall_mem_nil _

/-- What the bits of a byte add up to. -/
theorem ofNat_eq {n : Nat} {b : UInt8} (h : n % 256 = b.toNat) : UInt8.ofNat n = b := by
  apply UInt8.toNat_inj.mp
  rw [UInt8.toNat_ofNat', h]

theorem bytes_sextets (data : List UInt8) : bytes (sextets data) = some data := by
  fun_induction sextets data with
  | case1 a b c rest ih =>
    have ha := a.toNat_lt
    have hb := b.toNat_lt
    have hc := c.toNat_lt
    rw [bytes, ih, Option.map_some, ofNat_eq (b := a) (by omega), ofNat_eq (b := b) (by omega),
      ofNat_eq (b := c) (by omega)]
  | case2 a b =>
    have ha := a.toNat_lt
    have hb := b.toNat_lt
    rw [bytes, ofNat_eq (b := a) (by omega), ofNat_eq (b := b) (by omega)]
  | case3 a =>
    have ha := a.toNat_lt
    rw [bytes, ofNat_eq (b := a) (by omega)]
  | case4 => rfl

/-- A letter, a digit, or one of the two signs of the alphabet. -/
def Plain (c : Char) : Prop := c.isAlphanum = true ∨ c = '-' ∨ c = '_'

instance (c : Char) : Decidable (Plain c) := inferInstanceAs (Decidable (_ ∨ _))

theorem digit_value : ∀ n < 64, value? (digit n) = some n ∧ Plain (digit n) := by
  decide

theorem plain_encode (data : List UInt8) : ∀ c ∈ (encode data).toList, Plain c := by
  intro c hc
  rw [encode, String.toList_ofList] at hc
  obtain ⟨n, hn, rfl⟩ := List.mem_map.mp hc
  exact (digit_value n (sextets_lt data n hn)).2

theorem plain_hexEncode (data : List UInt8) : ∀ c ∈ (hexEncode data).toList, Plain c := by
  have hdigit : ∀ n < 16, Plain (Nat.digitChar n) := by decide
  intro c hc
  rw [hexEncode, String.toList_ofList] at hc
  obtain ⟨b, _, hb⟩ := List.mem_flatMap.mp hc
  have hlt := b.toNat_lt
  simp only [List.mem_cons, List.not_mem_nil, or_false] at hb
  obtain rfl | rfl := hb
  · exact hdigit _ (by omega)
  · exact hdigit _ (by omega)

theorem mapM_digit {ns : List Nat} (h : ∀ n ∈ ns, n < 64) : (ns.map digit).mapM value? = some ns := by
  induction ns with
  | nil => rfl
  | cons n rest ih =>
    rw [List.forall_mem_cons] at h
    simp [List.mapM_cons, (digit_value n h.1).1, ih h.2]

/-- **Decoding undoes encoding.** -/
theorem decode_encode (data : List UInt8) : decode (encode data) = some data := by
  have hkeep : (encode data).toList.filter (fun c => c != '\r' && c != '\n') = (encode data).toList := by
    refine List.filter_eq_self.mpr fun c hc => ?_
    have hplain := plain_encode data c hc
    rw [Bool.and_eq_true, bne_iff_ne, bne_iff_ne]
    exact ⟨fun he => absurd hplain (by rw [he]; decide), fun he => absurd hplain (by rw [he]; decide)⟩
  rw [decode, hkeep, encode, String.toList_ofList, mapM_digit (sextets_lt data), Option.bind_some, bytes_sextets]

end Base64Url

/-! ### The standard alphabet -/

namespace Base64

def digit (n : Nat) : Char :=
  if n < 26 then Char.ofNat ('A'.toNat + n)
  else if n < 52 then Char.ofNat ('a'.toNat + (n - 26))
  else if n < 62 then Char.ofNat ('0'.toNat + (n - 52))
  else if n = 62 then '+' else '/'

/-- What fills the last group up to four digits. -/
def padding (data : List UInt8) : List Char := List.replicate ((3 - data.length % 3) % 3) '='

/-- `buffer.toString("base64")` -/
def encode (data : List UInt8) : List Char := (Base64Url.sextets data).map digit ++ padding data

/-- `text.replaceAll(old, new)` for single characters -/
def replaceAll (old new : Char) (text : List Char) : List Char := text.map fun c => if c = old then new else c

theorem replaceAll_digit : ∀ n < 64, (if (if digit n = '+' then '-' else digit n) = '/' then '_' else
    if digit n = '+' then '-' else digit n) = Base64Url.digit n ∧ Base64Url.digit n ≠ '=' := by
  decide

/-- The other alphabet for the two signs, and no padding. -/
theorem replaced_encode (data : List UInt8) :
    (replaceAll '/' '_' (replaceAll '+' '-' (encode data))).rdropWhile (· == '=') =
      (Base64Url.sextets data).map Base64Url.digit := by
  have hdigits : replaceAll '/' '_' (replaceAll '+' '-' ((Base64Url.sextets data).map digit)) =
      (Base64Url.sextets data).map Base64Url.digit := by
    rw [replaceAll, replaceAll, List.map_map, List.map_map]
    exact List.map_congr_left fun n hn => (replaceAll_digit n (Base64Url.sextets_lt data n hn)).1
  have hpadding : replaceAll '/' '_' (replaceAll '+' '-' (padding data)) = padding data := by
    simp [replaceAll, padding]
  have happend (old new : Char) (a b : List Char) : replaceAll old new (a ++ b) = replaceAll old new a ++ replaceAll old new b :=
    List.map_append
  rw [encode, happend, happend, hdigits, hpadding, padding]
  generalize (3 - data.length % 3) % 3 = k
  induction k with
  | zero =>
    rw [List.replicate_zero, List.append_nil, List.rdropWhile_eq_self_iff]
    intro hne
    obtain ⟨n, hn, hlast⟩ := List.mem_map.mp (List.getLast_mem hne)
    rw [← hlast, beq_iff_eq]
    exact (replaceAll_digit n (Base64Url.sextets_lt data n hn)).2
  | succ k ih =>
    rw [List.replicate_succ', ← List.append_assoc, List.rdropWhile_concat_pos _ _ _ (by decide)]
    exact ih

end Base64
end RtcPlugin
