import RtcPlugin.Json.Numbers

/-! What a text reads as as a number.

The scripting language reads more than JSON's numbers: nothing is zero, there are other
bases and infinities, and what is no numeral is `NaN`. The digits of a natural number read
as it (`numeral_toDigits`). -/
namespace RtcPlugin

inductive JsNumber where
  | nan
  | infinite (negative : Bool)
  | finite (d : Decimal)
  deriving DecidableEq, Repr

namespace JsNumber

def ofNat (n : Nat) : JsNumber := .finite ⟨n, 0, true⟩

/-- What `if (v)` tests. -/
def truthy : JsNumber → Bool
  | .nan => false
  | .infinite _ => true
  | .finite d => !d.readsAsZero

theorem ofNat_truthy (n : Nat) : (ofNat n).truthy = decide (n ≠ 0) := by
  have hreads : Decimal.readsAsZero ⟨n, 0, true⟩ = ((n : Int) == 0) := Bool.or_false _
  show (!Decimal.readsAsZero ⟨n, 0, true⟩) = _
  rw [hreads]
  cases n <;> rfl

theorem ofNat_injective {n m : Nat} (h : ofNat n = ofNat m) : n = m := by
  cases h
  rfl

end JsNumber

namespace Json

/-- The digits of another base behind its prefix. -/
def radixNumeral (base : Nat) (cs : List Char) : JsNumber :=
  match cs, cs.mapM fun c => (hexDigit? c).filter (· < base) with
  | _ :: _, some ds => .ofNat (ds.foldl (fun n d => n * base + d) 0)
  | _, _ => .nan

/-- Digits with at most one point among or around them, and an exponent. -/
def decimalNumeral (cs : List Char) : Option Decimal :=
  let whole := digits cs
  let fraction := match whole.2 with
    | '.' :: rest => digits rest
    | rest => ([], rest)
  if whole.1 ++ fraction.1 = [] then none
  else match parseExponent fraction.2 with
    | some (e, []) => some ⟨natOf (whole.1 ++ fraction.1), e - fraction.1.length, whole.2.isEmpty⟩
    | _ => none

def unsignedNumeral (negative : Bool) (cs : List Char) : JsNumber :=
  if cs = "Infinity".toList then .infinite negative
  else match decimalNumeral cs with
    | some d => .finite (if negative then ⟨-d.mantissa, d.exponent, false⟩ else d)
    | none => .nan

/-- A text without white space around it, as `Number` reads it. -/
def numeral (cs : List Char) : JsNumber :=
  match cs with
  | [] => .ofNat 0
  | '-' :: rest => unsignedNumeral true rest
  | '+' :: rest => unsignedNumeral false rest
  | '0' :: c :: rest =>
    if c = 'x' ∨ c = 'X' then radixNumeral 16 rest
    else if c = 'o' ∨ c = 'O' then radixNumeral 8 rest
    else if c = 'b' ∨ c = 'B' then radixNumeral 2 rest
    else unsignedNumeral false cs
  | cs => unsignedNumeral false cs

theorem decimalNumeral_digits {ds : List Char} (h : AllDigits ds) (hne : ds ≠ []) :
    decimalNumeral ds = some ⟨natOf ds, 0, true⟩ := by
  have hdigits : digits ds = (ds, []) := by
    have hends := digits_append h (show ∀ c ∈ ([] : List Char).head?, c.isDigit = false by nofun)
    rwa [List.append_nil] at hends
  unfold decimalNumeral
  simp only [hdigits, List.append_nil, hne, if_false]
  rfl

theorem unsignedNumeral_digits {ds : List Char} (h : AllDigits ds) (hne : ds ≠ []) :
    unsignedNumeral false ds = .ofNat (natOf ds) := by
  have hinf : ds ≠ "Infinity".toList := by
    rintro rfl
    have : ('I' : Char).isDigit = true := h 'I' (by decide)
    cases this
  rw [unsignedNumeral, if_neg hinf, decimalNumeral_digits h hne]
  rfl

/-- A number's own digits read as it. -/
theorem numeral_toDigits (n : Nat) : numeral (Nat.toDigits 10 n) = .ofNat n := by
  have hall := allDigits_toDigits n
  have hread := unsignedNumeral_digits hall Nat.toDigits_ne_nil
  rw [natOf_toDigits] at hread
  have hzero : (Nat.toDigits 10 n).head? = some '0' → n = 0 := fun h => by
    by_contra hn
    exact head_toDigits (Nat.pos_of_ne_zero hn) h
  have hhead : ∀ c ∈ (Nat.toDigits 10 n).head?, c.isDigit = true := fun c hc => hall c (List.mem_of_mem_head? hc)
  by_cases hn : n = 0
  · subst hn
    rfl
  · unfold numeral
    split
    · next h => exact absurd h Nat.toDigits_ne_nil
    · next h => simp [h] at hhead
    · next h => simp [h] at hhead
    · next h => exact absurd (hzero (by rw [h]; rfl)) hn
    · exact hread

end Json
end RtcPlugin
