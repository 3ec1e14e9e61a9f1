import Mathlib.Algebra.GroupWithZero.Nat
import Mathlib.Data.List.TakeDrop
import RtcPlugin.Json.Parse

/-! Numbers as text.

A number of the scripting language is written as the shortest decimal that reads as
it, laid out by its size. `Canonical` is such a decimal, and its text is read as it
(`parseNumber_text`). -/
namespace RtcPlugin

/-- Digits with the decimal point `n` places to the right of their beginning. -/
def layout (ds : List Char) (n : Int) : List Char :=
  if ds.length ≤ n ∧ n ≤ 21 then ds ++ List.replicate (n - ds.length).toNat '0'
  else if 0 < n ∧ n ≤ 21 then ds.take n.toNat ++ '.' :: ds.drop n.toNat
  else if -6 < n ∧ n ≤ 0 then '0' :: '.' :: (List.replicate (-n).toNat '0' ++ ds)
  else
    let fraction := if ds.length = 1 then [] else '.' :: ds.drop 1
    let sign := if n - 1 < 0 then '-' else '+'
    ds.take 1 ++ fraction ++ 'e' :: sign :: Nat.toDigits 10 (n - 1).natAbs

def Decimal.text (d : Decimal) : List Char :=
  let ds := Nat.toDigits 10 d.mantissa.natAbs
  (if d.mantissa < 0 then ['-'] else []) ++ layout ds (ds.length + d.exponent)

/-- Written with its own digits, trailing zeros in the exponent. -/
structure Decimal.Canonical (d : Decimal) : Prop where
  zero : d.mantissa = 0 → d.exponent = 0
  normal : d.mantissa ≠ 0 → d.mantissa.natAbs % 10 ≠ 0
  plain : d.plain = decide (0 ≤ d.mantissa ∧ 0 ≤ d.exponent ∧
    (Nat.toDigits 10 d.mantissa.natAbs).length + d.exponent ≤ 21)

namespace Json

/-- A number's text ends where no character comes that could continue it. -/
def Ends (rest : List Char) : Prop := ∀ c ∈ rest.head?, c.isDigit = false ∧ c ≠ '.' ∧ c ≠ 'e' ∧ c ≠ 'E'

def AllDigits (ds : List Char) : Prop := ∀ c ∈ ds, c.isDigit = true

theorem digits_append {ds rest : List Char} (h : AllDigits ds) (hrest : ∀ c ∈ rest.head?, c.isDigit = false) :
    digits (ds ++ rest) = (ds, rest) := by
  unfold digits
  rw [List.span_eq_takeWhile_dropWhile]
  have hstop : rest.takeWhile Char.isDigit = [] ∧ rest.dropWhile Char.isDigit = rest := by
    cases rest with
    | nil => exact ⟨rfl, rfl⟩
    | cons c rest =>
      have hc : c.isDigit = false := hrest c rfl
      simp [hc]
  rw [List.takeWhile_append_of_pos h, List.dropWhile_append_of_pos h, hstop.1, hstop.2, List.append_nil]

theorem natOf_eq (ds : List Char) : natOf ds = Nat.ofDigitChars 10 ds 0 := by
  unfold natOf Nat.ofDigitChars
  simp only [Nat.mul_comm]

theorem natOf_toDigits (n : Nat) : natOf (Nat.toDigits 10 n) = n := by
  rw [natOf_eq, Nat.ofDigitChars_toDigits (by decide) (by decide)]

theorem natOf_zeros (ds : List Char) (j : Nat) : natOf (ds ++ List.replicate j '0') = natOf ds * 10 ^ j := by
  rw [natOf_eq, Nat.ofDigitChars_append, Nat.ofDigitChars_replicate_zero, natOf_eq, Nat.mul_comm]

theorem natOf_leading (ds : List Char) (j : Nat) : natOf (List.replicate j '0' ++ ds) = natOf ds := by
  rw [natOf_eq, Nat.ofDigitChars_append, Nat.ofDigitChars_replicate_zero, Nat.mul_zero, natOf_eq]

theorem allDigits_toDigits (n : Nat) : AllDigits (Nat.toDigits 10 n) :=
  fun _ hc => Nat.isDigit_of_mem_toDigits (by decide) (by decide) hc

/-- A positive number does not begin with a zero. -/
theorem head_toDigits {n : Nat} (h : 0 < n) : (Nat.toDigits 10 n).head? ≠ some '0' := by
  induction n using Nat.strongRecOn with
  | ind n ih =>
    rw [Nat.toDigits_eq_if (by decide)]
    split
    · next hlt =>
      have hdigit : ∀ n < 10, 0 < n → Nat.digitChar n ≠ '0' := by decide
      simpa using hdigit n hlt h
    · next hlt =>
      have hne : Nat.toDigits 10 (n / 10) ≠ [] := Nat.toDigits_ne_nil
      have := ih (n / 10) (by omega) (by omega)
      cases hds : Nat.toDigits 10 (n / 10) with
      | nil => exact absurd hds hne
      | cons d ds =>
        rw [hds] at this
        exact this

/-- Trailing zeros move to the exponent. -/
theorem normalize_zeros {m : Nat} (h : m % 10 ≠ 0) (j fuel : Nat) (e : Int) (hfuel : j < fuel) :
    normalize fuel (m * 10 ^ j) e = ((m : Int), e + j) := by
  have hm : m ≠ 0 := by
    intro hm
    exact h (by rw [hm])
  induction j generalizing fuel e with
  | zero =>
    cases fuel with
    | zero => cases hfuel
    | succ fuel => simp [normalize, hm, h]
  | succ j ih =>
    cases fuel with
    | zero => cases hfuel
    | succ fuel =>
      have hne : m * 10 ^ (j + 1) ≠ 0 := Nat.mul_ne_zero hm (Nat.ne_of_gt (Nat.pow_pos (by decide)))
      have hmul : m * 10 ^ (j + 1) = m * 10 ^ j * 10 := by rw [Nat.pow_succ, Nat.mul_assoc]
      rw [normalize, if_neg hne, hmul, if_pos (Nat.mul_mod_left _ _), Nat.mul_div_cancel _ (by decide),
        ih fuel (e + 1) (Nat.lt_of_succ_lt_succ hfuel)]
      push_cast
      rw [Int.add_assoc, Int.add_comm 1]

/-- The fraction of a number with its point, if it has one. -/
def point (fraction : List Char) : List Char := if fraction = [] then [] else '.' :: fraction

def minus (negative : Bool) : List Char := if negative then ['-'] else []

/-- The sign of a number, and what is left to read after it. -/
theorem parseNumber_sign (negative : Bool) {c : Char} (hc : c ≠ '-') (cs : List Char) :
    parseNumber (minus negative ++ c :: cs) = match digits (c :: cs) with
      | ([], _) => none
      | (whole, afterWhole) =>
        if whole.head? == some '0' && whole.length > 1 then none
        else
          let fraction? := match afterWhole with
            | '.' :: rest => match digits rest with
              | ([], _) => none
              | fraction => some fraction
            | rest => some ([], rest)
          match fraction? with
          | none => none
          | some (fraction, rest) =>
            match parseExponent rest with
            | none => none
            | some (e, rest) =>
              let r := normalize (whole.length + fraction.length) (natOf (whole ++ fraction)) (e - fraction.length)
              let plain := !negative && rest.length == afterWhole.length
              some (.num ⟨if negative then -r.1 else r.1, r.2, plain⟩, rest) := by
  cases negative with
  | true => rfl
  | false =>
    rw [minus, if_neg Bool.false_ne_true, List.nil_append]
    unfold parseNumber
    split
    · next heq =>
      split at heq
      · next hcons => exact absurd (List.cons.inj hcons).1 hc
      · cases heq
        rfl

/-- What a number's parts are read as. -/
theorem parseNumber_parts {whole fraction tail rest : List Char} {e : Int} (negative : Bool) (hw : AllDigits whole)
    (hne : whole ≠ []) (hzero : whole.head? = some '0' → whole.length = 1) (hf : AllDigits fraction)
    (htail : ∀ c ∈ tail.head?, c.isDigit = false ∧ c ≠ '.') (hexp : parseExponent tail = some (e, rest)) :
    parseNumber (minus negative ++ (whole ++ (point fraction ++ tail))) =
      let r := normalize (whole.length + fraction.length) (natOf (whole ++ fraction)) (e - fraction.length)
      some (.num ⟨if negative then -r.1 else r.1, r.2, !negative && rest.length == (point fraction ++ tail).length⟩,
        rest) := by
  have hstop : ∀ c ∈ (point fraction ++ tail).head?, c.isDigit = false := by
    intro c hc
    unfold point at hc
    split at hc
    · exact (htail c hc).1
    · cases hc
      rfl
  have hlead : (whole.head? == some '0' && decide (whole.length > 1)) = false := by
    by_cases h0 : whole.head? = some '0'
    · simp [hzero h0]
    · simp [h0]
  have hdigits := digits_append hw hstop
  cases whole with
  | nil => exact absurd rfl hne
  | cons c whole =>
    have hc : c ≠ '-' := by
      intro hc
      have := hw c (List.mem_cons_self ..)
      rw [hc] at this
      exact absurd this (by decide)
    rw [List.cons_append, parseNumber_sign negative hc, ← List.cons_append, hdigits]
    dsimp only
    rw [hlead]
    cases fraction with
    | nil =>
      cases tail with
      | nil => simp [point, hexp]
      | cons d tail =>
        have hd := (htail d rfl).2
        simp [point, hd, hexp]
    | cons d fraction =>
      have hfraction := digits_append hf fun c hc => (htail c hc).1
      rw [List.cons_append] at hfraction
      simp [point, hfraction, hexp]

theorem parseExponent_ends {rest : List Char} (h : Ends rest) : parseExponent rest = some (0, rest) := by
  cases rest with
  | nil => rfl
  | cons c rest =>
    have hc := h c rfl
    simp [parseExponent, hc.2.2.1, hc.2.2.2]

theorem parseExponent_sign {rest : List Char} (h : Ends rest) (n : Int) :
    parseExponent ('e' :: (if n < 0 then '-' else '+') :: (Nat.toDigits 10 n.natAbs ++ rest)) = some (n, rest) := by
  have hdigits := digits_append (allDigits_toDigits n.natAbs) fun c hc => (h c hc).1
  have hne : Nat.toDigits 10 n.natAbs ≠ [] := Nat.toDigits_ne_nil
  have hvalue := natOf_toDigits n.natAbs
  generalize Nat.toDigits 10 n.natAbs = ds at hdigits hne hvalue
  cases ds with
  | nil => exact absurd rfl hne
  | cons d ds =>
    by_cases hn : n < 0
    · have habs : (n.natAbs : Int) = -n := by omega
      simp only [parseExponent, hn, if_true, hdigits, hvalue, habs]
      simp
    · have habs : (n.natAbs : Int) = n := by omega
      simp only [parseExponent, hn, if_false, hdigits, hvalue, habs]
      simp

theorem normalize_canonical {d : Decimal} (h : d.Canonical) {j fuel : Nat} {e : Int} (hfuel : j < fuel)
    (he : e + j = d.exponent) : normalize fuel (d.mantissa.natAbs * 10 ^ j) e = ((d.mantissa.natAbs : Int), d.exponent) := by
  by_cases hm : d.mantissa = 0
  · cases fuel with
    | zero => cases hfuel
    | succ fuel =>
      rw [hm, h.zero hm, Int.natAbs_zero, Nat.zero_mul]
      rfl
  · rw [normalize_zeros (h.normal hm) j fuel e hfuel, he]

/-- A number put together from its parts. -/
theorem decimal_eq {d : Decimal} (h : d.Canonical) {r : Int × Int} (hr : r = ((d.mantissa.natAbs : Int), d.exponent))
    {short : Bool} (hshort : short = decide (0 ≤ d.exponent ∧
      (Nat.toDigits 10 d.mantissa.natAbs).length + d.exponent ≤ 21)) :
    (⟨if decide (d.mantissa < 0) then -r.1 else r.1, r.2, !decide (d.mantissa < 0) && short⟩ : Decimal) = d := by
  have hplain := h.plain
  obtain ⟨mantissa, exponent, plain⟩ := d
  subst hr hshort
  dsimp only at hplain ⊢
  rw [hplain]
  by_cases hm : mantissa < 0
  · have habs : (mantissa.natAbs : Int) = -mantissa := by omega
    rw [habs]
    simp [hm, Int.not_le.mpr hm]
  · have habs : (mantissa.natAbs : Int) = mantissa := by omega
    rw [habs]
    simp [hm, Int.not_lt.mp hm]

/-- Parts that make up a canonical number are read as it. -/
theorem parseNumber_canonical {d : Decimal} (h : d.Canonical) {whole fraction tail rest : List Char} {e : Int} (j : Nat)
    (hw : AllDigits whole) (hne : whole ≠ []) (hzero : whole.head? = some '0' → whole.length = 1)
    (hf : AllDigits fraction) (htail : ∀ c ∈ tail.head?, c.isDigit = false ∧ c ≠ '.')
    (hexp : parseExponent tail = some (e, rest)) (hvalue : natOf (whole ++ fraction) = d.mantissa.natAbs * 10 ^ j)
    (hj : j < whole.length + fraction.length) (he : e - fraction.length + j = d.exponent)
    (hshort : (rest.length == (point fraction ++ tail).length) = decide (0 ≤ d.exponent ∧
      (Nat.toDigits 10 d.mantissa.natAbs).length + d.exponent ≤ 21)) :
    parseNumber (minus (decide (d.mantissa < 0)) ++ (whole ++ (point fraction ++ tail))) = some (.num d, rest) := by
  rw [parseNumber_parts _ hw hne hzero hf htail hexp]
  dsimp only
  rw [hvalue, normalize_canonical h hj he, decimal_eq h rfl hshort]

/-- The digits of a number, wherever its point stands. -/
structure DigitsOf (d : Decimal) (ds : List Char) : Prop where
  digits : AllDigits ds
  pos : 0 < ds.length
  value : natOf ds = d.mantissa.natAbs
  head : ds.head? = some '0' → ds.length = 1 ∧ d.exponent = 0
  length : (Nat.toDigits 10 d.mantissa.natAbs).length = ds.length

theorem digitsOf_toDigits {d : Decimal} (h : d.Canonical) : DigitsOf d (Nat.toDigits 10 d.mantissa.natAbs) := by
  refine ⟨allDigits_toDigits _, List.length_pos_iff.mpr Nat.toDigits_ne_nil, natOf_toDigits _, fun h0 => ?_, rfl⟩
  have hm : d.mantissa = 0 := by
    by_contra hm
    exact head_toDigits (Int.natAbs_pos.mpr hm) h0
  refine ⟨?_, h.zero hm⟩
  rw [hm]
  rfl

theorem Ends.stops {rest : List Char} (h : Ends rest) : ∀ c ∈ rest.head?, c.isDigit = false ∧ c ≠ '.' :=
  fun c hc => ⟨(h c hc).1, (h c hc).2.1⟩

theorem allDigits_zeros (j : Nat) : AllDigits (List.replicate j '0') := by
  intro c hc
  rw [List.eq_of_mem_replicate hc]
  rfl

theorem AllDigits.append {a b : List Char} (ha : AllDigits a) (hb : AllDigits b) : AllDigits (a ++ b) :=
  fun c hc => (List.mem_append.mp hc).elim (ha c) (hb c)

section
variable {d : Decimal} {ds rest : List Char} (h : d.Canonical) (hds : DigitsOf d ds) (hrest : Ends rest)
include h hds hrest

/-- An integer, with the zeros of its exponent. -/
theorem parseNumber_integer (hexp : 0 ≤ d.exponent) (hsize : ds.length + d.exponent ≤ 21) :
    parseNumber (minus (decide (d.mantissa < 0)) ++ (ds ++ List.replicate d.exponent.toNat '0' ++ rest)) =
      some (.num d, rest) := by
  have hpos := hds.pos
  have hlead : (ds ++ List.replicate d.exponent.toNat '0').head? = some '0' →
      (ds ++ List.replicate d.exponent.toNat '0').length = 1 := by
    intro h0
    rw [List.head?_append, List.head?_eq_some_head (List.length_pos_iff.mp hpos), Option.some_or] at h0
    have := hds.head ((List.head?_eq_some_head _).trans h0)
    simp only [List.length_append, List.length_replicate]
    omega
  refine parseNumber_canonical h d.exponent.toNat (hds.digits.append (allDigits_zeros _)) (by simp [List.length_pos_iff.mp hpos])
    hlead (List.forall_mem_nil _) hrest.stops (parseExponent_ends hrest) ?_ ?_ ?_ ?_
  · rw [List.append_nil, natOf_zeros, hds.value]
  · simp only [List.length_append, List.length_replicate]
    omega
  · simp only [List.length_nil]
    omega
  · rw [hds.length, decide_eq_true ⟨hexp, hsize⟩]
    exact beq_self_eq_true _

/-- The point among the digits. -/
theorem parseNumber_point {n : Nat} (hn : ds.length + d.exponent = n) (hlow : 0 < n) (hexp : n < ds.length) :
    parseNumber (minus (decide (d.mantissa < 0)) ++ (ds.take n ++ ('.' :: ds.drop n ++ rest))) =
      some (.num d, rest) := by
  have htake : (ds.take n).length = n := List.length_take_of_le (Nat.le_of_lt hexp)
  have hdrop : (ds.drop n).length = ds.length - n := List.length_drop
  have hfraction : point (ds.drop n) = '.' :: ds.drop n := if_neg (List.length_pos_iff.mp (by omega))
  have hlead : (ds.take n).head? = some '0' → (ds.take n).length = 1 := by
    intro h0
    rw [List.head?_take, if_neg (by omega)] at h0
    have := hds.head h0
    omega
  rw [← hfraction]
  refine parseNumber_canonical h 0 (fun c hc => hds.digits c (List.mem_of_mem_take hc)) (List.length_pos_iff.mp (by omega))
    hlead (fun c hc => hds.digits c (List.mem_of_mem_drop hc)) hrest.stops (parseExponent_ends hrest) ?_ ?_ ?_ ?_
  · rw [List.take_append_drop, hds.value, Nat.pow_zero, Nat.mul_one]
  · omega
  · omega
  · rw [decide_eq_false (by omega), beq_eq_false_iff_ne, hfraction]
    simp only [List.length_append, List.length_cons]
    omega

/-- Zeros after the point. -/
theorem parseNumber_small {n : Nat} (hn : ds.length + d.exponent = -(n : Int)) :
    parseNumber (minus (decide (d.mantissa < 0)) ++ ('0' :: ('.' :: (List.replicate n '0' ++ ds) ++ rest))) =
      some (.num d, rest) := by
  have hpos := hds.pos
  have hfraction : point (List.replicate n '0' ++ ds) = '.' :: (List.replicate n '0' ++ ds) :=
    if_neg (by simp [List.length_pos_iff.mp hpos])
  rw [← hfraction]
  refine parseNumber_canonical h 0 (allDigits_zeros 1) (by decide) (fun _ => rfl)
    ((allDigits_zeros n).append hds.digits) hrest.stops (parseExponent_ends hrest) ?_ ?_ ?_ ?_
  · rw [natOf_leading _ 1, natOf_leading, hds.value, Nat.pow_zero, Nat.mul_one]
  · exact Nat.lt_add_right _ Nat.one_pos
  · simp only [List.length_append, List.length_replicate]
    omega
  · rw [decide_eq_false (by omega), beq_eq_false_iff_ne, hfraction]
    simp only [List.length_append, List.length_cons]
    omega

/-- One digit before the point, and an exponent. -/
theorem parseNumber_exponent {n : Int} (hn : ds.length + d.exponent = n + 1)
    (hplain : ¬ (0 ≤ d.exponent ∧ ds.length + d.exponent ≤ 21)) :
    parseNumber (minus (decide (d.mantissa < 0)) ++ (ds.take 1 ++ (point (ds.drop 1) ++
      'e' :: (if n < 0 then '-' else '+') :: (Nat.toDigits 10 n.natAbs ++ rest)))) = some (.num d, rest) := by
  have hpos := hds.pos
  have htake : (ds.take 1).length = 1 := List.length_take_of_le hpos
  have hdrop : (ds.drop 1).length = ds.length - 1 := List.length_drop
  refine parseNumber_canonical h 0 (fun c hc => hds.digits c (List.mem_of_mem_take hc)) (List.length_pos_iff.mp (by omega))
    (fun _ => htake) (fun c hc => hds.digits c (List.mem_of_mem_drop hc)) ?_ (parseExponent_sign hrest n) ?_ ?_ ?_ ?_
  · intro c hc
    cases hc
    decide
  · rw [List.take_append_drop, hds.value, Nat.pow_zero, Nat.mul_one]
  · omega
  · omega
  · rw [hds.length, decide_eq_false hplain, beq_eq_false_iff_ne]
    simp only [List.length_append, List.length_cons]
    omega

end

/-- A number's text is read as the number. -/
theorem parseNumber_text {d : Decimal} (h : d.Canonical) {rest : List Char} (hrest : Ends rest) :
    parseNumber (d.text ++ rest) = some (.num d, rest) := by
  have hds := digitsOf_toDigits h
  have hpos := hds.pos
  have hsign : (if d.mantissa < 0 then ['-'] else []) = minus (decide (d.mantissa < 0)) := by simp [minus]
  unfold Decimal.text layout
  dsimp only
  rw [hsign, List.append_assoc]
  generalize Nat.toDigits 10 d.mantissa.natAbs = ds at hds hpos
  split
  · next hsize =>
    rw [show (ds.length : Int) + d.exponent - ds.length = d.exponent by omega]
    exact parseNumber_integer h hds hrest (by omega) hsize.2
  · next hsize =>
    split
    · next hpoint =>
      obtain ⟨n, hn⟩ : ∃ n : Nat, ds.length + d.exponent = n := ⟨_, (Int.toNat_of_nonneg (by omega)).symm⟩
      rw [hn, Int.toNat_natCast, List.append_assoc]
      exact parseNumber_point h hds hrest hn (by omega) (by omega)
    · split
      · next hsmall =>
        obtain ⟨n, hn⟩ : ∃ n : Nat, -(ds.length + d.exponent) = n := ⟨_, (Int.toNat_of_nonneg (by omega)).symm⟩
        rw [hn, Int.toNat_natCast]
        exact parseNumber_small h hds hrest (by omega)
      · next hsmall =>
        have hpoint : (if ds.length = 1 then [] else '.' :: ds.drop 1) = point (ds.drop 1) := by
          unfold point
          have : ds.drop 1 = [] ↔ ds.length = 1 := by
            rw [List.drop_eq_nil_iff]
            omega
          simp only [this]
        rw [hpoint, List.append_assoc, List.append_assoc]
        exact parseNumber_exponent h hds hrest (by omega) (by omega)

end Json
end RtcPlugin
