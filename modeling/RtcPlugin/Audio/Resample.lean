import Mathlib.Data.PNat.Basic
import RtcPlugin.Audio.Buffer
import RtcPlugin.Stream.Interpolate

/-! Resampling by linear interpolation, in exact arithmetic.

`Interpolates` says what an output is in terms of the input's samples, and fixes it
sample by sample. The loop on bytes computes it without a throw, whatever the rates
(`resamplePcm_pcm`); the two wrappers and the round trip are arithmetic on its
indices. -/
namespace RtcPlugin.Audio
open Buffer

def VOLC_INPUT_RATE : ℕ+ := 16000
def VOLC_OUTPUT_RATE : ℕ+ := 24000
def WEBRTC_RATE : ℕ+ := 48000

def clamp16 (value : ℤ) : ℤ := max (-32768) (min 32767 value)

/-- One turn of the loop. -/
def resampleStep (input : Buffer) (inputSamples ratio : ℚ) (output : Buffer) (i : Nat) : Except RangeError Buffer := do
  let srcPos := i * ratio
  let srcIndex := ⌊srcPos⌋
  let frac := srcPos - srcIndex
  let s0 ← input.readInt16LE (srcIndex * 2)
  let nextIdx : ℚ := min (srcIndex + 1) (inputSamples - 1)
  let s1 ← input.readInt16LE (nextIdx * 2)
  let sample := roundHalfUp (lerp (s0 : ℚ) s1 frac)
  output.writeInt16LE (clamp16 sample) (i * 2)

def resamplePcm (input : Buffer) (fromRate toRate : ℕ+) : Except RangeError Buffer :=
  if fromRate = toRate then .ok input
  else
    let inputSamples : ℚ := input.length / 2
    let ratio : ℚ := fromRate / toRate
    let outputSamples := ⌊inputSamples / ratio⌋.toNat
    (List.range outputSamples).foldlM (resampleStep input inputSamples ratio) (alloc (outputSamples * 2))

def downsample48to16 (input : Buffer) : Except RangeError Buffer := resamplePcm input WEBRTC_RATE VOLC_INPUT_RATE

def upsample24to48 (input : Buffer) : Except RangeError Buffer := resamplePcm input VOLC_OUTPUT_RATE WEBRTC_RATE

/-! ### What an output is -/

/-- Output sample `i` comes from two input samples, the one at `i * f / t` and the
one after it, or the last one twice. Its value needs no clamp. -/
structure Sampled (f t : ℕ+) (xs : List Int16) (i : Nat) (y : Int16) (s0 s1 : Int16) : Prop where
  first : xs[i * f / t]? = some s0
  second : xs[min (i * f / t + 1) (xs.length - 1)]? = some s1
  value : y.toInt = roundHalfUp (lerp (s0.toInt : ℚ) s1.toInt ((i * f % t : Nat) / (t : ℚ)))
  unclamped : clamp16 y.toInt = y.toInt
  between : min s0.toInt s1.toInt ≤ y.toInt ∧ y.toInt ≤ max s0.toInt s1.toInt

/-- `ys` is `xs` at the rate `t` where it was at `f`. -/
structure Interpolates (f t : ℕ+) (xs ys : List Int16) : Prop where
  length : ys.length = xs.length * t / f
  sample : ∀ i y, ys[i]? = some y → ∃ s0 s1, Sampled f t xs i y s0 s1

theorem clamp16_eq {v : ℤ} (h₀ : -32768 ≤ v) (h₁ : v ≤ 32767) : clamp16 v = v := by
  unfold clamp16
  omega

theorem toInt_bounds (s : Int16) : -32768 ≤ s.toInt ∧ s.toInt ≤ 32767 :=
  ⟨s.le_toInt, Int.le_of_lt_add_one s.toInt_lt⟩

/-- The interpolated point between two samples is a sample. -/
theorem exists_between (s0 s1 : Int16) {a b : Nat} (h : a < b) :
    ∃ y : Int16, y.toInt = roundHalfUp (lerp (s0.toInt : ℚ) s1.toInt (a / b)) ∧
      min s0.toInt s1.toInt ≤ y.toInt ∧ y.toInt ≤ max s0.toInt s1.toInt := by
  have hb : (0 : ℚ) < b := by exact_mod_cast Nat.zero_lt_of_lt h
  have hab : (a : ℚ) ≤ b := by exact_mod_cast Nat.le_of_lt h
  have h₀ : (0 : ℚ) ≤ a / b := div_nonneg (Nat.cast_nonneg a) (Nat.cast_nonneg b)
  have h₁ : (a : ℚ) / b ≤ 1 := (div_le_one hb).mpr hab
  obtain ⟨hlow, hhigh⟩ := roundHalfUp_lerp_mem s0.toInt s1.toInt h₀ h₁
  obtain ⟨hlow0, hhigh0⟩ := toInt_bounds s0
  obtain ⟨hlow1, hhigh1⟩ := toInt_bounds s1
  have hy : (Int16.ofInt (roundHalfUp (lerp (s0.toInt : ℚ) s1.toInt (a / b)))).toInt =
      roundHalfUp (lerp (s0.toInt : ℚ) s1.toInt (a / b)) := by
    apply Int16.toInt_ofInt_of_le <;> omega
  refine ⟨_, hy, ?_⟩
  rw [hy]
  exact ⟨hlow, hhigh⟩

/-! ### Indices -/

/-- A read index lies inside the input. -/
theorem index_lt {f t : ℕ+} {n i : Nat} (h : i < n * t / f) : i * f / t < n := by
  rw [Nat.div_lt_iff_lt_mul t.pos]
  have hmul := (Nat.le_div_iff_mul_le f.pos).mp (Nat.succ_le_of_lt h)
  have hpos := f.pos
  rw [Nat.succ_mul] at hmul
  omega

theorem next_lt (k : Nat) {n : Nat} (h : 0 < n) : min k (n - 1) < n :=
  Nat.lt_of_le_of_lt (Nat.min_le_right ..) (Nat.sub_lt h Nat.one_pos)

theorem srcPos_eq (f t : ℕ+) (i : Nat) : (i : ℚ) * ((f : ℚ) / t) = (i * f : Nat) / (t : Nat) := by
  push_cast
  ring

theorem floor_srcPos (f t : ℕ+) (i : Nat) : ⌊(i : ℚ) * ((f : ℚ) / t)⌋ = (i * f / t : Nat) := by
  rw [srcPos_eq, Rat.floor_natCast_div_natCast, Int.natCast_ediv]

theorem frac_srcPos (f t : ℕ+) (i : Nat) :
    (i : ℚ) * ((f : ℚ) / t) - (i * f / t : Nat) = (i * f % t : Nat) / (t : ℚ) := by
  have ht : (t : ℚ) ≠ 0 := by exact_mod_cast t.ne_zero
  have hdiv : ((i * f : Nat) : ℚ) = (t : ℚ) * (i * f / t : Nat) + (i * f % t : Nat) := by
    exact_mod_cast (Nat.div_add_mod (i * f) t).symm
  rw [srcPos_eq, hdiv, eq_div_iff ht, sub_mul, div_mul_cancel₀ _ ht]
  ring

theorem outputSamples_eq (f t : ℕ+) (n : Nat) :
    ⌊((2 * n : Nat) : ℚ) / 2 / ((f : ℚ) / t)⌋.toNat = n * t / f := by
  have hq : ((2 * n : Nat) : ℚ) / 2 / ((f : ℚ) / t) = (n * t : Nat) / (f : Nat) := by
    push_cast
    rw [mul_div_cancel_left₀ _ two_ne_zero, div_div_eq_mul_div]
  rw [hq, Rat.floor_natCast_div_natCast, ← Int.natCast_ediv, Int.toNat_natCast]

/-- The byte offset of a sample. -/
theorem offset_eq (k : Nat) : (k : ℚ) * 2 = (2 * k : Nat) := by
  push_cast
  ring

theorem nextIdx_eq (k : Nat) {n : Nat} (h : 0 < n) :
    min ((k : ℚ) + 1) (((2 * n : Nat) : ℚ) / 2 - 1) = (min (k + 1) (n - 1) : Nat) := by
  have hlast : ((2 * n : Nat) : ℚ) / 2 - 1 = (n - 1 : Nat) := by
    rw [Nat.cast_sub h]
    push_cast
    ring
  rw [hlast]
  push_cast
  rfl

/-! ### The loop -/

/-- A turn of the loop writes the sample that belongs there. -/
theorem resampleStep_pcm (f t : ℕ+) (xs ys : List Int16) (a b : UInt8) (rest : Buffer)
    (h : ys.length < xs.length * t / f) : ∃ y s0 s1, Sampled f t xs ys.length y s0 s1 ∧
      resampleStep (pcm xs) ((pcm xs).length / 2) (f / t) (pcm ys ++ a :: b :: rest) ys.length =
        .ok (pcm (ys ++ [y]) ++ rest) := by
  have hk : ys.length * f / t < xs.length := index_lt h
  have hnext : min (ys.length * f / t + 1) (xs.length - 1) < xs.length := next_lt _ (Nat.zero_lt_of_lt hk)
  have h0 := List.getElem?_eq_getElem hk
  have h1 := List.getElem?_eq_getElem hnext
  generalize xs[ys.length * f / t] = s0 at h0
  generalize xs[min (ys.length * f / t + 1) (xs.length - 1)] = s1 at h1
  obtain ⟨y, hy, hlow, hhigh⟩ := exists_between s0 s1 (Nat.mod_lt (ys.length * f) t.pos)
  obtain ⟨hylow, hyhigh⟩ := toInt_bounds y
  have hclamp : clamp16 y.toInt = y.toInt := clamp16_eq hylow hyhigh
  refine ⟨y, s0, s1, ⟨h0, h1, hy, hclamp, hlow, hhigh⟩, ?_⟩
  have hlen : ((pcm xs).length : ℚ) = (2 * xs.length : Nat) := by rw [length_pcm]
  unfold resampleStep
  dsimp only
  rw [floor_srcPos, hlen, Int.cast_natCast, frac_srcPos, nextIdx_eq _ (Nat.zero_lt_of_lt hk), offset_eq, offset_eq, offset_eq,
    readInt16LE_pcm h0, readInt16LE_pcm h1]
  show Buffer.writeInt16LE _ (clamp16 (roundHalfUp (lerp _ _ _))) _ = _
  rw [← hy, hclamp]
  exact writeInt16LE_pcm ys y a b rest

/-- After `m` turns the first `m` samples are written. -/
theorem resample_loop (f t : ℕ+) (xs : List Int16) (m : Nat) (h : m ≤ xs.length * t / f) :
    ∃ ys, ys.length = m ∧ (∀ i y, ys[i]? = some y → ∃ s0 s1, Sampled f t xs i y s0 s1) ∧
      (List.range m).foldlM (resampleStep (pcm xs) ((pcm xs).length / 2) (f / t)) (alloc (xs.length * t / f * 2)) =
        .ok (pcm ys ++ alloc ((xs.length * t / f - m) * 2)) := by
  induction m with
  | zero =>
    refine ⟨[], rfl, fun i y hy => ?_, rfl⟩
    cases hy
  | succ m ih =>
    obtain ⟨ys, hlen, hys, hloop⟩ := ih (by omega)
    have hrest : alloc ((xs.length * t / f - m) * 2) = 0 :: 0 :: alloc ((xs.length * t / f - (m + 1)) * 2) := by
      unfold alloc
      rw [show (xs.length * t / f - m) * 2 = (xs.length * t / f - (m + 1)) * 2 + 1 + 1 by omega]
      rfl
    subst hlen
    obtain ⟨y, s0, s1, hy, hstep⟩ := resampleStep_pcm f t xs ys 0 0 (alloc ((xs.length * t / f - (ys.length + 1)) * 2)) h
    refine ⟨ys ++ [y], List.length_append, ?_, ?_⟩
    · intro i z hz
      by_cases hi : i < ys.length
      · rw [List.getElem?_append_left hi] at hz
        exact hys i z hz
      · obtain rfl : i = ys.length := by
          have := (List.getElem?_eq_some_iff.mp hz).1
          simp only [List.length_append, List.length_singleton] at this
          omega
        rw [List.getElem?_concat_length] at hz
        cases hz
        exact ⟨s0, s1, hy⟩
    · rw [List.range_succ, List.foldlM_append, hloop, hrest]
      show ([ys.length].foldlM _ _ : Except RangeError Buffer) = _
      rw [List.foldlM_cons, hstep]
      rfl

/-- Whole samples are resampled without a throw. -/
theorem resamplePcm_pcm (xs : List Int16) (f t : ℕ+) :
    ∃ ys, resamplePcm (pcm xs) f t = .ok (pcm ys) ∧ Interpolates f t xs ys := by
  by_cases hft : f = t
  · subst hft
    refine ⟨xs, ?_, ?_, ?_⟩
    · rw [resamplePcm, if_pos rfl]
    · rw [Nat.mul_div_cancel _ f.pos]
    · intro i y hy
      have hi : i * f / f = i := Nat.mul_div_cancel _ f.pos
      have hlt := (List.getElem?_eq_some_iff.mp hy).1
      have hnext := next_lt (i * f / f + 1) (Nat.zero_lt_of_lt hlt)
      refine ⟨y, xs[min (i * f / f + 1) (xs.length - 1)], by rwa [hi], List.getElem?_eq_getElem hnext, ?_, ?_, ?_⟩
      · rw [Nat.mul_mod_left, Nat.cast_zero, zero_div, lerp_zero, roundHalfUp_intCast]
      · exact clamp16_eq (toInt_bounds y).1 (toInt_bounds y).2
      · exact ⟨min_le_left .., le_max_left ..⟩
  · obtain ⟨ys, hlen, hys, hloop⟩ := resample_loop f t xs (xs.length * t / f) (Nat.le_refl _)
    refine ⟨ys, ?_, hlen, hys⟩
    rw [resamplePcm, if_neg hft]
    dsimp only
    rw [length_pcm, outputSamples_eq, ← length_pcm, hloop, Nat.sub_self]
    show Except.ok (pcm ys ++ []) = _
    rw [List.append_nil]

/-! ### Rates that divide each other -/

/-- A position on an input sample gives that sample. -/
theorem Interpolates.hit {f t : ℕ+} {xs ys : List Int16} (h : Interpolates f t xs ys) {i k : Nat}
    (hk : i * f = k * t) (hi : i < ys.length) : ys[i]? = xs[k]? := by
  obtain ⟨s0, s1, hs⟩ := h.sample i ys[i] (List.getElem?_eq_getElem hi)
  have hdiv : i * f / t = k := by rw [hk, Nat.mul_div_cancel _ t.pos]
  have hvalue := hs.value
  rw [hk, Nat.mul_mod_left, Nat.cast_zero, zero_div, lerp_zero, roundHalfUp_intCast] at hvalue
  rw [List.getElem?_eq_getElem hi, Int16.toInt.inj hvalue, ← hs.first, hdiv]

/-- Every third sample. -/
structure Thirds (xs ys : List Int16) : Prop where
  length : ys.length = xs.length / 3
  sample : ∀ i, i < ys.length → ys[i]? = xs[3 * i]?

/-- A sample between every two, and the last one twice. -/
structure Doubles (xs ys : List Int16) : Prop where
  length : ys.length = 2 * xs.length
  even : ∀ i, i < xs.length → ys[2 * i]? = xs[i]?
  odd : ∀ i a b, xs[i]? = some a → xs[i + 1]? = some b →
    ∃ y, ys[2 * i + 1]? = some y ∧ y.toInt = (a.toInt + b.toInt + 1) / 2
  last : ys.getLast? = xs.getLast?

theorem Interpolates.thirds {xs ys : List Int16} (h : Interpolates WEBRTC_RATE VOLC_INPUT_RATE xs ys) : Thirds xs ys := by
  refine ⟨?_, fun i hi => h.hit ?_ hi⟩
  · rw [h.length]
    show xs.length * 16000 / 48000 = xs.length / 3
    omega
  · show i * 48000 = 3 * i * 16000
    omega

theorem Interpolates.doubles {xs ys : List Int16} (h : Interpolates VOLC_OUTPUT_RATE WEBRTC_RATE xs ys) :
    Doubles xs ys := by
  have hlen : ys.length = 2 * xs.length := by
    rw [h.length]
    show xs.length * 48000 / 24000 = 2 * xs.length
    omega
  -- what an odd output sample is made of
  have hodd : ∀ i, i < xs.length → ∃ y s0 s1, ys[2 * i + 1]? = some y ∧ xs[i]? = some s0 ∧
      xs[min (i + 1) (xs.length - 1)]? = some s1 ∧ y.toInt = (s0.toInt + s1.toInt + 1) / 2 := by
    intro i hi
    have hlt : 2 * i + 1 < ys.length := by omega
    have hy := List.getElem?_eq_getElem hlt
    obtain ⟨s0, s1, hs⟩ := h.sample _ _ hy
    have hdiv : (2 * i + 1) * (VOLC_OUTPUT_RATE : Nat) / (WEBRTC_RATE : Nat) = i := by
      show (2 * i + 1) * 24000 / 48000 = i
      omega
    have hmod : (2 * i + 1) * (VOLC_OUTPUT_RATE : Nat) % (WEBRTC_RATE : Nat) = 24000 := by
      show (2 * i + 1) * 24000 % 48000 = 24000
      omega
    have hhalf : ((24000 : Nat) : ℚ) / ((WEBRTC_RATE : Nat) : ℚ) = 1 / 2 := by
      show ((24000 : Nat) : ℚ) / ((48000 : Nat) : ℚ) = 1 / 2
      norm_num
    have hvalue := hs.value
    rw [hmod, hhalf, roundHalfUp_lerp_half] at hvalue
    refine ⟨_, s0, s1, hy, ?_, ?_, hvalue⟩
    · rw [← hs.first, hdiv]
    · rw [← hs.second, hdiv]
  refine ⟨hlen, fun i hi => h.hit ?_ (by omega), fun i a b ha hb => ?_, ?_⟩
  · show 2 * i * 24000 = i * 48000
    omega
  · have hi := (List.getElem?_eq_some_iff.mp hb).1
    obtain ⟨y, s0, s1, hy, h0, h1, hvalue⟩ := hodd i (by omega)
    rw [Nat.min_eq_left (by omega), hb] at h1
    rw [ha] at h0
    cases h0
    cases h1
    exact ⟨y, hy, hvalue⟩
  · rw [List.getLast?_eq_getElem?, List.getLast?_eq_getElem?]
    by_cases hn : xs.length = 0
    · rw [List.getElem?_eq_none (by omega), List.getElem?_eq_none (by omega)]
    · obtain ⟨y, s0, s1, hy, h0, h1, hvalue⟩ := hodd (xs.length - 1) (by omega)
      rw [Nat.min_eq_right (by omega), h0] at h1
      cases h1
      have hsame : y = s0 := Int16.toInt.inj (by omega)
      rw [show ys.length - 1 = 2 * (xs.length - 1) + 1 by omega, hy, h0, hsame]

/-- Up by a whole factor and back. -/
theorem Interpolates.back {r k : ℕ+} {xs ys zs : List Int16} (hup : Interpolates r (k * r) xs ys)
    (hdown : Interpolates (k * r) r ys zs) : zs = xs := by
  have hr := r.pos
  have hk := k.pos
  have hylen : ys.length = xs.length * k := by
    rw [hup.length, PNat.mul_coe, ← Nat.mul_assoc, Nat.mul_div_cancel _ hr]
  have hzlen : zs.length = xs.length := by
    rw [hdown.length, hylen, PNat.mul_coe, Nat.mul_assoc, Nat.mul_div_cancel _ (Nat.mul_pos hk hr)]
  apply List.ext_getElem? 
  intro i
  by_cases hi : i < xs.length
  · have hiy : i * k < ys.length := by
      rw [hylen]
      exact Nat.mul_lt_mul_of_pos_right hi hk
    calc zs[i]? = ys[i * k]? := hdown.hit (by rw [PNat.mul_coe, Nat.mul_assoc]) (by omega)
      _ = xs[i]? := hup.hit (by rw [PNat.mul_coe, Nat.mul_assoc]) hiy
  · rw [List.getElem?_eq_none (by omega), List.getElem?_eq_none (by omega)]

/-- **The resampler interpolates** and never throws, on every buffer of whole samples;
the two wrappers and the round trip are what they should be. -/
theorem resampling {input : Buffer} {n : Nat} (h : input.length = 2 * n) (f t : ℕ+) : ∃ xs : List Int16,
    input = pcm xs ∧ xs.length = n ∧
      (∃ ys, resamplePcm input f t = .ok (pcm ys) ∧ Interpolates f t xs ys) ∧
      (∃ ys, downsample48to16 input = .ok (pcm ys) ∧ Thirds xs ys) ∧
      (∃ ys, upsample24to48 input = .ok (pcm ys) ∧ Doubles xs ys) ∧
      ∀ r k : ℕ+, ∃ up, resamplePcm input r (k * r) = .ok up ∧ resamplePcm up (k * r) r = .ok input := by
  obtain ⟨xs, rfl⟩ := exists_pcm n h
  rw [length_pcm] at h
  refine ⟨xs, rfl, by omega, resamplePcm_pcm xs f t, ?_, ?_, fun r k => ?_⟩
  · obtain ⟨ys, hys, hint⟩ := resamplePcm_pcm xs WEBRTC_RATE VOLC_INPUT_RATE
    exact ⟨ys, hys, hint.thirds⟩
  · obtain ⟨ys, hys, hint⟩ := resamplePcm_pcm xs VOLC_OUTPUT_RATE WEBRTC_RATE
    exact ⟨ys, hys, hint.doubles⟩
  · obtain ⟨ys, hys, hup⟩ := resamplePcm_pcm xs r (k * r)
    obtain ⟨zs, hzs, hdown⟩ := resamplePcm_pcm ys (k * r) r
    rw [hup.back hdown] at hzs
    exact ⟨pcm ys, hys, hzs⟩

/-- Six samples at 48 kHz. -/
theorem resampling_six : ∃ xs : List Int16, pcm [100, 200, 300, 400, 500, 600] = pcm xs ∧
    ∃ ys, downsample48to16 (pcm [100, 200, 300, 400, 500, 600]) = .ok (pcm ys) ∧ Thirds xs ys := by
  have hlen : (pcm [100, 200, 300, 400, 500, 600]).length = 2 * 6 := rfl
  obtain ⟨xs, hxs, _, _, hdown, _⟩ := resampling hlen 1 1
  exact ⟨xs, hxs, hdown⟩

end RtcPlugin.Audio
