import Mathlib.Data.List.GetD
import RtcPlugin.Audio.Resample

/-! Resampling chunk by chunk.

The loop starts anew with every chunk, so where a chunk ends the next sample is not
yet there. At a third of the rate nothing is lost, as long as the chunks are cut
between groups of three (`Thirds.append`). At twice the rate the sample between two
chunks is the last one once more, and all others are right (`Doubles.agree`,
`Doubles.drop`).

A buffer cut in the middle of a sample has half a sample more than it can be read by.
The loop of `downsample48to16` never comes that far; that of `upsample24to48` starts
with one sample more than there are, and reads past the end for it. -/
namespace RtcPlugin.Audio
open Buffer

/-! ### A third of the rate -/

theorem Thirds.append {xs xs' ys ys' : List Int16} (h : Thirds xs ys) (hthree : xs.length % 3 = 0)
    (h' : Thirds xs' ys') : Thirds (xs ++ xs') (ys ++ ys') := by
  have hlen := h.length
  have hlen' := h'.length
  refine ⟨?_, fun i hi => ?_⟩
  · simp only [List.length_append]
    omega
  · simp only [List.length_append] at hi
    by_cases hlt : i < ys.length
    · rw [List.getElem?_append_left hlt, List.getElem?_append_left (by omega)]
      exact h.sample i hlt
    · rw [List.getElem?_append_right (by omega), List.getElem?_append_right (by omega),
        h'.sample _ (by omega), show 3 * (i - ys.length) = 3 * i - xs.length by omega]

theorem Thirds.unique {xs ys ys' : List Int16} (h : Thirds xs ys) (h' : Thirds xs ys') : ys = ys' := by
  have hlen : ys.length = ys'.length := h.length.trans h'.length.symm
  apply List.ext_getElem?
  intro i
  by_cases hi : i < ys.length
  · rw [h.sample i hi, h'.sample i (by omega)]
  · rw [List.getElem?_eq_none (by omega), List.getElem?_eq_none (by omega)]

theorem downsample_pcm (xs : List Int16) : ∃ ys, downsample48to16 (pcm xs) = .ok (pcm ys) ∧ Thirds xs ys := by
  obtain ⟨ys, hys, hint⟩ := resamplePcm_pcm xs WEBRTC_RATE VOLC_INPUT_RATE
  exact ⟨ys, hys, hint.thirds⟩

/-! ### Twice the rate -/

theorem upsample_pcm (xs : List Int16) : ∃ ys, upsample24to48 (pcm xs) = .ok (pcm ys) ∧ Doubles xs ys := by
  obtain ⟨ys, hys, hint⟩ := resamplePcm_pcm xs VOLC_OUTPUT_RATE WEBRTC_RATE
  exact ⟨ys, hys, hint.doubles⟩

/-- What comes behind the samples changes only the last output. -/
theorem Doubles.agree {xs xs' ys ys' : List Int16} (h : Doubles xs ys) (h' : Doubles (xs ++ xs') ys') {j : Nat}
    (hj : j + 1 < 2 * xs.length) : ys[j]? = ys'[j]? := by
  obtain ⟨i, rfl | rfl⟩ := Nat.even_or_odd' j
  · rw [h.even i (by omega), h'.even i (by simp only [List.length_append]; omega),
      List.getElem?_append_left (by omega)]
  · have ha := List.getElem?_eq_getElem (show i < xs.length by omega)
    have hb := List.getElem?_eq_getElem (show i + 1 < xs.length by omega)
    obtain ⟨y, hy, hvalue⟩ := h.odd i _ _ ha hb
    obtain ⟨y', hy', hvalue'⟩ := h'.odd i _ _ ((List.getElem?_append_left (by omega)).trans ha)
      ((List.getElem?_append_left (by omega)).trans hb)
    rw [hy, hy', Int16.toInt.inj (hvalue.trans hvalue'.symm)]

/-- Without the first samples, the output is without their outputs. -/
theorem Doubles.drop {xs xs' ys : List Int16} (h : Doubles (xs ++ xs') ys) :
    Doubles xs' (ys.drop (2 * xs.length)) := by
  have hlen := h.length
  simp only [List.length_append] at hlen
  have hget : ∀ i, (xs ++ xs')[xs.length + i]? = xs'[i]? := by
    intro i
    rw [List.getElem?_append_right (Nat.le_add_right ..), Nat.add_sub_cancel_left]
  refine ⟨?_, fun i hi => ?_, fun i a b ha hb => ?_, ?_⟩
  · rw [List.length_drop]
    omega
  · rw [List.getElem?_drop, ← Nat.mul_add, h.even _ (by simp only [List.length_append]; omega), hget]
  · rw [List.getElem?_drop, ← Nat.add_assoc, ← Nat.mul_add]
    exact h.odd _ a b ((hget i).trans ha) ((hget (i + 1)).trans hb)
  · by_cases hnil : xs' = []
    · subst hnil
      rw [List.drop_of_length_le (by simp only [List.length_nil] at hlen; omega)]
    · have hpos := List.length_pos_iff.mpr hnil
      rw [List.getLast?_drop, if_neg (by omega), h.last, List.getLast?_append_of_ne_nil _ hnil]

theorem Doubles.unique {xs ys ys' : List Int16} (h : Doubles xs ys) (h' : Doubles xs ys') : ys = ys' := by
  have hlen : ys.length = ys'.length := h.length.trans h'.length.symm
  have hxs := h.length
  have hnil : Doubles (xs ++ []) ys' := by rwa [List.append_nil]
  apply List.ext_getElem?
  intro j
  by_cases hj : j + 1 < 2 * xs.length
  · exact h.agree hnil hj
  · by_cases hlast : j + 1 = ys.length
    · have := h.last.trans h'.last.symm
      rw [List.getLast?_eq_getElem?, List.getLast?_eq_getElem?, ← hlen, ← hlast] at this
      exact this
    · rw [List.getElem?_eq_none (by omega), List.getElem?_eq_none (by omega)]

/-! ### Chunks -/

/-- Output `j` is the last one of a chunk with more chunks behind it, and `c` is that chunk. -/
def Seam (chunks : List (List Int16)) (c : List Int16) (j : Nat) : Prop :=
  ∃ before after, chunks = before ++ c :: after ∧ after ≠ [] ∧ j + 1 = 2 * (before ++ [c]).flatten.length

theorem Seam.cons {chunks : List (List Int16)} {c d : List Int16} {j : Nat} (h : Seam chunks d j) :
    Seam (c :: chunks) d (2 * c.length + j) := by
  obtain ⟨before, after, rfl, hafter, hj⟩ := h
  refine ⟨c :: before, after, rfl, hafter, ?_⟩
  rw [List.cons_append, List.flatten_cons, List.length_append]
  omega

/-- The seam is at the end of the first chunk or further on. -/
theorem Seam.cases_cons {chunks : List (List Int16)} {c d : List Int16} {j : Nat} (h : Seam (c :: chunks) d j)
    (hne : d ≠ []) : (d = c ∧ j + 1 = 2 * c.length) ∨ ∃ k, j = 2 * c.length + k ∧ Seam chunks d k := by
  obtain ⟨before, after, hsplit, hafter, hj⟩ := h
  have hpos := List.length_pos_iff.mpr hne
  rw [List.flatten_append, List.length_append, List.flatten_singleton] at hj
  cases before with
  | nil =>
    cases hsplit
    exact .inl ⟨rfl, by simpa using hj⟩
  | cons c before =>
    cases hsplit
    rw [List.flatten_cons, List.length_append] at hj
    refine .inr ⟨j - 2 * c.length, by omega, before, after, rfl, hafter, ?_⟩
    rw [List.flatten_append, List.length_append, List.flatten_singleton]
    omega

theorem mapM_downsample (chunks : List (List Int16)) (h : ∀ c ∈ chunks.dropLast, c.length % 3 = 0) :
    ∃ outs : List (List Int16), (chunks.map pcm).mapM downsample48to16 = .ok (outs.map pcm) ∧
      Thirds chunks.flatten outs.flatten := by
  induction chunks with
  | nil => exact ⟨[], rfl, rfl, fun i hi => absurd hi (Nat.not_lt_zero i)⟩
  | cons c rest ih =>
    obtain ⟨o, ho, hthirds⟩ := downsample_pcm c
    cases rest with
    | nil =>
      refine ⟨[o], ?_, ?_⟩
      · simp only [List.map_cons, List.map_nil, List.mapM_cons, List.mapM_nil, ho]
        rfl
      · simpa using hthirds
    | cons d rest =>
      rw [List.dropLast_cons_cons] at h
      obtain ⟨outs, houts, hrest⟩ := ih fun x hx => h x (List.mem_cons_of_mem c hx)
      refine ⟨o :: outs, ?_, hthirds.append (h c (List.mem_cons_self ..)) hrest⟩
      rw [List.map_cons, List.mapM_cons, ho, houts]
      rfl

theorem mapM_upsample (chunks : List (List Int16)) :
    ∃ outs : List (List Int16), (chunks.map pcm).mapM upsample24to48 = .ok (outs.map pcm) ∧
      List.Forall₂ Doubles chunks outs := by
  induction chunks with
  | nil => exact ⟨[], rfl, .nil⟩
  | cons c rest ih =>
    obtain ⟨o, ho, hdoubles⟩ := upsample_pcm c
    obtain ⟨outs, houts, hrest⟩ := ih
    refine ⟨o :: outs, ?_, .cons hdoubles hrest⟩
    rw [List.map_cons, List.mapM_cons, ho, houts]
    rfl

theorem length_doubles {chunks outs : List (List Int16)} (h : List.Forall₂ Doubles chunks outs) :
    outs.flatten.length = 2 * chunks.flatten.length := by
  induction h with
  | nil => rfl
  | cons hc _ ih =>
    rw [List.flatten_cons, List.flatten_cons, List.length_append, List.length_append, ih, hc.length]
    omega

/-- Away from the seams the chunks' outputs are those of the whole. -/
theorem doubles_flatten {chunks outs : List (List Int16)} {ys : List Int16} (h : List.Forall₂ Doubles chunks outs)
    (hys : Doubles chunks.flatten ys) {j : Nat} (hj : ∀ c, ¬ Seam chunks c j) : outs.flatten[j]? = ys[j]? := by
  induction h generalizing ys j with
  | nil =>
    rw [List.length_eq_zero_iff.mp hys.length]
    rfl
  | @cons c o chunks outs hc hrest ih =>
    have hlen := hc.length
    rw [List.flatten_cons] at hys ⊢
    by_cases hlt : j < o.length
    · rw [List.getElem?_append_left hlt]
      by_cases hseam : j + 1 < 2 * c.length
      · exact hc.agree hys hseam
      · -- the last output of the chunk: no chunk is behind it
        by_cases hnil : chunks = []
        · subst hnil
          rw [List.flatten_nil, List.append_nil] at hys
          rw [hc.unique hys]
        · exact absurd ⟨[], chunks, rfl, hnil, by simp only [List.nil_append, List.flatten_singleton]; omega⟩ (hj c)
    · have hdrop : ys[j]? = (ys.drop (2 * c.length))[j - o.length]? := by
        rw [List.getElem?_drop, show 2 * c.length + (j - o.length) = j by omega]
      rw [List.getElem?_append_right (by omega), hdrop]
      refine ih hys.drop fun d hd => hj d ?_
      have := hd.cons (c := c)
      rwa [show 2 * c.length + (j - o.length) = j by omega] at this

/-- At a seam the chunk's last sample is repeated. -/
theorem doubles_seam {chunks outs : List (List Int16)} (h : List.Forall₂ Doubles chunks outs) {d : List Int16}
    {j : Nat} (hne : d ≠ []) (hj : Seam chunks d j) : outs.flatten[j]? = d.getLast? := by
  induction h generalizing j with
  | nil =>
    obtain ⟨before, after, hsplit, _⟩ := hj
    cases before <;> cases hsplit
  | @cons c o chunks outs hc hrest ih =>
    have hlen := hc.length
    rw [List.flatten_cons]
    obtain ⟨rfl, hj⟩ | ⟨k, rfl, hk⟩ := hj.cases_cons hne
    · have hpos := List.length_pos_iff.mpr hne
      rw [List.getElem?_append_left (by omega), ← hc.last, List.getLast?_eq_getElem?]
      congr 1
      omega
    · rw [List.getElem?_append_right (by omega), show 2 * c.length + k - o.length = k by omega]
      exact ih hk

/-- **Chunks may be resampled one by one.** Downwards nothing changes if every chunk but
the last holds whole groups of three; upwards only the outputs at the seams may. -/
theorem chunked_resampling (chunks : List (List Int16)) :
    ((∀ c ∈ chunks.dropLast, c.length % 3 = 0) → ∃ outs,
      (chunks.map pcm).mapM downsample48to16 = .ok outs ∧
        downsample48to16 (chunks.map pcm).flatten = .ok outs.flatten) ∧
    ((∀ c ∈ chunks, c ≠ []) → ∃ (outs : List (List Int16)) (whole : List Int16),
      (chunks.map pcm).mapM upsample24to48 = .ok (outs.map pcm) ∧
        upsample24to48 (chunks.map pcm).flatten = .ok (pcm whole) ∧
        outs.flatten.length = whole.length ∧
        (∀ j, (∀ c, ¬ Seam chunks c j) → outs.flatten[j]? = whole[j]?) ∧
        ∀ c j, Seam chunks c j → outs.flatten[j]? = c.getLast?) := by
  have hflat : ∀ l : List (List Int16), (l.map pcm).flatten = pcm l.flatten := by
    intro l
    induction l with
    | nil => rfl
    | cons c rest ih => rw [List.map_cons, List.flatten_cons, ih, List.flatten_cons, pcm_append]
  constructor
  · intro h
    obtain ⟨outs, houts, hthirds⟩ := mapM_downsample chunks h
    obtain ⟨ys, hys, hwhole⟩ := downsample_pcm chunks.flatten
    refine ⟨outs.map pcm, houts, ?_⟩
    rw [hflat, hflat, hys, hwhole.unique hthirds]
  · intro h
    obtain ⟨outs, houts, hdoubles⟩ := mapM_upsample chunks
    obtain ⟨whole, hys, hwhole⟩ := upsample_pcm chunks.flatten
    refine ⟨outs, whole, houts, ?_, ?_, fun j hj => doubles_flatten hdoubles hwhole hj, fun c j hj => ?_⟩
    · rw [hflat, hys]
    · rw [length_doubles hdoubles, hwhole.length]
    · refine doubles_seam hdoubles (h c ?_) hj
      obtain ⟨before, after, rfl, _⟩ := hj
      exact List.mem_append_right _ (List.mem_cons_self ..)

/-- Two chunks of three samples. -/
theorem chunked_resampling_two : (∃ outs, [pcm [1, 2, 3], pcm [4, 5, 6]].mapM downsample48to16 = .ok outs ∧
      downsample48to16 [pcm [1, 2, 3], pcm [4, 5, 6]].flatten = .ok outs.flatten) ∧
    ∃ (outs : List (List Int16)) (whole : List Int16),
      [pcm [1, 2, 3], pcm [4, 5, 6]].mapM upsample24to48 = .ok (outs.map pcm) ∧
        upsample24to48 [pcm [1, 2, 3], pcm [4, 5, 6]].flatten = .ok (pcm whole) ∧ outs.flatten[5]? = some 3 := by
  obtain ⟨hdown, hup⟩ := chunked_resampling [[1, 2, 3], [4, 5, 6]]
  obtain ⟨outs, whole, houts, hwhole, _, _, hseam⟩ := hup (by decide)
  exact ⟨hdown (by decide), outs, whole, houts, hwhole, hseam [1, 2, 3] 5 ⟨[], [[4, 5, 6]], rfl, by decide, rfl⟩⟩

/-! ### Half a sample -/

/-- The buffer without an incomplete trailing byte. -/
def wholeSamples (b : Buffer) : Buffer := b.take (b.length / 2 * 2)

/-- `resample` returns, and returns what it does without an incomplete trailing byte. -/
def IgnoresHalf (resample : Buffer → Except RangeError Buffer) (b : Buffer) : Prop :=
  ∃ out, resample b = .ok out ∧ resample (wholeSamples b) = .ok out

theorem wholeSamples_even {b : Buffer} (h : b.length % 2 = 0) : wholeSamples b = b :=
  List.take_of_length_le (by omega)

/-- A buffer of an odd length is whole samples and a byte. -/
theorem exists_half {b : Buffer} (h : b.length % 2 = 1) : ∃ xs z, b = pcm xs ++ [z] ∧ wholeSamples b = pcm xs := by
  have hlen : (wholeSamples b).length = 2 * (b.length / 2) := by
    unfold wholeSamples
    rw [List.length_take]
    omega
  obtain ⟨xs, hxs⟩ := exists_pcm _ hlen
  have hrest : (b.drop (b.length / 2 * 2)).length = 1 := by
    rw [List.length_drop]
    omega
  obtain ⟨z, hz⟩ := List.length_eq_one_iff.mp hrest
  refine ⟨xs, z, ?_, hxs⟩
  rw [← hxs, ← hz]
  exact (List.take_append_drop ..).symm

theorem readInt16LE_append {b : Buffer} (c : Buffer) {k : Nat} (h : 2 * k + 2 ≤ b.length) :
    (b ++ c).readInt16LE (2 * k : Nat) = b.readInt16LE (2 * k : Nat) := by
  unfold readInt16LE
  rw [index?_natCast h, index?_natCast (by rw [List.length_append]; omega)]
  dsimp only
  rw [List.getD_append _ _ _ _ (by omega), List.getD_append _ _ _ _ (by omega)]

/-- As long as the next sample is there too, the byte behind is not looked at. -/
theorem resampleStep_half (xs : List Int16) (z : UInt8) (out : Buffer) {i : Nat} (h : 3 * i + 1 < xs.length) :
    resampleStep (pcm xs ++ [z]) ((pcm xs ++ [z]).length / 2) (WEBRTC_RATE / VOLC_INPUT_RATE) out i =
      resampleStep (pcm xs) ((pcm xs).length / 2) (WEBRTC_RATE / VOLC_INPUT_RATE) out i := by
  have hk : i * (WEBRTC_RATE : Nat) / (VOLC_INPUT_RATE : Nat) = 3 * i := by
    show i * 48000 / 16000 = 3 * i
    omega
  have hnext : ∀ n : ℚ, (3 * i + 2 : Nat) ≤ n → min (((3 * i : Nat) : ℚ) + 1) (n - 1) = (3 * i + 1 : Nat) := by
    intro n hn
    push_cast at hn ⊢
    exact min_eq_left (by linarith)
  have hle : ((2 * (3 * i + 2) : Nat) : ℚ) ≤ (pcm xs).length := by
    rw [length_pcm]
    exact_mod_cast (show 2 * (3 * i + 2) ≤ 2 * xs.length by omega)
  push_cast at hle
  unfold resampleStep
  dsimp only
  rw [floor_srcPos, hk, Int.cast_natCast, hnext, hnext, offset_eq, offset_eq, readInt16LE_append _ (by rw [length_pcm]; omega),
    readInt16LE_append _ (by rw [length_pcm]; omega)]
  · push_cast
    linarith
  · rw [List.length_append, List.length_singleton]
    push_cast
    linarith

theorem outputSamples_length (f t : ℕ+) (b : Buffer) :
    ⌊(b.length : ℚ) / 2 / ((f : ℚ) / t)⌋.toNat = b.length * t / (2 * f) := by
  have hq : (b.length : ℚ) / 2 / ((f : ℚ) / t) = (b.length * t : Nat) / (2 * f : Nat) := by
    push_cast
    rw [div_div_eq_mul_div, div_mul_eq_mul_div, div_div]
  rw [hq, Rat.floor_natCast_div_natCast, ← Int.natCast_ediv, Int.toNat_natCast]

theorem foldlM_ext {ε α β : Type} {f g : β → α → Except ε β} (l : List α) (b : β)
    (h : ∀ b, ∀ a ∈ l, f b a = g b a) : l.foldlM f b = l.foldlM g b := by
  induction l generalizing b with
  | nil => rfl
  | cons a l ih =>
    rw [List.foldlM_cons, List.foldlM_cons, h b a (List.mem_cons_self ..)]
    exact bind_congr fun c => ih c fun b a ha => h b a (List.mem_cons_of_mem _ ha)

theorem downsample_half (xs : List Int16) (z : UInt8) :
    downsample48to16 (pcm xs ++ [z]) = downsample48to16 (pcm xs) := by
  have hcount : ∀ b : Buffer, b.length * (VOLC_INPUT_RATE : Nat) / (2 * WEBRTC_RATE) = b.length / 6 := by
    intro b
    show b.length * 16000 / (2 * 48000) = b.length / 6
    omega
  have hlen := length_pcm xs
  have hsame : (pcm xs ++ [z]).length / 6 = (pcm xs).length / 6 := by
    rw [List.length_append, hlen, List.length_singleton]
    omega
  unfold downsample48to16 resamplePcm
  rw [if_neg (by decide), if_neg (by decide)]
  dsimp only
  rw [outputSamples_length, outputSamples_length, hcount, hcount, hsame]
  refine foldlM_ext _ _ fun out i hi => resampleStep_half xs z out ?_
  have := List.mem_range.mp hi
  omega

/-- The last turn reads behind the last whole sample. -/
theorem resampleStep_past (xs : List Int16) (z : UInt8) (n : ℚ) (out : Buffer) :
    resampleStep (pcm xs ++ [z]) n (VOLC_OUTPUT_RATE / WEBRTC_RATE) out (2 * xs.length) = .error .offset := by
  have hk : 2 * xs.length * (VOLC_OUTPUT_RATE : Nat) / (WEBRTC_RATE : Nat) = xs.length := by
    show 2 * xs.length * 24000 / 48000 = xs.length
    omega
  have hlen : ((pcm xs ++ [z]).length : ℚ) = 2 * xs.length + 1 := by
    rw [List.length_append, length_pcm, List.length_singleton]
    push_cast
    rfl
  have hout : (pcm xs ++ [z]).index? ((xs.length : ℚ) * 2) = none := by
    unfold index?
    refine if_neg fun h => ?_
    have := h.2.2
    rw [hlen] at this
    linarith
  unfold resampleStep
  dsimp only
  rw [floor_srcPos, hk, Int.cast_natCast]
  unfold readInt16LE
  rw [hout]
  rfl

theorem upsample_half (xs : List Int16) (z : UInt8) : ∃ e, upsample24to48 (pcm xs ++ [z]) = .error e := by
  have hcount : (pcm xs ++ [z]).length * (WEBRTC_RATE : Nat) / (2 * VOLC_OUTPUT_RATE) = 2 * xs.length + 1 := by
    rw [List.length_append, length_pcm, List.length_singleton]
    show (2 * xs.length + 1) * 48000 / (2 * 24000) = 2 * xs.length + 1
    omega
  unfold upsample24to48 resamplePcm
  rw [if_neg (by decide)]
  dsimp only
  rw [outputSamples_length, hcount, List.range_succ, List.foldlM_append]
  -- whatever the turns before it do
  cases (List.range (2 * xs.length)).foldlM (resampleStep (pcm xs ++ [z]) ((pcm xs ++ [z]).length / 2)
      (VOLC_OUTPUT_RATE / WEBRTC_RATE)) (alloc ((2 * xs.length + 1) * 2)) with
  | error e => exact ⟨e, rfl⟩
  | ok out =>
    refine ⟨.offset, ?_⟩
    show ([2 * xs.length].foldlM _ _ : Except RangeError Buffer) = _
    rw [List.foldlM_cons, resampleStep_past]
    rfl

/-- **Half a sample** does not disturb `downsample48to16`; `upsample24to48` throws on it. -/
theorem half_samples (b : Buffer) : IgnoresHalf downsample48to16 b ∧
    (IgnoresHalf downsample48to16 b ∧ IgnoresHalf upsample24to48 b ↔ b.length % 2 = 0) := by
  by_cases heven : b.length % 2 = 0
  · have hwhole := wholeSamples_even heven
    obtain ⟨xs, rfl⟩ := exists_pcm (b.length / 2) (show b.length = 2 * (b.length / 2) by omega)
    obtain ⟨ys, hys, _⟩ := downsample_pcm xs
    obtain ⟨zs, hzs, _⟩ := upsample_pcm xs
    have hdown : IgnoresHalf downsample48to16 (pcm xs) := ⟨pcm ys, hys, by rw [hwhole, hys]⟩
    have hup : IgnoresHalf upsample24to48 (pcm xs) := ⟨pcm zs, hzs, by rw [hwhole, hzs]⟩
    exact ⟨hdown, fun _ => heven, fun _ => ⟨hdown, hup⟩⟩
  · obtain ⟨xs, z, rfl, hwhole⟩ := exists_half (Nat.mod_two_ne_zero.mp heven)
    obtain ⟨ys, hys, _⟩ := downsample_pcm xs
    have hdown : IgnoresHalf downsample48to16 (pcm xs ++ [z]) :=
      ⟨pcm ys, (downsample_half xs z).trans hys, by rw [hwhole, hys]⟩
    refine ⟨hdown, fun h => ?_, fun h => absurd h heven⟩
    obtain ⟨_, out, hout, _⟩ := h
    obtain ⟨e, herror⟩ := upsample_half xs z
    cases hout.symm.trans herror

/-- One byte of the second sample is missing. -/
theorem upsample_three_bytes :
    ¬ ∀ b : Buffer, IgnoresHalf downsample48to16 b ∧ IgnoresHalf upsample24to48 b := by
  intro h
  obtain ⟨out, hout, _⟩ := (h [232, 3, 208]).2
  obtain ⟨e, herror⟩ := upsample_half [1000] 208
  cases hout.symm.trans herror

end RtcPlugin.Audio
