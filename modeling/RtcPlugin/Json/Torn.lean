import RtcPlugin.Json.Brackets
import RtcPlugin.Text.Utf8

/-! The bytes of an object that were cut off.

Whatever part of them is left, down to none and also inside of a character, it is no
JSON (`parse_torn`). -/
namespace RtcPlugin.Json

/-- A text that ends inside of its brackets is not read. -/
theorem parse_of_open {cs : List Char} (h : ((Scan.plain 0).run cs).Open) : parseChars cs = none := by
  cases hparse : parseChars cs with
  | none => rfl
  | some v => exact absurd (accepts_of_parse hparse) (Scan.not_behind_of_open h)

/-- The bytes that are left are characters, and perhaps a replacement for the last one. -/
theorem decode_torn {text : List Char} {bytes : List UInt8} (h : bytes <+: Utf8.encode text) (hcut : bytes ≠ Utf8.encode text) :
    ∃ q, q <+: text ∧ q ≠ text ∧ (Utf8.decode bytes = q ∨ Utf8.decode bytes = q ++ [Utf8.replacement]) := by
  obtain ⟨before, after, rfl, rfl | ⟨us, hopen, hafter, hscan⟩⟩ := Utf8.scan_cut h
  · exact ⟨before, List.prefix_append .., fun heq => hcut (by rw [← heq]), .inl (Utf8.decode_encode before)⟩
  · refine ⟨before, List.prefix_append .., fun heq => hafter (List.append_right_eq_self.mp heq.symm), .inr ?_⟩
    have hus : us ≠ .start := by
      rintro rfl
      exact hopen
    rw [Utf8.decode, Utf8.decodeFrom, hscan, if_neg hus]

/-- **An object that is cut off is not read.** -/
theorem parse_torn {text inner front : List Char} {v : Json} (hparse : parseChars text = some v)
    (hstarts : text = '\x7b' :: inner) (hends : text = front ++ ['\x7d']) {bytes : List UInt8} (h : bytes <+: Utf8.encode text)
    (hcut : bytes ≠ Utf8.encode text) : parseChars (Utf8.decode bytes) = none := by
  obtain ⟨q, hq, hne, hdecode⟩ := decode_torn h hcut
  by_cases hnil : q = []
  · subst hnil
    obtain hdecode | hdecode := hdecode <;> rw [hdecode] <;> rfl
  · have hopen := open_of_cut ⟨inner, hstarts⟩ ⟨front, hends⟩ (done_of_parse hparse hstarts) hq hnil hne
    obtain hdecode | hdecode := hdecode <;> rw [hdecode]
    · exact parse_of_open hopen
    · refine parse_of_open ?_
      rw [Scan.run_append]
      exact hopen.neutral (by decide)

end RtcPlugin.Json
