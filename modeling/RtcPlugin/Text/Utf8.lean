/-! UTF-8, written and read with replacement.

The decoder goes byte by byte. Bytes that belong to no character read as the
replacement character, once for every longest beginning of a character. What was
encoded is read back (`scan_encode`), and where an encoding was cut off, all its
characters before the cut are (`scan_cut`). -/
namespace RtcPlugin.Utf8

def encode (cs : List Char) : List UInt8 := cs.flatMap String.utf8EncodeChar

theorem encode_append (a b : List Char) : encode (a ++ b) = encode a ++ encode b := List.flatMap_append

def replacement : Char := Char.ofNat 0xFFFD

inductive State where
  | start
  /-- One byte between `low` and `high` is to come, and `more` after it. -/
  | tail (more low high point : Nat)
  deriving DecidableEq, Repr

/-- The first byte of a character. -/
def first (n : Nat) : List Char × State :=
  if n < 0x80 then ([Char.ofNat n], .start)
  else if n < 0xC2 then ([replacement], .start)
  else if n < 0xE0 then ([], .tail 0 0x80 0xBF (n - 0xC0))
  else if n < 0xF0 then ([], .tail 1 (if n = 0xE0 then 0xA0 else 0x80) (if n = 0xED then 0x9F else 0xBF) (n - 0xE0))
  else if n < 0xF5 then ([], .tail 2 (if n = 0xF0 then 0x90 else 0x80) (if n = 0xF4 then 0x8F else 0xBF) (n - 0xF0))
  else ([replacement], .start)

/-- A byte after the first one; one that does not continue the character begins anew. -/
def next (more low high point n : Nat) : List Char × State :=
  if low ≤ n ∧ n ≤ high then
    match more with
    | 0 => ([Char.ofNat (point * 0x40 + (n - 0x80))], .start)
    | more + 1 => ([], .tail more 0x80 0xBF (point * 0x40 + (n - 0x80)))
  else (replacement :: (first n).1, (first n).2)

def step : State → UInt8 → List Char × State
  | .start, b => first b.toNat
  | .tail more low high point, b => next more low high point b.toNat

/-- The characters of some bytes, and where they leave the decoder. -/
def scan (s : State) : List UInt8 → List Char × State
  | [] => ([], s)
  | b :: rest => ((step s b).1 ++ (scan (step s b).2 rest).1, (scan (step s b).2 rest).2)

def decodeFrom (s : State) (bytes : List UInt8) : List Char :=
  (scan s bytes).1 ++ if (scan s bytes).2 = .start then [] else [replacement]

def decode (bytes : List UInt8) : List Char := decodeFrom .start bytes

/-! ### Reading on -/

theorem scan_append (s : State) (a b : List UInt8) :
    scan s (a ++ b) = ((scan s a).1 ++ (scan (scan s a).2 b).1, (scan (scan s a).2 b).2) := by
  induction a generalizing s with
  | nil => rfl
  | cons x a ih =>
    rw [List.cons_append, scan, ih]
    simp only [scan, List.append_assoc]

theorem decodeFrom_append (s : State) (a b : List UInt8) :
    decodeFrom s (a ++ b) = (scan s a).1 ++ decodeFrom (scan s a).2 b := by
  unfold decodeFrom
  rw [scan_append, List.append_assoc]

/-- In the middle of a character, where no byte below 0x80 continues it. -/
def State.Open : State → Prop
  | .start => False
  | .tail _ low _ _ => 0x80 ≤ low

/-- A byte of its own ends the character that was begun. -/
theorem step_open {s : State} (h : s.Open) {b : UInt8} (hb : b.toNat < 0x80) :
    step s b = (replacement :: (step .start b).1, (step .start b).2) := by
  cases s with
  | start => cases h
  | tail more low high point =>
    have hlow : ¬ (low ≤ b.toNat ∧ b.toNat ≤ high) := by
      have : 0x80 ≤ low := h
      omega
    exact if_neg hlow

theorem first_state (n : Nat) : (first n).2 = .start ∨ (first n).2.Open := by
  unfold first
  split
  · exact .inl rfl
  · split
    · exact .inl rfl
    · split
      · exact .inr (Nat.le_refl 0x80)
      · split
        · refine .inr (show 0x80 ≤ ite .. from ?_)
          split <;> decide
        · split
          · refine .inr (show 0x80 ≤ ite .. from ?_)
            split <;> decide
          · exact .inl rfl

theorem step_state (s : State) (b : UInt8) : (step s b).2 = .start ∨ (step s b).2.Open := by
  cases s with
  | start => exact first_state _
  | tail more low high point =>
    by_cases hb : low ≤ b.toNat ∧ b.toNat ≤ high
    · rw [step, next.eq_def, if_pos hb]
      cases more with
      | zero => exact .inl rfl
      | succ more => exact .inr (Nat.le_refl 0x80)
    · rw [step, next.eq_def, if_neg hb]
      exact first_state _

theorem scan_state {s : State} (h : s = .start ∨ s.Open) (bytes : List UInt8) :
    (scan s bytes).2 = .start ∨ (scan s bytes).2.Open := by
  induction bytes generalizing s with
  | nil => exact h
  | cons b bytes ih => exact ih (step_state s b)

/-- A byte of its own is the last character read. -/
theorem scan_last (bytes : List UInt8) {b : UInt8} (hb : b.toNat < 0x80) :
    ∃ cs, (scan .start (bytes ++ [b])).1 = cs ++ [Char.ofNat b.toNat] := by
  have hfirst : first b.toNat = ([Char.ofNat b.toNat], .start) := if_pos hb
  rw [scan_append]
  obtain hstart | hopen := scan_state (.inl rfl) bytes
  · refine ⟨(scan .start bytes).1, ?_⟩
    simp [hstart, scan, step, hfirst]
  · refine ⟨(scan .start bytes).1 ++ [replacement], ?_⟩
    have hstep : step .start b = ([Char.ofNat b.toNat], .start) := hfirst
    rw [scan, step_open hopen hb, hstep, List.append_assoc]
    rfl

/-! ### One character -/

/-- The bytes are those of `c`, and up to the last one they leave the decoder in its middle. -/
inductive Reads (c : Char) : State → List UInt8 → Prop where
  | last {s b} : step s b = ([c], .start) → Reads c s [b]
  | more {s t b bs} : step s b = ([], t) → t.Open → Reads c t bs → Reads c s (b :: bs)

theorem Reads.scan {c : Char} {s : State} {bs : List UInt8} (h : Reads c s bs) : scan s bs = ([c], .start) := by
  induction h with
  | last h => simp [Utf8.scan, h]
  | more h _ _ ih => simp [Utf8.scan, h, ih]

theorem Reads.take {c : Char} {s : State} {bs : List UInt8} (h : Reads c s bs) {k : Nat} (hpos : 0 < k)
    (hk : k < bs.length) : ∃ t, t.Open ∧ Utf8.scan s (bs.take k) = ([], t) := by
  induction h generalizing k with
  | last =>
    rw [List.length_singleton] at hk
    omega
  | @more s t b bs h hopen _ ih =>
    obtain ⟨k, rfl⟩ : ∃ j, k = j + 1 := ⟨k - 1, by omega⟩
    rw [List.take_succ_cons, Utf8.scan, h]
    by_cases hzero : k = 0
    · subst hzero
      exact ⟨t, hopen, rfl⟩
    · obtain ⟨t', hopen', ht'⟩ := ih (by omega) (Nat.lt_of_succ_lt_succ hk)
      exact ⟨t', hopen', by rw [ht']; rfl⟩

theorem toNat_byte {n : Nat} (h : n < 0x100) : (UInt8.ofNat n).toNat = n := by
  rw [UInt8.toNat_ofNat']
  omega

theorem step_more {more low high point n : Nat} (hn : n < 0x40) (hlow : low ≤ n + 0x80) (hhigh : n + 0x80 ≤ high) :
    step (.tail (more + 1) low high point) (UInt8.ofNat (n + 0x80)) = ([], .tail more 0x80 0xBF (point * 0x40 + n)) := by
  rw [step, toNat_byte (by omega), next, if_pos ⟨hlow, hhigh⟩, Nat.add_sub_cancel]

theorem step_last {low high point n : Nat} (hn : n < 0x40) (hlow : low ≤ n + 0x80) (hhigh : n + 0x80 ≤ high) :
    step (.tail 0 low high point) (UInt8.ofNat (n + 0x80)) = ([Char.ofNat (point * 0x40 + n)], .start) := by
  rw [step, toNat_byte (by omega), next, if_pos ⟨hlow, hhigh⟩, Nat.add_sub_cancel]

theorem step_two {n : Nat} (hlow : 2 ≤ n) (h : n < 0x20) :
    step .start (UInt8.ofNat (n + 0xC0)) = ([], .tail 0 0x80 0xBF n) := by
  rw [step, toNat_byte (by omega), first, if_neg (by omega), if_neg (by omega), if_pos (by omega), Nat.add_sub_cancel]

theorem step_three {n : Nat} (h : n < 0x10) : step .start (UInt8.ofNat (n + 0xE0)) =
    ([], .tail 1 (if n = 0 then 0xA0 else 0x80) (if n = 0xD then 0x9F else 0xBF) n) := by
  have h₀ : n + 0xE0 = 0xE0 ↔ n = 0 := by omega
  have h₁ : n + 0xE0 = 0xED ↔ n = 0xD := by omega
  rw [step, toNat_byte (by omega), first, if_neg (by omega), if_neg (by omega), if_neg (by omega), if_pos (by omega),
    Nat.add_sub_cancel]
  simp only [h₀, h₁]

theorem step_four {n : Nat} (h : n < 5) : step .start (UInt8.ofNat (n + 0xF0)) =
    ([], .tail 2 (if n = 0 then 0x90 else 0x80) (if n = 4 then 0x8F else 0xBF) n) := by
  have h₀ : n + 0xF0 = 0xF0 ↔ n = 0 := by omega
  have h₁ : n + 0xF0 = 0xF4 ↔ n = 4 := by omega
  rw [step, toNat_byte (by omega), first, if_neg (by omega), if_neg (by omega), if_neg (by omega), if_neg (by omega),
    if_pos (by omega), Nat.add_sub_cancel]
  simp only [h₀, h₁]

/-- What is encoded is a scalar value. -/
theorem char_range (c : Char) : c.val.toNat < 0xD800 ∨ 0xDFFF < c.val.toNat ∧ c.val.toNat < 0x110000 := c.valid

theorem reads_char (c : Char) : Reads c .start (String.utf8EncodeChar c) := by
  have hrange := char_range c
  have hofNat : Char.ofNat c.val.toNat = c := Char.ofNat_toNat c
  unfold String.utf8EncodeChar
  generalize c.val.toNat = v at hrange hofNat
  dsimp only
  split
  · next h1 =>
    refine .last ?_
    rw [step, toNat_byte (by omega), first, if_pos (by omega), hofNat]
  · next h1 =>
    have hlast : ∀ {p n low high}, p * 0x40 + n = v → n < 0x40 → low ≤ n + 0x80 → n + 0x80 ≤ high →
        Reads c (.tail 0 low high p) [UInt8.ofNat (n + 0x80)] := by
      intro p n low high hv hn hlow hhigh
      refine .last ?_
      rw [step_last hn hlow hhigh, hv, hofNat]
    split
    · next h2 =>
      exact .more (step_two (by omega) (by omega)) (Nat.le_refl 0x80) (hlast (by omega) (by omega) (by omega) (by omega))
    · next h2 =>
      split
      · next h3 =>
        refine .more (step_three (by omega)) ?_ (.more (step_more (by omega) ?_ ?_) (Nat.le_refl 0x80)
          (hlast (by omega) (by omega) (by omega) (by omega)))
        · show 0x80 ≤ ite ..
          split <;> omega
        · split <;> omega
        · split <;> omega
      · next h3 =>
        refine .more (step_four (by omega)) ?_ (.more (step_more (by omega) ?_ ?_) (Nat.le_refl 0x80)
          (.more (step_more (by omega) (by omega) (by omega)) (Nat.le_refl 0x80)
            (hlast (by omega) (by omega) (by omega) (by omega))))
        · show 0x80 ≤ ite ..
          split <;> omega
        · split <;> omega
        · split <;> omega

/-! ### Encoded text -/

theorem scan_encode (cs : List Char) : scan .start (encode cs) = (cs, .start) := by
  induction cs with
  | nil => rfl
  | cons c cs ih =>
    rw [encode, List.flatMap_cons, scan_append, (reads_char c).scan]
    show (c :: (scan .start (encode cs)).1, (scan .start (encode cs)).2) = _
    rw [ih]

/-- Encoded text is read, whatever follows. -/
theorem decode_encode_append (cs : List Char) (rest : List UInt8) : decode (encode cs ++ rest) = cs ++ decode rest := by
  rw [decode, decodeFrom_append, scan_encode]
  rfl

theorem decode_encode (cs : List Char) : decode (encode cs) = cs := by
  have := decode_encode_append cs []
  rwa [List.append_nil, show decode [] = [] from rfl, List.append_nil] at this

/-- A beginning of encoded text is characters, and a beginning of the next one. -/
theorem scan_cut {cs : List Char} {bytes : List UInt8} (h : bytes <+: encode cs) :
    ∃ before after, cs = before ++ after ∧ (bytes = encode before ∨
      ∃ s, s.Open ∧ after ≠ [] ∧ scan .start bytes = (before, s)) := by
  induction cs generalizing bytes with
  | nil => exact ⟨[], [], rfl, .inl (List.prefix_nil.mp h)⟩
  | cons c cs ih =>
    rw [encode, List.flatMap_cons, ← encode] at h
    obtain hshort | hlong := Nat.lt_or_ge bytes.length (String.utf8EncodeChar c).length
    · by_cases hnil : bytes = []
      · exact ⟨[], c :: cs, rfl, .inl hnil⟩
      · have htake : bytes = (String.utf8EncodeChar c).take bytes.length := by
          have := List.prefix_iff_eq_take.mp h
          rwa [List.take_append_of_le_length (Nat.le_of_lt hshort)] at this
        obtain ⟨s, hopen, hs⟩ := (reads_char c).take (List.length_pos_iff.mpr hnil) hshort
        exact ⟨[], c :: cs, rfl, .inr ⟨s, hopen, List.cons_ne_nil c cs, by rw [htake]; exact hs⟩⟩
    · obtain ⟨rest, rfl⟩ := List.prefix_of_prefix_length_le (List.prefix_append ..) h hlong
      obtain ⟨before, after, rfl, hcut⟩ := ih ((List.prefix_append_right_inj _).mp h)
      refine ⟨c :: before, after, rfl, ?_⟩
      obtain rfl | ⟨s, hopen, hafter, hs⟩ := hcut
      · exact .inl (by rw [encode, encode, List.flatMap_cons])
      · refine .inr ⟨s, hopen, hafter, ?_⟩
        rw [scan_append, (reads_char c).scan]
        show (c :: (scan .start rest).1, (scan .start rest).2) = _
        rw [hs]

end RtcPlugin.Utf8
