import RtcPlugin.Plugin.Store
import RtcPlugin.System.Run

/-! Appends that are cut off.

A crash may leave any number of bytes of an append. The next append goes on behind
them, on the same line, and that line is not read (`Scan`). So a reader of the file
sees what `Log` says, whatever was cut off (`shape_append`, `readAll_shape`). From
that it follows which appends lose a record, and which show one too early:
`Safe` leaves these out. -/
namespace RtcPlugin.RtcCallStore

/-! ### What a reader sees -/

inductive Tail where
  /-- The file is empty, or its last line has ended. -/
  | clean
  /-- A whole snapshot without its line end. -/
  | whole (s : Snapshot)
  | torn

/-- The snapshots of the lines that are read, and what follows the last line end. -/
structure Log where
  read : List Snapshot
  tail : Tail

namespace Log

def visible (g : Log) : List Snapshot :=
  match g.tail with
  | .whole s => g.read ++ [s]
  | _ => g.read

def complete (g : Log) (s : Snapshot) : Log :=
  match g.tail with
  | .clean => ⟨g.read ++ [s], .clean⟩
  | .whole _ | .torn => ⟨g.read, .clean⟩

def cut (g : Log) (s : Snapshot) (whole : Bool) : Log :=
  match g.tail with
  | .clean => ⟨g.read, if whole then .whole s else .torn⟩
  | .whole _ | .torn => ⟨g.read, .torn⟩

/-- The first `n` bytes of an append. -/
def append (g : Log) (s : Snapshot) (n : Nat) : Log :=
  if n = 0 then g
  else if s.bytes.length ≤ n then g.complete s
  else g.cut s (n + 1 = s.bytes.length)

variable {g : Log}

theorem complete_clean (h : g.tail = .clean) (s : Snapshot) : g.complete s = ⟨g.read ++ [s], .clean⟩ := by
  rw [complete, h]

/-- What is completed behind a tail is lost. -/
theorem complete_dirty (h : g.tail ≠ .clean) (s : Snapshot) : g.complete s = ⟨g.read, .clean⟩ := by
  cases htail : g.tail with
  | clean => exact absurd htail h
  | whole | torn => rw [complete, htail]

theorem cut_clean (h : g.tail = .clean) (s : Snapshot) (whole : Bool) :
    g.cut s whole = ⟨g.read, if whole then .whole s else .torn⟩ := by
  rw [cut, h]

theorem cut_dirty (h : g.tail ≠ .clean) (s : Snapshot) (whole : Bool) : g.cut s whole = ⟨g.read, .torn⟩ := by
  cases htail : g.tail with
  | clean => exact absurd htail h
  | whole | torn => rw [cut, htail]

theorem read_cut (g : Log) (s : Snapshot) (whole : Bool) : (g.cut s whole).read = g.read := by
  by_cases h : g.tail = .clean
  · rw [cut_clean h]
  · rw [cut_dirty h]

/-- Only the line end of an append to a clean file is missing. -/
theorem whole_cut {s t : Snapshot} {whole : Bool} (h : (g.cut s whole).tail = .whole t) :
    g.tail = .clean ∧ whole = true ∧ t = s := by
  by_cases hclean : g.tail = .clean
  · rw [cut_clean hclean] at h
    cases whole with
    | false => cases h
    | true => exact ⟨hclean, rfl, (Tail.whole.inj h).symm⟩
  · rw [cut_dirty hclean] at h
    cases h

end Log

/-! ### Where the bytes leave the decoder -/

/-- What stands for a character that was begun. -/
def flushed (us : Utf8.State) : List Char := if us = .start then [] else [Utf8.replacement]

theorem decode_eq {bytes : List UInt8} {cs : List Char} {us : Utf8.State} (h : Utf8.scan .start bytes = (cs, us)) :
    Utf8.decode bytes = cs ++ flushed us := by
  rw [Utf8.decode, Utf8.decodeFrom, h]
  rfl

/-- What begins with a character of its own is read the same behind a character that was begun. -/
theorem scan_flushed {us : Utf8.State} (hus : us = .start ∨ us.Open) {b : UInt8} (rest : List UInt8)
    (hb : b.toNat < 0x80) : Utf8.scan us (b :: rest) =
      (flushed us ++ (Utf8.scan .start (b :: rest)).1, (Utf8.scan .start (b :: rest)).2) := by
  obtain rfl | hopen := hus
  · rfl
  · have hne : us ≠ .start := by
      intro heq
      subst heq
      exact hopen
    rw [Utf8.scan, Utf8.step_open hopen hb, flushed, if_neg hne]
    rfl

namespace Snapshot

variable (s : Snapshot)

theorem bytes_eq : s.bytes = Utf8.encode s.text ++ [0x0A] := by
  rw [bytes, Utf8.encode_append]
  rfl

/-- The first byte is the brace. -/
theorem bytes_starts : ∃ rest, s.bytes = 0x7B :: rest := by
  obtain ⟨c, more, htext, -⟩ := s.enclosed.starts
  rw [bytes, htext]
  exact ⟨_, rfl⟩

theorem text_ne_nil : s.text ≠ [] := by
  obtain ⟨more, hmore⟩ := s.line.starts
  rw [hmore]
  exact List.cons_ne_nil _ _

theorem scan_bytes : Utf8.scan .start s.bytes = (s.text ++ ['\n'], .start) := Utf8.scan_encode _

/-- A part of the bytes is a part of the text, or the whole of it where only the line end is missing. -/
theorem scan_take {n : Nat} (hpos : 0 < n) (hn : n < s.bytes.length) :
    ∃ q us, Utf8.scan .start (s.bytes.take n) = (q, us) ∧ (us = .start ∨ us.Open) ∧ q <+: s.text ∧ q ≠ [] ∧
      if n + 1 = s.bytes.length then q = s.text ∧ us = .start else q ≠ s.text := by
  have hlength : s.bytes.length = (Utf8.encode s.text).length + 1 := by
    rw [bytes_eq, List.length_append]
    rfl
  have htake : s.bytes.take n = (Utf8.encode s.text).take n := by
    rw [bytes_eq, List.take_append_of_le_length (by omega)]
  rw [htake]
  by_cases hwhole : n + 1 = s.bytes.length
  · rw [List.take_of_length_le (by omega), Utf8.scan_encode]
    exact ⟨s.text, .start, rfl, .inl rfl, List.prefix_rfl, s.text_ne_nil, by rw [if_pos hwhole]; exact ⟨rfl, rfl⟩⟩
  · have hne : ∀ cs, (Utf8.encode s.text).take n = Utf8.encode cs → cs ≠ s.text := by
      intro cs heq hcs
      subst hcs
      have := congrArg List.length heq
      rw [List.length_take] at this
      omega
    have hbrace : (Utf8.scan .start ((Utf8.encode s.text).take n)).1 ≠ [] := by
      obtain ⟨rest, hrest⟩ := s.bytes_starts
      obtain ⟨n, rfl⟩ : ∃ k, n = k + 1 := ⟨n - 1, by omega⟩
      rw [← htake, hrest, List.take_succ_cons, Utf8.scan]
      exact List.cons_ne_nil _ _
    obtain ⟨before, after, htext, heq | ⟨us, hopen, hafter, hscan⟩⟩ :=
      Utf8.scan_cut (List.take_prefix n (Utf8.encode s.text))
    · have hscan := Utf8.scan_encode before
      rw [← heq] at hscan
      rw [hscan] at hbrace
      exact ⟨before, .start, hscan, .inl rfl, ⟨after, htext.symm⟩, hbrace, by rw [if_neg hwhole]; exact hne before heq⟩
    · rw [hscan] at hbrace
      refine ⟨before, us, hscan, .inr hopen, ⟨after, htext.symm⟩, hbrace, ?_⟩
      rw [if_neg hwhole, htext]
      exact fun heq => hafter (List.append_right_eq_self.mp heq.symm)

end Snapshot

/-! ### A line that was begun -/

/-- What follows the last line end: inside of an object, or a whole one. -/
structure Begun (rest : List Char) (us : Utf8.State) : Prop where
  starts : ∃ more, rest = '\x7b' :: more
  whole : '\n' ∉ rest
  decoder : us = .start ∨ us.Open
  scan : ((Json.Scan.plain 0).run rest).Open ∨ (Json.Scan.plain 0).run rest = .done ∧ us = .start

theorem open_flushed {t : Json.Scan} (h : t.Open) (us : Utf8.State) : (t.run (flushed us)).Open := by
  unfold flushed
  split
  · exact h
  · exact h.neutral (by decide)

/-- Behind a line that was begun, the text of another snapshot stays inside of it. -/
theorem Begun.append {rest q : List Char} {us : Utf8.State} (h : Begun rest us) {s : Snapshot} (hq : q <+: s.text)
    (hne : q ≠ []) : ((Json.Scan.plain 0).run (rest ++ (flushed us ++ q))).Open := by
  rw [Json.Scan.run_append, Json.Scan.run_append]
  refine s.enclosed.again hq hne ?_
  obtain hopen | ⟨hdone, rfl⟩ := h.scan
  · exact .inl (open_flushed hopen us)
  · rw [hdone]
    exact .inr rfl

/-- A line that ends inside of an object is none. -/
theorem parse_none {cs : List Char} (h : ((Json.Scan.plain 0).run cs).Open) : Json.parseChars cs = none := by
  cases hparse : Json.parseChars cs with
  | none => rfl
  | some v => exact absurd (Json.accepts_of_parse hparse) (Json.Scan.not_behind_of_open h)

/-- A line that was cut off, which cannot be read, not even without the white space at its end. -/
structure Torn (rest : List Char) (us : Utf8.State) : Prop extends Begun rest us where
  open_trimmed : us = .start → ((Json.Scan.plain 0).run (rest.rdropWhile isJsSpace)).Open
  open_scan : ((Json.Scan.plain 0).run rest).Open

theorem Snapshot.begun (s : Snapshot) : Begun s.text .start where
  starts := s.line.starts
  whole := s.line_end_not_mem
  decoder := .inl rfl
  scan := .inr ⟨s.enclosed.scan, rfl⟩

theorem flushed_whole (us : Utf8.State) : '\n' ∉ flushed us := by
  unfold flushed
  split
  · exact List.not_mem_nil
  · decide

/-- A part of a text, without the white space at its end. -/
theorem trimmed_part {s : Snapshot} {q : List Char} (hq : q <+: s.text) (hne : q ≠ []) :
    ∃ q', (∀ before, (before ++ q).rdropWhile isJsSpace = before ++ q') ∧ q' <+: s.text ∧ q' ≠ [] ∧
      (q ≠ s.text → q' ≠ s.text) := by
  obtain ⟨more, rfl⟩ := s.enclosed.starts_of_prefix hq hne
  have hstart : '\x7b' :: more.rdropWhile isJsSpace <+: '\x7b' :: more :=
    (List.prefix_cons_inj _).mpr (List.rdropWhile_prefix _ _)
  refine ⟨'\x7b' :: more.rdropWhile isJsSpace, fun before => rdropWhile_keep (by decide) before more,
    hstart.trans hq, List.cons_ne_nil _ _, ?_⟩
  intro hcut heq
  rw [heq] at hstart
  exact hcut (hq.eq_of_length_le hstart.length_le)

/-- The first part of a line that was cut off. -/
theorem torn_first {s : Snapshot} {q : List Char} {us : Utf8.State} (hus : us = .start ∨ us.Open) (hq : q <+: s.text)
    (hne : q ≠ []) (hcut : q ≠ s.text) : Torn q us := by
  have hopen := s.enclosed.cut hq hne hcut
  obtain ⟨q', htrim, hq', hne', hcut'⟩ := trimmed_part hq hne
  refine ⟨⟨s.enclosed.starts_of_prefix hq hne, fun hm => s.line_end_not_mem (hq.mem hm), hus, .inl hopen⟩, fun _ => ?_,
    hopen⟩
  rw [← List.nil_append q, htrim, List.nil_append]
  exact s.enclosed.cut hq' hne' (hcut' hcut)

/-- A further part behind a line that was begun. -/
theorem Begun.torn {rest q : List Char} {us us' : Utf8.State} (h : Begun rest us) (hus' : us' = .start ∨ us'.Open)
    {s : Snapshot} (hq : q <+: s.text) (hne : q ≠ []) : Torn (rest ++ (flushed us ++ q)) us' := by
  have hopen := h.append hq hne
  obtain ⟨q', htrim, hq', hne', -⟩ := trimmed_part hq hne
  obtain ⟨more, rfl⟩ := h.starts
  have hwhole : '\n' ∉ q := fun hm => s.line_end_not_mem (hq.mem hm)
  refine ⟨⟨⟨_, rfl⟩, List.not_mem_append h.whole (List.not_mem_append (flushed_whole us) hwhole), hus', .inl hopen⟩,
    fun _ => ?_, hopen⟩
  rw [← List.append_assoc, htrim, List.append_assoc]
  exact h.append hq' hne'

/-! ### The file and the log -/

/-- The characters behind the last line end, and where they leave the decoder. -/
def TailShape (bytes : List UInt8) (rest : List Char) (us : Utf8.State) : Tail → Prop
  | .clean => rest = [] ∧ us = .start ∧ (bytes = [] ∨ bytes.getLast? = some 0x0A)
  | .whole s => rest = s.text ∧ us = .start
  | .torn => Torn rest us

/-- The bytes are those of such a log. -/
def Shape (bytes : List UInt8) (g : Log) : Prop := ∃ lines rest us,
  Utf8.scan .start bytes = (ended lines ++ rest, us) ∧ ReadAs lines g.read ∧ (∀ l ∈ lines, Line l) ∧
    TailShape bytes rest us g.tail

theorem TailShape.begun {bytes : List UInt8} {rest : List Char} {us : Utf8.State} {tail : Tail}
    (h : TailShape bytes rest us tail) : rest = [] ∧ us = .start ∧ tail = .clean ∨ Begun rest us ∧ tail ≠ .clean := by
  cases tail with
  | clean => exact .inl ⟨h.1, h.2.1, rfl⟩
  | whole s =>
    obtain ⟨rfl, rfl⟩ := h
    exact .inr ⟨s.begun, nofun⟩
  | torn => exact .inr ⟨h.toBegun, nofun⟩

theorem ended_snoc (lines : List (List Char)) (l : List Char) : ended (lines ++ [l]) = ended lines ++ (l ++ ['\n']) := by
  simp [ended]

theorem getLast?_bytes (bytes : List UInt8) (s : Snapshot) : (bytes ++ s.bytes).getLast? = some 0x0A := by
  rw [s.bytes_eq, ← List.append_assoc, List.getLast?_concat]

theorem shape_complete {bytes : List UInt8} {g : Log} (h : Shape bytes g) (s : Snapshot) :
    Shape (bytes ++ s.bytes) (g.complete s) := by
  obtain ⟨lines, rest, us, hscan, hread, hlines, htail⟩ := h
  obtain ⟨tailBytes, hbytes⟩ := s.bytes_starts
  have hclean : (bytes ++ s.bytes = [] ∨ (bytes ++ s.bytes).getLast? = some 0x0A) := .inr (getLast?_bytes bytes s)
  have hscan' : Utf8.scan .start (bytes ++ s.bytes) = (ended lines ++ rest ++ (Utf8.scan us s.bytes).1, (Utf8.scan us s.bytes).2) := by
    rw [Utf8.scan_append, hscan]
  obtain ⟨rfl, rfl, hcleanTail⟩ | ⟨hbegun, hdirty⟩ := htail.begun
  · rw [Log.complete_clean hcleanTail]
    rw [s.scan_bytes] at hscan'
    refine ⟨lines ++ [s.text], [], .start, ?_, hread.text s, ?_, rfl, rfl, hclean⟩
    · rw [hscan', ended_snoc, List.append_nil, List.append_nil]
    · exact List.forall_mem_append.mpr ⟨hlines, List.forall_mem_singleton.mpr s.line⟩
  · -- the text goes on the line that was begun, and is lost with it
    have hflushed := scan_flushed hbegun.decoder tailBytes (show (0x7B : UInt8).toNat < 0x80 by decide)
    rw [← hbytes, s.scan_bytes] at hflushed
    rw [hflushed] at hscan'
    rw [Log.complete_dirty hdirty]
    refine ⟨lines ++ [rest ++ (flushed us ++ s.text)], [], .start, ?_, hread.malformed ?_, ?_, rfl, rfl, hclean⟩
    · rw [hscan', ended_snoc]
      simp only [List.append_assoc, List.append_nil]
    · exact parse_none (hbegun.append List.prefix_rfl s.text_ne_nil)
    · refine List.forall_mem_append.mpr ⟨hlines, List.forall_mem_singleton.mpr ⟨?_, ?_, ?_⟩⟩
      · obtain ⟨more, rfl⟩ := hbegun.starts
        exact ⟨_, rfl⟩
      · obtain ⟨front, hfront⟩ := s.line.ends
        exact ⟨rest ++ (flushed us ++ front), by rw [hfront]; simp only [List.append_assoc]⟩
      · exact List.not_mem_append hbegun.whole (List.not_mem_append (flushed_whole us) s.line_end_not_mem)

/-- An append that is cut off leaves its line begun. -/
theorem shape_cut {bytes : List UInt8} {g : Log} (h : Shape bytes g) (s : Snapshot) {n : Nat} (hpos : 0 < n)
    (hn : n < s.bytes.length) : Shape (bytes ++ s.bytes.take n) (g.cut s (n + 1 = s.bytes.length)) := by
  obtain ⟨lines, rest, us, hscan, hread, hlines, htail⟩ := h
  obtain ⟨q, us', hq, hus', hpart, hne, hwhole⟩ := s.scan_take hpos hn
  have hscan' : Utf8.scan .start (bytes ++ s.bytes.take n) =
      (ended lines ++ rest ++ (Utf8.scan us (s.bytes.take n)).1, (Utf8.scan us (s.bytes.take n)).2) := by
    rw [Utf8.scan_append, hscan]
  obtain ⟨rfl, rfl, hcleanTail⟩ | ⟨hbegun, hdirty⟩ := htail.begun
  · rw [hq, List.append_nil] at hscan'
    rw [Log.cut_clean hcleanTail]
    refine ⟨lines, q, us', hscan', hread, hlines, ?_⟩
    by_cases hend : n + 1 = s.bytes.length
    · rw [if_pos hend] at hwhole
      rw [if_pos (decide_eq_true hend)]
      exact hwhole
    · rw [if_neg hend] at hwhole
      rw [if_neg (ne_true_of_eq_false (decide_eq_false hend))]
      exact torn_first hus' hpart hne hwhole
  · obtain ⟨tailBytes, hbytes⟩ := s.bytes_starts
    obtain ⟨n, rfl⟩ : ∃ k, n = k + 1 := ⟨n - 1, by omega⟩
    have hflushed := scan_flushed hbegun.decoder (tailBytes.take n) (show (0x7B : UInt8).toNat < 0x80 by decide)
    rw [← List.take_succ_cons, ← hbytes, hq] at hflushed
    rw [hflushed, List.append_assoc] at hscan'
    rw [Log.cut_dirty hdirty]
    exact ⟨lines, _, us', hscan', hread, hlines, hbegun.torn hus' hpart hne⟩

/-- **The file is one of the log, whatever part of an append is written.** -/
theorem shape_append {bytes : List UInt8} {g : Log} (h : Shape bytes g) (s : Snapshot) (n : Nat) :
    Shape (bytes ++ s.bytes.take n) (g.append s n) := by
  unfold Log.append
  by_cases hzero : n = 0
  · rw [if_pos hzero, hzero, List.take_zero, List.append_nil]
    exact h
  · rw [if_neg hzero]
    by_cases hcomplete : s.bytes.length ≤ n
    · rw [if_pos hcomplete, List.take_of_length_le hcomplete]
      exact shape_complete h s
    · rw [if_neg hcomplete]
      exact shape_cut h s (Nat.pos_of_ne_zero hzero) (Nat.lt_of_not_le hcomplete)

theorem Torn.parse_none {rest : List Char} {us : Utf8.State} (h : Torn rest us) :
    Json.parseChars ((rest ++ flushed us).rdropWhile isJsSpace) = none := by
  by_cases hus : us = .start
  · rw [flushed, if_pos hus, List.append_nil]
    exact RtcCallStore.parse_none (h.open_trimmed hus)
  · have hkept := open_flushed h.open_scan us
    rw [← Json.Scan.run_append] at hkept
    rw [flushed, if_neg hus] at hkept ⊢
    rw [List.rdropWhile_concat_neg _ _ _ (by decide)]
    exact RtcCallStore.parse_none hkept

/-- **A reader sees the snapshots of the log.** -/
theorem readAll_shape {bytes : List UInt8} {g : Log} (h : Shape bytes g) :
    readAll (some bytes) = (latest g.visible).values := by
  obtain ⟨lines, rest, us, hscan, hread, hlines, htail⟩ := h
  have hdecode := decode_eq hscan
  rw [List.append_assoc] at hdecode
  obtain ⟨read, tail⟩ := g
  cases tail with
  | clean =>
    obtain ⟨rfl, rfl, -⟩ := htail
    have hrest : [] ++ flushed .start = [] := rfl
    rw [hrest] at hdecode
    rw [readAll_lines hdecode hlines (.inl rfl), linesOf, if_pos rfl, List.append_nil, hread.readLines]
    rfl
  | whole s =>
    obtain ⟨rfl, rfl⟩ := htail
    have hrest : s.text ++ flushed .start = s.text := List.append_nil _
    rw [hrest] at hdecode
    have htrim : s.text.rdropWhile isJsSpace = s.text := by
      obtain ⟨front, hfront⟩ := s.line.ends
      rw [hfront, List.rdropWhile_concat_neg _ _ _ (by decide)]
    rw [readAll_lines hdecode hlines (.inr ⟨s.line.starts, s.line_end_not_mem⟩), linesOf, if_neg s.text_ne_nil, htrim,
      (hread.text s).readLines]
    rfl
  | torn =>
    have htail : Torn rest us := htail
    have hne : rest ++ flushed us ≠ [] := by
      obtain ⟨more, rfl⟩ := htail.starts
      exact List.cons_ne_nil _ _
    have hbegins : (∃ more, rest ++ flushed us = '\x7b' :: more) ∧ '\n' ∉ rest ++ flushed us := by
      obtain ⟨more, rfl⟩ := htail.starts
      exact ⟨⟨_, rfl⟩, List.not_mem_append htail.whole (flushed_whole us)⟩
    rw [readAll_lines hdecode hlines (.inr hbegins), linesOf, if_neg hne, (hread.malformed htail.parse_none).readLines]
    rfl

/-! ### Runs -/

/-- The file, and the snapshots whose appends were completed. -/
structure State where
  file : File
  completed : List Snapshot

/-- The first bytes of an append; the rest of it may be missing. -/
structure Write where
  snapshot : Snapshot
  written : Nat

def Write.Complete (w : Write) : Prop := w.snapshot.bytes.length ≤ w.written

instance (w : Write) : Decidable w.Complete := inferInstanceAs (Decidable (_ ≤ _))

def State.write (st : State) (w : Write) : State where
  file := appendBytes st.file (w.snapshot.bytes.take w.written)
  completed := if w.Complete then st.completed ++ [w.snapshot] else st.completed

def system : System State Write where
  init st := st.completed = [] ∧ st.file.getD [] = []
  step st w st' := st' = st.write w

/-- Is it the record of the call? -/
def isCall (callId : String) (record : Json) : Bool :=
  match record.get? "callId" with
  | some (.str id) => id = callId
  | _ => false

/-- The records read of a call are the last one whose append was completed. -/
def Recovers (st : State) : Prop :=
  ∀ callId, (readAll st.file).filter (isCall callId) = (lastOf st.completed callId).toList

/-- The file is empty, or its last line has ended. -/
def Clean (file : File) : Prop := file.getD [] = [] ∨ (file.getD []).getLast? = some 0x0A

/-- A completed append has a line of its own, and one that is cut off does not lack the line end alone; or the
record is already the last one of its call. -/
def Safe (st : State) (w : Write) : Prop :=
  lastOf st.completed w.snapshot.record.callId = some w.snapshot.record.value ∨
    if w.Complete then Clean st.file else ¬ (Clean st.file ∧ w.written + 1 = w.snapshot.bytes.length)

/-- A line end among the bytes is one among the characters. -/
theorem ends_of_clean {bytes : List UInt8} {cs : List Char} {us : Utf8.State} (hscan : Utf8.scan .start bytes = (cs, us))
    (h : bytes.getLast? = some 0x0A) : cs.getLast? = some '\n' := by
  obtain ⟨before, rfl⟩ := List.getLast?_eq_some_iff.mp h
  obtain ⟨front, hfront⟩ := Utf8.scan_last before (b := 0x0A) (by decide)
  rw [hscan] at hfront
  dsimp only at hfront
  rw [hfront, List.getLast?_concat]
  rfl

theorem Shape.clean {file : File} {g : Log} (h : Shape (file.getD []) g) : Clean file ↔ g.tail = .clean := by
  obtain ⟨lines, rest, us, hscan, -, -, htail⟩ := h
  refine ⟨fun hclean => ?_, fun hcleanTail => ?_⟩
  · obtain ⟨-, -, hcleanTail⟩ | ⟨hbegun, -⟩ := htail.begun
    · exact hcleanTail
    · obtain ⟨more, hmore⟩ := hbegun.starts
      have hne : rest ≠ [] := hmore ▸ List.cons_ne_nil _ _
      exfalso
      obtain hnil | hlast := hclean
      · rw [hnil] at hscan
        exact hne (List.append_eq_nil_iff.mp (Prod.mk.inj hscan).1.symm).2
      · have hend := ends_of_clean hscan hlast
        rw [List.getLast?_append_of_ne_nil _ hne] at hend
        exact hbegun.whole (List.mem_of_getLast? hend)
  · rw [hcleanTail] at htail
    exact htail.2.2

/-- One name's value among those of distinct names. -/
theorem filter_values {f : String → Option Json} {p : Json → Bool} {callId : String} {ids : List String}
    (hnodup : ids.Nodup) (h : ∀ id ∈ ids, ∃ v, f id = some v ∧ p v = decide (id = callId)) :
    (ids.filterMap f).filter p = if callId ∈ ids then (f callId).toList else [] := by
  induction ids with
  | nil => rfl
  | cons id ids ih =>
    obtain ⟨hid, hnodup⟩ := List.nodup_cons.mp hnodup
    obtain ⟨⟨v, hv, hp⟩, hrest⟩ := List.forall_mem_cons.mp h
    rw [List.filterMap_cons, hv]
    dsimp only
    rw [List.filter_cons, hp, ih hnodup hrest]
    by_cases heq : id = callId
    · subst heq
      simp [hid, hv]
    · simp [heq, Ne.symm heq]

theorem filter_latest (ss : List Snapshot) (callId : String) :
    (latest ss).values.filter (isCall callId) = (lastOf ss callId).toList := by
  have hnodup : (callIds ss).Nodup := by
    have := (latest ss).nodup
    rw [← KeyMap.keys, latest_keys] at this
    exact this.of_map
  have hcall : ∀ id ∈ callIds ss, ∃ v, lastOf ss id = some v ∧ isCall callId v = decide (id = callId) := by
    intro id hid
    obtain ⟨r, hr, rfl⟩ := lastOf_callId hid
    exact ⟨_, hr, by rw [isCall, r.get?_value r.hasCallId]⟩
  rw [latest_values, filter_values hnodup hcall]
  split
  · rfl
  · next hnew =>
    have hnone : lastOf ss callId = none := by
      rwa [← latest_get?, KeyMap.get?_eq_none, latest_keys, List.mem_map_of_injective (fun _ _ h => Key.str.inj h)]
    rw [hnone]
    rfl

theorem lastOf_append_same {gs completed : List Snapshot} (h : ∀ callId, lastOf gs callId = lastOf completed callId)
    (s : Snapshot) (callId : String) : lastOf (gs ++ [s]) callId = lastOf (completed ++ [s]) callId := by
  rw [lastOf_snoc, lastOf_snoc, h]

/-- A record that is already the last one of its call changes nothing. -/
theorem lastOf_again {ss : List Snapshot} {s : Snapshot} (h : lastOf ss s.record.callId = some s.record.value)
    (callId : String) : lastOf (ss ++ [s]) callId = lastOf ss callId := by
  rw [lastOf_snoc]
  split
  · next heq => rw [heq, h]
  · rfl

/-- The log of the file, and what it shows. -/
structure Inv (st : State) (g : Log) : Prop where
  shape : Shape (st.file.getD []) g
  read : ∀ callId, lastOf g.read callId = lastOf st.completed callId
  whole : ∀ s, g.tail = .whole s → lastOf st.completed s.record.callId = some s.record.value

theorem Inv.recovers {st : State} {g : Log} (h : Inv st g) : Recovers st := by
  intro callId
  rw [readAll_getD, readAll_shape h.shape, filter_latest, ← h.read]
  unfold Log.visible
  split
  · next s hs =>
    rw [lastOf_again]
    rw [h.read]
    exact h.whole s hs
  · rfl

theorem write_file (st : State) (w : Write) :
    (st.write w).file.getD [] = st.file.getD [] ++ w.snapshot.bytes.take w.written := rfl

/-- The brace and the line end, at least. -/
theorem bytes_length (s : Snapshot) : 1 < s.bytes.length := by
  obtain ⟨more, hmore⟩ := s.line.starts
  rw [s.bytes_eq, hmore]
  show 1 < (0x7B :: (Utf8.encode more ++ [0x0A])).length
  rw [List.length_cons, List.length_append, List.length_singleton]
  omega

theorem Log.append_complete {s : Snapshot} {n : Nat} (g : Log) (h : s.bytes.length ≤ n) : g.append s n = g.complete s := by
  have hlength := bytes_length s
  rw [append, if_neg (by omega), if_pos h]

theorem Log.append_cut {s : Snapshot} {n : Nat} (g : Log) (hpos : n ≠ 0) (h : ¬ s.bytes.length ≤ n) :
    g.append s n = g.cut s (n + 1 = s.bytes.length) := by
  rw [append, if_neg hpos, if_neg h]

theorem write_completed (st : State) (w : Write) (h : w.Complete) :
    (st.write w).completed = st.completed ++ [w.snapshot] := by
  rw [State.write]
  dsimp only
  rw [if_pos h]

theorem write_cut (st : State) (w : Write) (h : ¬ w.Complete) : (st.write w).completed = st.completed := by
  rw [State.write]
  dsimp only
  rw [if_neg h]

/-- A completed append that is safe is read, or need not be. -/
theorem Inv.complete {st : State} {g : Log} (h : Inv st g) {w : Write} (hcomplete : w.Complete) (hsafe : Safe st w) :
    Inv (st.write w) (g.append w.snapshot w.written) := by
  have hshape := shape_append h.shape w.snapshot w.written
  rw [← write_file, g.append_complete hcomplete] at hshape
  rw [g.append_complete hcomplete]
  by_cases hclean : g.tail = .clean
  · rw [Log.complete_clean hclean] at hshape ⊢
    refine ⟨hshape, fun callId => ?_, nofun⟩
    rw [write_completed st w hcomplete]
    exact lastOf_append_same h.read w.snapshot callId
  · have hsame : lastOf st.completed w.snapshot.record.callId = some w.snapshot.record.value := by
      refine hsafe.resolve_right fun hplace => hclean ?_
      rw [if_pos hcomplete] at hplace
      exact h.shape.clean.mp hplace
    rw [Log.complete_dirty hclean] at hshape ⊢
    refine ⟨hshape, fun callId => ?_, nofun⟩
    rw [write_completed st w hcomplete, lastOf_again hsame]
    exact h.read callId

/-- One that is cut off is not seen, or need not be. -/
theorem Inv.cut {st : State} {g : Log} (h : Inv st g) {w : Write} (hcut : ¬ w.Complete) (hsafe : Safe st w) :
    Inv (st.write w) (g.append w.snapshot w.written) := by
  have hshape := shape_append h.shape w.snapshot w.written
  rw [← write_file] at hshape
  by_cases hzero : w.written = 0
  · have hlog : g.append w.snapshot w.written = g := if_pos hzero
    rw [hlog] at hshape ⊢
    refine ⟨hshape, ?_, ?_⟩
    · rw [write_cut st w hcut]
      exact h.read
    · rw [write_cut st w hcut]
      exact h.whole
  · rw [g.append_cut hzero hcut] at hshape ⊢
    refine ⟨hshape, ?_, fun s hs => ?_⟩
    · rw [g.read_cut, write_cut st w hcut]
      exact h.read
    · obtain ⟨hclean, hend, rfl⟩ := Log.whole_cut hs
      rw [write_cut st w hcut]
      refine hsafe.resolve_right fun hapart => ?_
      rw [if_neg hcut] at hapart
      exact hapart ⟨h.shape.clean.mpr hclean, of_decide_eq_true hend⟩

/-- What the log of a file becomes, if the write is safe. -/
theorem Inv.write {st : State} {g : Log} (h : Inv st g) {w : Write} (hsafe : Safe st w) :
    Inv (st.write w) (g.append w.snapshot w.written) :=
  if hcomplete : w.Complete then h.complete hcomplete hsafe else h.cut hcomplete hsafe

/-- What is read of a log. -/
theorem recovers_of_shape {st : State} {g : Log} (h : Shape (st.file.getD []) g) (hrecovers : Recovers st)
    (callId : String) : lastOf g.visible callId = lastOf st.completed callId := by
  have hread := hrecovers callId
  rw [readAll_getD, readAll_shape h, filter_latest] at hread
  have hhead := congrArg List.head? hread
  rwa [Option.head?_toList, Option.head?_toList] at hhead

/-- After a write that is not safe, a record is lost, or one is there too early. -/
theorem Inv.not_recovers {st : State} {g : Log} (h : Inv st g) {w : Write} (hloses : ¬ Safe st w) :
    ¬ Recovers (st.write w) := by
  intro hrecovers
  obtain ⟨hother, hplace⟩ := not_or.mp hloses
  have hshape := shape_append h.shape w.snapshot w.written
  rw [← write_file] at hshape
  have hread := recovers_of_shape hshape hrecovers w.snapshot.record.callId
  by_cases hcomplete : w.Complete
  · -- it is lost in the line before it
    rw [if_pos hcomplete, h.shape.clean] at hplace
    have hvisible : (g.append w.snapshot w.written).visible = g.read := by
      rw [g.append_complete hcomplete, Log.complete_dirty hplace]
      rfl
    rw [hvisible, h.read, write_completed st w hcomplete, lastOf_snoc, if_pos rfl] at hread
    exact hother hread
  · -- it is read, although its append was not completed
    rw [if_neg hcomplete, not_not, h.shape.clean] at hplace
    obtain ⟨hclean, hend⟩ := hplace
    have hlength := bytes_length w.snapshot
    have hzero : w.written ≠ 0 := by omega
    have hvisible : (g.append w.snapshot w.written).visible = g.read ++ [w.snapshot] := by
      rw [g.append_cut hzero hcomplete, Log.cut_clean hclean, if_pos (decide_eq_true hend)]
      rfl
    rw [hvisible, lastOf_snoc, if_pos rfl, write_cut st w hcomplete] at hread
    exact hother hread.symm

theorem shape_nil : Shape [] ⟨[], .clean⟩ := ⟨[], [], .start, rfl, .nil, by simp, rfl, rfl, .inl rfl⟩

theorem run_inv {ws : List Write} {st : State} (h : (system.restrict Safe).Run ws st) : ∃ g, Inv st g := by
  apply h.invariant (M := system.restrict Safe) (I := fun _ st => ∃ g, Inv st g)
  · intro st hinit
    obtain ⟨hnone, hempty⟩ := hinit
    refine ⟨⟨[], .clean⟩, ?_, fun callId => by rw [hnone], nofun⟩
    rw [hempty]
    exact shape_nil
  · intro _ st w _ _ hI hstep
    obtain ⟨g, hI⟩ := hI
    obtain ⟨rfl, hsafe⟩ := hstep
    exact ⟨_, hI.write hsafe⟩

/-- **After safe writes the completed records are read, and then after no other write.** -/
theorem torn_appends {ws : List Write} {st : State} (h : (system.restrict Safe).Run ws st) :
    Recovers st ∧ ∀ w, Recovers (st.write w) ↔ Safe st w := by
  obtain ⟨g, hI⟩ := run_inv h
  refine ⟨hI.recovers, fun w => ⟨fun hrecovers => ?_, fun hsafe => (hI.write hsafe).recovers⟩⟩
  by_contra hloses
  exact hI.not_recovers hloses hrecovers

theorem Safe.of_complete {st : State} {w : Write} (h : w.Complete) (hclean : Clean st.file) : Safe st w :=
  .inr ((if_pos h).symm ▸ hclean)

theorem Safe.of_cut {st : State} {w : Write} (h : ¬ w.Complete) (hend : w.written + 1 ≠ w.snapshot.bytes.length) :
    Safe st w :=
  .inr ((if_neg h).symm ▸ fun hplace => hend hplace.2)

/-- A completed append ends its line, whatever stands before it. -/
theorem clean_of_complete (st : State) {w : Write} (h : w.Complete) : Clean (st.write w).file := by
  rw [Clean, write_file, List.take_of_length_le h, getLast?_bytes]
  exact .inr rfl

/-- A line of another call is cut off, and the record behind it is one that was there. -/
theorem run_again (first other : Snapshot) : ∃ st,
    (system.restrict Safe).Run [⟨first, first.bytes.length⟩, ⟨other, other.bytes.length - 2⟩,
      ⟨first, first.bytes.length⟩, ⟨other, other.bytes.length⟩] st ∧ st.completed = [first, first, other] := by
  have hlength := bytes_length other
  let whole (s : Snapshot) : Write := ⟨s, s.bytes.length⟩
  let part : Write := ⟨other, other.bytes.length - 2⟩
  have hwhole (s : Snapshot) : (whole s).Complete := Nat.le_refl _
  have hpart : ¬ part.Complete := by
    show ¬ other.bytes.length ≤ other.bytes.length - 2
    omega
  have hend : part.written + 1 ≠ part.snapshot.bytes.length := by
    show other.bytes.length - 2 + 1 ≠ other.bytes.length
    omega
  have h₀ : (system.restrict Safe).Run [] ⟨none, []⟩ := .nil ⟨rfl, rfl⟩
  have h₁ := h₀.snoc ⟨rfl, Safe.of_complete (hwhole first) (.inl rfl)⟩
  have h₂ := h₁.snoc ⟨rfl, Safe.of_cut hpart hend⟩
  have hlast : lastOf ((State.write ⟨none, []⟩ (whole first)).write part).completed first.record.callId =
      some first.record.value := by
    rw [write_cut _ _ hpart, write_completed _ _ (hwhole first), lastOf_snoc]
    exact if_pos rfl
  have h₃ := h₂.snoc (l := whole first) ⟨rfl, .inl hlast⟩
  have h₄ := h₃.snoc ⟨rfl, Safe.of_complete (hwhole other) (clean_of_complete _ (hwhole first))⟩
  refine ⟨_, h₄, ?_⟩
  rw [write_completed _ _ (hwhole other), write_completed _ _ (hwhole first), write_cut _ _ hpart,
    write_completed _ _ (hwhole first)]
  rfl

/-- One byte of an append, and the record behind it is lost. -/
theorem run_lost (first other : Snapshot) : ∃ st,
    system.Run [⟨first, 1⟩, ⟨other, other.bytes.length⟩] st ∧ st.completed = [other] ∧ readAll st.file = [] := by
  have hlength := bytes_length first
  let begun : Write := ⟨first, 1⟩
  let whole : Write := ⟨other, other.bytes.length⟩
  have hbegun : ¬ begun.Complete := Nat.not_le_of_lt hlength
  have hwhole : whole.Complete := Nat.le_refl _
  have h₀ : system.Run [] ⟨none, []⟩ := .nil ⟨rfl, rfl⟩
  have h₁ := h₀.snoc (show system.step _ begun _ from rfl)
  have h₂ := h₁.snoc (show system.step _ whole _ from rfl)
  refine ⟨_, h₂, ?_, ?_⟩
  · rw [write_completed _ _ hwhole, write_cut _ _ hbegun]
    rfl
  · have hshape := shape_append (shape_append shape_nil first 1) other other.bytes.length
    have hlog : (Log.append ⟨[], .clean⟩ first 1).append other other.bytes.length = ⟨[], .clean⟩ := by
      rw [Log.append_cut _ Nat.one_ne_zero hbegun, Log.append_complete _ hwhole, Log.cut]
      dsimp only
      split <;> rfl
    rw [hlog] at hshape
    rw [readAll_getD]
    exact readAll_shape hshape

def demo (callId : String) : Snapshot where
  record := .initiated callId "session" "v=0" ⟨5, 0, true⟩ canonical_five
  now := ⟨5, 0, true⟩
  canonical := canonical_five

theorem torn_appends_again :
    let first := demo "call-0001"
    let other := demo "call-0002"
    ∃ st, (system.restrict Safe).Run [⟨first, first.bytes.length⟩, ⟨other, other.bytes.length - 2⟩,
      ⟨first, first.bytes.length⟩, ⟨other, other.bytes.length⟩] st ∧ st.completed = [first, first, other] ∧
      Recovers st := by
  intro first other
  obtain ⟨st, hrun, hcompleted⟩ := run_again first other
  exact ⟨st, hrun, hcompleted, (torn_appends hrun).1⟩

/-- The record of the second call is written as a whole, and not read. -/
theorem torn_append_loses :
    let first := demo "call-0001"
    let other := demo "call-0002"
    ∃ st, system.Run [⟨first, 1⟩, ⟨other, other.bytes.length⟩] st ∧ st.completed = [other] ∧
      readAll st.file = [] ∧ ¬ Recovers st := by
  intro first other
  obtain ⟨st, hrun, hcompleted, hread⟩ := run_lost first other
  refine ⟨st, hrun, hcompleted, hread, fun hrecovers => ?_⟩
  have hlost := hrecovers other.record.callId
  have hlast := lastOf_snoc [] other other.record.callId
  rw [if_pos rfl, List.nil_append] at hlast
  rw [hread, hcompleted, hlast] at hlost
  cases hlost

end RtcPlugin.RtcCallStore
