import Mathlib.Data.Rat.Lemmas
import Mathlib.Algebra.Order.Ring.Unbundled.Rat
import Mathlib.Data.List.DropRight
import RtcPlugin.Json.Brackets
import RtcPlugin.Json.Stringify
import RtcPlugin.Plugin.Handlers
import RtcPlugin.Stream.Separated
import RtcPlugin.System.KeyMap
import RtcPlugin.Text.Utf8

/-! The file of call records.

Every `append` writes one line, and `readAll` takes the last line of every call. A
line's text holds no line end, begins with a brace and ends with one, so the lines
are found again (`split_trim`) and each is read as the record it was written for
(`readLine_text`). -/
namespace RtcPlugin.RtcCallStore

/-- The properties of `RtcCallRecordSchema`. -/
def recordFields : List String := ["callId", "sessionKey", "state", "offerSdp", "answerSdp", "startedAt", "connectedAt",
  "endedAt", "endReason", "localCandidates", "remoteCandidates", "transcript"]

/-- A call record as an object: its properties in the order they were set, and some of them undefined. -/
structure Record where
  fields : List (String × Option Json)
  known : ∀ f ∈ fields, f.1 ∈ recordFields
  distinct : (fields.map Prod.fst).Nodup
  native : ∀ f ∈ fields, ∀ v ∈ f.2, v.Native
  callId : String
  startedAt : Decimal
  hasCallId : ("callId", some (.str callId)) ∈ fields
  hasStartedAt : ("startedAt", some (.num startedAt)) ∈ fields

/-- The properties that are not undefined. -/
def Record.members (r : Record) : List (String × Json) := r.fields.filterMap fun f => f.2.map (f.1, ·)

def Record.value (r : Record) : Json := .obj r.members

/-- As `startCall` makes it. -/
def Record.initiated (callId sessionKey sdp : String) (startedAt : Decimal) (h : startedAt.Canonical) : Record where
  fields := [("callId", some (.str callId)), ("sessionKey", some (.str sessionKey)),
    ("state", some (.str RtcCallState.initiating.name)), ("offerSdp", some (.str sdp)),
    ("startedAt", some (.num startedAt)), ("localCandidates", some (.arr [])), ("remoteCandidates", some (.arr [])),
    ("transcript", some (.arr []))]
  known := by simp [recordFields]
  distinct := by simp
  native := by simp [Json.Native, Json.NativeElems, h]
  callId := callId
  startedAt := startedAt
  hasCallId := by simp
  hasStartedAt := by simp

/-- A record, and the time it is appended at. -/
structure Snapshot where
  record : Record
  now : Decimal
  canonical : now.Canonical

namespace Snapshot

/-- `{...record, _ts: Date.now()}` -/
def value (s : Snapshot) : Json := .obj (Json.setMember s.record.members "_ts" (.num s.now))

def text (s : Snapshot) : List Char := s.value.stringify

def bytes (s : Snapshot) : List UInt8 := Utf8.encode (s.text ++ ['\n'])

end Snapshot

/-- The file's bytes, if it exists. -/
abbrev File := Option (List UInt8)

/-- `appendFileSync` -/
def appendBytes (file : File) (bytes : List UInt8) : File := some (file.getD [] ++ bytes)

def append (file : File) (s : Snapshot) : File := appendBytes file s.bytes

/-- What a `Map` compares its keys by; an object is only the same as itself. -/
inductive Key where
  | undefined
  | null
  | bool (b : Bool)
  | num (mantissa exponent : Int)
  | str (s : String)
  | object (line : Nat)
  deriving DecidableEq, Repr

/-- The key that a value is, if it was read from that line. -/
def Key.of (line : Nat) : Option Json → Key
  | none => .undefined
  | some .null => .null
  | some (.bool b) => .bool b
  | some (.num d) => .num d.mantissa d.exponent
  | some (.str s) => .str s
  | some (.arr _) | some (.obj _) => .object line

/-- `delete v[name]` -/
def deleteMember : Json → String → Json
  | .obj members, name => .obj (members.filter (·.1 ≠ name))
  | v, _ => v

/-- What a line sets in the map; a line that does not parse throws, and so does deleting from `null`. -/
def readLine (line : Nat) (cs : List Char) : Option (Key × Json) :=
  match Json.parseChars cs with
  | none | some .null => none
  | some v =>
    let record := deleteMember v.normal "_ts"
    some (Key.of line (record.get? "callId"), record)

/-- The map after a line. -/
def setLine (latest : KeyMap Key Json) (line : List Char × Nat) : KeyMap Key Json :=
  match readLine line.2 line.1 with
  | some (key, record) => latest.set key record
  | none => latest

def readLines (lines : List (List Char)) : KeyMap Key Json := lines.zipIdx.foldl setLine KeyMap.empty

def trim (cs : List Char) : List Char := (jsTrim (String.ofList cs)).toList

def readAll (file : File) : List Json :=
  match file with
  | none => []
  | some bytes =>
    let content := trim (Utf8.decode bytes)
    if content = [] then [] else (readLines (split '\n' content)).values

/-- The number that a decimal stands for. -/
def decimalValue (d : Decimal) : ℚ := d.mantissa * 10 ^ d.exponent

/-- `record.startedAt ?? 0`, which is a number in every record. -/
def startedAtOr0 (record : Json) : ℚ :=
  match record.get? "startedAt" with
  | some (.num d) => decimalValue d
  | _ => 0

/-- Sorted by `(b.startedAt ?? 0) - (a.startedAt ?? 0)`; the sort is stable. -/
def readRecent (file : File) (limit : Nat) : List Json :=
  ((readAll file).mergeSort fun a b => decide (startedAtOr0 b ≤ startedAtOr0 a)).take limit

/-! ### One line -/

theorem arrayIndex_none : ∀ name ∈ "_ts" :: recordFields, Json.arrayIndex? name = none := by decide

/-- The name of a property begins with a letter. -/
theorem quote_letter : ∀ name ∈ recordFields, (name.toList.flatMap Json.escape).head?.any Char.isAlpha = true := by
  decide

namespace Record

variable (r : Record)

theorem mem_members {name : String} {v : Json} : (name, v) ∈ r.members ↔ (name, some v) ∈ r.fields := by
  unfold members
  rw [List.mem_filterMap]
  constructor
  · intro h
    obtain ⟨⟨name', _ | w⟩, hf, heq⟩ := h
    · cases heq
    · cases heq
      exact hf
  · intro hf
    exact ⟨_, hf, rfl⟩

theorem names_sublist : (r.members.map Prod.fst).Sublist (r.fields.map Prod.fst) := by
  unfold members
  induction r.fields with
  | nil => exact .slnil
  | cons f fields ih =>
    obtain ⟨name, _ | v⟩ := f
    · exact .cons _ ih
    · exact .cons_cons _ ih

theorem members_known : ∀ m ∈ r.members, m.1 ∈ recordFields := fun _ hm => r.known _ (r.mem_members.mp hm)

theorem members_native : ∀ m ∈ r.members, m.2.Native := fun m hm => r.native _ (r.mem_members.mp hm) m.2 rfl

theorem get?_value {name : String} {v : Json} (h : (name, some v) ∈ r.fields) : r.value.get? name = some v := by
  have hnodup : (r.members.reverse.map Prod.fst).Nodup := by
    rw [List.map_reverse, List.nodup_reverse]
    exact r.distinct.sublist r.names_sublist
  have hmem : (name, v) ∈ r.members.reverse := List.mem_reverse.mpr (r.mem_members.mpr h)
  exact KeyMap.get?_eq_some.mpr (show (name, v) ∈ (⟨_, hnodup⟩ : KeyMap String Json).entries from hmem)

end Record

namespace Snapshot

variable (s : Snapshot)

theorem ts_new : ∀ m ∈ s.record.members, m.1 ≠ "_ts" := by
  intro m hm heq
  exact absurd (heq ▸ s.record.members_known m hm) (by decide)

theorem value_eq : s.value = .obj (s.record.members ++ [("_ts", .num s.now)]) := by
  have hnew : s.record.members.any (·.1 == "_ts") = false := by
    rw [List.any_eq_false]
    intro m hm
    simpa using s.ts_new m hm
  unfold value Json.setMember
  rw [hnew, if_neg (by decide)]

theorem native : s.value.Native := by
  rw [value_eq]
  refine ⟨?_, Json.indicesFirst_eq ?_, Json.nativeMembers_of_forall ?_⟩
  · rw [List.map_append]
    refine (s.record.distinct.sublist s.record.names_sublist).append (List.nodup_singleton _) ?_
    intro name hname hts
    obtain ⟨m, hm, rfl⟩ := List.mem_map.mp hname
    exact s.ts_new m hm (List.mem_singleton.mp hts)
  · intro m hm
    obtain hm | hm := List.mem_append.mp hm
    · exact arrayIndex_none _ (List.mem_cons_of_mem _ (s.record.members_known m hm))
    · rw [List.mem_singleton.mp hm]
      exact arrayIndex_none _ (List.mem_cons_self ..)
  · intro m hm
    obtain hm | hm := List.mem_append.mp hm
    · exact s.record.members_native m hm
    · rw [List.mem_singleton.mp hm]
      exact s.canonical

theorem parse_text : Json.parseChars s.text = some s.value := Json.parseChars_stringify s.native

theorem text_eq : s.text = s.value.text := by rw [text, Json.stringify, Json.normal_eq _ s.native]

theorem line_end_not_mem : '\n' ∉ s.text := by
  intro hm
  rw [text_eq] at hm
  exact absurd (Json.printable_text _ _ hm) (by decide)

theorem enclosed : Json.Enclosed s.text := by
  have hmembers : s.record.members ≠ [] :=
    List.ne_nil_of_mem (s.record.mem_members.mpr s.record.hasCallId)
  obtain ⟨⟨name, v⟩, members, heq⟩ := List.exists_cons_of_ne_nil hmembers
  have hletter := quote_letter name (s.record.members_known (name, v) (heq ▸ List.mem_cons_self ..))
  have htext : s.text = '\x7b' :: (Json.quote name ++ ':' :: (v.text ++ Json.textMembers (members ++ [("_ts", .num s.now)]))) := by
    rw [text_eq, value_eq, heq]
    rfl
  cases hname : name.toList.flatMap Json.escape with
  | nil =>
    rw [hname] at hletter
    cases hletter
  | cons c more =>
    rw [hname] at hletter
    have hends : ∃ front, s.text = front ++ ['\x7d'] := by
      obtain ⟨front, hfront⟩ := Json.textMembers_ends (members ++ [("_ts", .num s.now)])
      rw [htext, hfront]
      exact ⟨'\x7b' :: (Json.quote name ++ ':' :: (v.text ++ front)), by simp⟩
    obtain ⟨front, hfront⟩ := hends
    refine Json.enclosed_of_parse s.parse_text (show s.text = '\x7b' :: '"' :: c :: (more ++ '"' :: ':' ::
      (v.text ++ Json.textMembers (members ++ [("_ts", .num s.now)]))) from ?_) hletter hfront
    rw [htext, Json.quote_append, hname]
    rfl

/-- **The line of a record is read as the record.** -/
theorem readLine_text (line : Nat) : readLine line s.text = some (.str s.record.callId, s.record.value) := by
  have hdelete : deleteMember s.value "_ts" = s.record.value := by
    have hkeep : s.record.members.filter (fun m => decide (m.1 ≠ "_ts")) = s.record.members :=
      List.filter_eq_self.mpr fun m hm => decide_eq_true (s.ts_new m hm)
    rw [value_eq, deleteMember, List.filter_append, hkeep]
    exact congrArg Json.obj (List.append_nil _)
  have hcallId := s.record.get?_value s.record.hasCallId
  have hvalue := s.value_eq
  unfold readLine
  rw [parse_text, hvalue]
  dsimp only
  rw [← hvalue, Json.normal_eq _ s.native, hdelete, hcallId]
  rfl

end Snapshot

/-! ### The lines of a file -/

theorem trim_eq (cs : List Char) : trim cs = (cs.dropWhile isJsSpace).rdropWhile isJsSpace := by
  unfold trim jsTrim List.rdropWhile
  rw [String.toList_ofList, String.toList_ofList]

/-- What stands before a character that is kept is kept. -/
theorem rdropWhile_keep {p : Char → Bool} {c : Char} (hc : p c = false) (a b : List Char) :
    (a ++ c :: b).rdropWhile p = a ++ c :: b.rdropWhile p := by
  induction b using List.reverseRecOn with
  | nil => exact List.rdropWhile_concat_neg _ _ _ (by simp [hc])
  | append_singleton b x ih =>
    cases hx : p x with
    | true => rw [← List.cons_append, ← List.append_assoc, List.rdropWhile_concat_pos _ _ _ hx, ih,
        List.rdropWhile_concat_pos _ _ _ hx]
    | false =>
      have hx : ¬ p x = true := by simp [hx]
      rw [← List.cons_append, ← List.append_assoc, List.rdropWhile_concat_neg _ _ _ hx,
        List.rdropWhile_concat_neg _ _ _ hx, List.append_assoc, List.cons_append]

/-- Lines with their ends. -/
def ended (lines : List (List Char)) : List Char := lines.flatMap (· ++ ['\n'])

theorem ended_append (a b : List (List Char)) : ended (a ++ b) = ended a ++ ended b := List.flatMap_append

/-- The lines are found again, and what follows the last line end. -/
theorem split_ended {lines : List (List Char)} (h : ∀ l ∈ lines, '\n' ∉ l) (rest : List Char) :
    split '\n' (ended lines ++ rest) = lines ++ split '\n' rest := by
  induction lines with
  | nil => rfl
  | cons l lines ih =>
    have ⟨hl, hlines⟩ := List.forall_mem_cons.mp h
    rw [ended, List.flatMap_cons, ← ended, List.append_assoc, List.append_assoc, List.singleton_append, split_append,
      split_of_not_mem hl, ih hlines]
    rfl

/-- A whole line, as it is written. -/
structure Line (l : List Char) : Prop where
  starts : ∃ more, l = '\x7b' :: more
  ends : ∃ front, l = front ++ ['\x7d']
  whole : '\n' ∉ l

theorem Snapshot.line (s : Snapshot) : Line s.text where
  starts := by
    obtain ⟨c, more, htext, -⟩ := s.enclosed.starts
    exact ⟨_, htext⟩
  ends := s.enclosed.ends
  whole := s.line_end_not_mem

/-- The lines of a text, the last one without its white space if it has not ended. -/
def linesOf (lines : List (List Char)) (rest : List Char) : List (List Char) :=
  lines ++ if rest = [] then [] else [rest.rdropWhile isJsSpace]

/-- Where nothing is trimmed from the front. -/
theorem trim_of_starts {cs more : List Char} (h : cs = '\x7b' :: more) : trim cs = cs.rdropWhile isJsSpace := by
  rw [trim_eq, h, List.dropWhile_cons_of_neg (by decide)]

/-- The end of the last line is trimmed. -/
theorem rdropWhile_ended (before : List (List Char)) {last : List Char} (h : Line last) :
    (ended (before ++ [last])).rdropWhile isJsSpace = ended before ++ last := by
  obtain ⟨front, rfl⟩ := h.ends
  have hcontent : ended (before ++ [front ++ ['\x7d']]) = (ended before ++ front) ++ '\x7d' :: ['\n'] := by
    simp [ended]
  rw [hcontent, rdropWhile_keep (by decide), List.append_assoc]
  rfl

/-- Behind the last line end, only what follows it is trimmed. -/
theorem rdropWhile_begun (lines : List (List Char)) {rest : List Char} (h : ∃ more, rest = '\x7b' :: more) :
    (ended lines ++ rest).rdropWhile isJsSpace = ended lines ++ rest.rdropWhile isJsSpace := by
  obtain ⟨more, rfl⟩ := h
  rw [rdropWhile_keep (by decide), ← List.nil_append ('\x7b' :: more), rdropWhile_keep (by decide)]
  rfl

theorem split_trim {lines : List (List Char)} (hlines : ∀ l ∈ lines, Line l) {rest : List Char}
    (hrest : rest = [] ∨ (∃ more, rest = '\x7b' :: more) ∧ '\n' ∉ rest) (hne : lines ≠ [] ∨ rest ≠ []) :
    trim (ended lines ++ rest) ≠ [] ∧ split '\n' (trim (ended lines ++ rest)) = linesOf lines rest := by
  have hwhole : ∀ l ∈ lines, '\n' ∉ l := fun l hl => (hlines l hl).whole
  have hstarts : ∃ more, ended lines ++ rest = '\x7b' :: more := by
    cases lines with
    | nil =>
      obtain rfl | ⟨⟨more, rfl⟩, -⟩ := hrest
      · simp at hne
      · exact ⟨more, rfl⟩
    | cons l lines =>
      obtain ⟨more, rfl⟩ := (hlines l (List.mem_cons_self ..)).starts
      exact ⟨_, rfl⟩
  obtain ⟨more, hmore⟩ := hstarts
  have hkept : ∃ kept, trim (ended lines ++ rest) = '\x7b' :: kept := by
    rw [trim_of_starts hmore, hmore]
    exact ⟨_, rdropWhile_keep (by decide) [] more⟩
  refine ⟨by obtain ⟨kept, hkept⟩ := hkept; rw [hkept]; exact List.cons_ne_nil _ _, ?_⟩
  rw [trim_of_starts hmore]
  obtain rfl | ⟨hbegins, hend⟩ := hrest
  · -- the last line has ended
    obtain ⟨before, last, hlast⟩ := (List.eq_nil_or_concat lines).resolve_left (by simpa using hne)
    rw [List.concat_eq_append] at hlast
    subst hlast
    have hlast := hlines last (List.mem_append_right _ (List.mem_singleton_self _))
    rw [List.append_nil, rdropWhile_ended before hlast, split_ended (fun l hl => hwhole l (List.mem_append_left _ hl)),
      split_of_not_mem hlast.whole]
    exact (List.append_nil _).symm
  · have hend' : '\n' ∉ rest.rdropWhile isJsSpace := fun hm => hend (List.rdropWhile_prefix _ _ |>.mem hm)
    have hrest : rest ≠ [] := by
      obtain ⟨more, rfl⟩ := hbegins
      exact List.cons_ne_nil _ _
    rw [rdropWhile_begun lines hbegins, split_ended hwhole, split_of_not_mem hend', linesOf, if_neg hrest]

theorem readAll_lines {bytes : List UInt8} {lines : List (List Char)} {rest : List Char}
    (hdecode : Utf8.decode bytes = ended lines ++ rest) (hlines : ∀ l ∈ lines, Line l)
    (hrest : rest = [] ∨ (∃ more, rest = '\x7b' :: more) ∧ '\n' ∉ rest) :
    readAll (some bytes) = (readLines (linesOf lines rest)).values := by
  unfold readAll
  dsimp only
  rw [hdecode]
  by_cases hne : lines ≠ [] ∨ rest ≠ []
  · obtain ⟨hcontent, hsplit⟩ := split_trim hlines hrest hne
    rw [if_neg hcontent, hsplit]
  · obtain ⟨rfl, rfl⟩ : lines = [] ∧ rest = [] := by simpa using hne
    rfl

/-- No file is as good as an empty one. -/
theorem readAll_getD (file : File) : readAll file = readAll (some (file.getD [])) := by
  cases file <;> rfl

/-! ### The records read -/

/-- The map of some snapshots, each in the place of the one before it. -/
def latest (ss : List Snapshot) : KeyMap Key Json :=
  ss.foldl (fun latest s => latest.set (.str s.record.callId) s.record.value) KeyMap.empty

theorem latest_snoc (ss : List Snapshot) (s : Snapshot) :
    latest (ss ++ [s]) = (latest ss).set (.str s.record.callId) s.record.value := by
  rw [latest, List.foldl_append]
  rfl

/-- Lines with the snapshots that are read from them; a line may be none's. -/
inductive ReadAs : List (List Char) → List Snapshot → Prop where
  | nil : ReadAs [] []
  | text {lines ss} (s : Snapshot) : ReadAs lines ss → ReadAs (lines ++ [s.text]) (ss ++ [s])
  | malformed {lines ss l} : ReadAs lines ss → Json.parseChars l = none → ReadAs (lines ++ [l]) ss

theorem readLines_snoc (lines : List (List Char)) (l : List Char) :
    readLines (lines ++ [l]) = setLine (readLines lines) (l, lines.length) := by
  rw [readLines, List.zipIdx_append, List.foldl_append]
  simp [readLines]

theorem ReadAs.readLines {lines : List (List Char)} {ss : List Snapshot} (h : ReadAs lines ss) :
    readLines lines = latest ss := by
  induction h with
  | nil => rfl
  | text s h ih => rw [readLines_snoc, ih, latest_snoc, setLine, s.readLine_text]
  | malformed h hparse ih => rw [readLines_snoc, ih, setLine, readLine, hparse]

theorem readAs_texts (ss : List Snapshot) : ReadAs (ss.map Snapshot.text) ss := by
  induction ss using List.reverseRecOn with
  | nil => exact .nil
  | append_singleton ss s ih =>
    rw [List.map_append]
    exact ih.text s

/-- The last record of a call among some snapshots. -/
def lastOf (ss : List Snapshot) (callId : String) : Option Json :=
  (ss.reverse.find? (·.record.callId = callId)).map (·.record.value)

theorem lastOf_snoc (ss : List Snapshot) (s : Snapshot) (callId : String) :
    lastOf (ss ++ [s]) callId = if callId = s.record.callId then some s.record.value else lastOf ss callId := by
  rw [lastOf, List.reverse_append, List.reverse_singleton, List.singleton_append, List.find?_cons]
  by_cases h : callId = s.record.callId
  · simp [h]
  · simp [h, Ne.symm h, lastOf]

theorem latest_get? (ss : List Snapshot) (callId : String) : (latest ss).get? (.str callId) = lastOf ss callId := by
  induction ss using List.reverseRecOn with
  | nil => rfl
  | append_singleton ss s ih =>
    rw [latest_snoc, lastOf_snoc, KeyMap.get?_set, ih]
    simp only [Key.str.injEq]

/-- The calls in the order of their first snapshots. -/
def callIds (ss : List Snapshot) : List String := (ss.map (·.record.callId)).eraseDups

theorem eraseDups_snoc (ids : List String) (id : String) :
    (ids ++ [id]).eraseDups = if id ∈ ids then ids.eraseDups else ids.eraseDups ++ [id] := by
  rw [List.eraseDups_append]
  by_cases h : id ∈ ids
  · simp [h, List.removeAll]
  · simp [h, List.removeAll, List.eraseDups_cons]

theorem latest_keys (ss : List Snapshot) : (latest ss).keys = (callIds ss).map Key.str := by
  induction ss using List.reverseRecOn with
  | nil => rfl
  | append_singleton ss s ih =>
    have hmem : Key.str s.record.callId ∈ (latest ss).keys ↔ s.record.callId ∈ ss.map (·.record.callId) := by
      rw [ih, callIds, List.mem_map_of_injective (fun _ _ h => Key.str.inj h), List.mem_eraseDups]
    rw [latest_snoc, KeyMap.keys_set, callIds, List.map_append, List.map_singleton, eraseDups_snoc]
    by_cases h : s.record.callId ∈ ss.map (·.record.callId)
    · rw [if_pos (hmem.mpr h), if_pos h, ih, callIds]
    · rw [if_neg (fun hm => h (hmem.mp hm)), if_neg h, ih, callIds, List.map_append]
      rfl

theorem latest_values (ss : List Snapshot) : (latest ss).values = (callIds ss).filterMap (lastOf ss) := by
  rw [KeyMap.values_eq, latest_keys, List.filterMap_map]
  exact List.filterMap_congr fun callId _ => latest_get? ss callId

/-! ### Reading back what was written -/

/-- The file after a snapshot was appended for each of some records. -/
def written (file : File) (ss : List Snapshot) : File := ss.foldl append file

theorem written_snoc (file : File) (ss : List Snapshot) (s : Snapshot) :
    written file (ss ++ [s]) = append (written file ss) s := by
  rw [written, List.foldl_append]
  rfl

theorem written_getD (file : File) (ss : List Snapshot) :
    (written file ss).getD [] = file.getD [] ++ Utf8.encode (ended (ss.map Snapshot.text)) := by
  induction ss using List.reverseRecOn with
  | nil => exact (List.append_nil _).symm
  | append_singleton ss s ih =>
    rw [written_snoc, List.map_append, ended_append, Utf8.encode_append, ← List.append_assoc, ← ih]
    simp [append, appendBytes, Snapshot.bytes, ended]

theorem readAll_written {file : File} (hfile : file.getD [] = []) (ss : List Snapshot) :
    readAll (written file ss) = (latest ss).values := by
  have hlines : ∀ l ∈ ss.map Snapshot.text, Line l := by
    intro l hl
    obtain ⟨s, -, rfl⟩ := List.mem_map.mp hl
    exact s.line
  have hdecode : Utf8.decode ((written file ss).getD []) = ended (ss.map Snapshot.text) ++ [] := by
    rw [written_getD, hfile, List.nil_append, Utf8.decode_encode, List.append_nil]
  rw [readAll_getD, readAll_lines hdecode hlines (.inl rfl), linesOf, if_pos rfl, List.append_nil,
    (readAs_texts ss).readLines]

/-- One record for every call, in the order of the first ones: the last that was appended. -/
structure ReadsBack (ss : List Snapshot) (records : List Json) : Prop where
  eq : records = (callIds ss).filterMap (lastOf ss)
  calls : records.map (·.get? "callId") = (callIds ss).map fun callId => some (.str callId)

/-- As many of the records as asked for, the latest first; those of one time are in their order. -/
structure Recent (all : List Json) (limit : Nat) (recent : List Json) : Prop where
  length : recent.length = min limit all.length
  latest : ∃ rest, (recent ++ rest).Perm all ∧
    (recent ++ rest).Pairwise (fun a b => startedAtOr0 b ≤ startedAtOr0 a) ∧
    ∀ a b, [a, b].Sublist all → startedAtOr0 a = startedAtOr0 b → [a, b].Sublist (recent ++ rest)

theorem lastOf_callId {ss : List Snapshot} {callId : String} (h : callId ∈ callIds ss) :
    ∃ r : Record, lastOf ss callId = some r.value ∧ r.callId = callId := by
  rw [callIds, List.mem_eraseDups, List.mem_map] at h
  obtain ⟨s, hs, hid⟩ := h
  unfold lastOf
  cases hfind : ss.reverse.find? (fun s => decide (s.record.callId = callId)) with
  | none =>
    rw [List.find?_eq_none] at hfind
    exact absurd (decide_eq_true hid) (hfind s (List.mem_reverse.mpr hs))
  | some t => exact ⟨t.record, rfl, by simpa using List.find?_some hfind⟩

theorem latest_readsBack (ss : List Snapshot) : ReadsBack ss (latest ss).values := by
  refine ⟨latest_values ss, ?_⟩
  rw [latest_values, List.map_filterMap, ← List.filterMap_eq_map]
  refine List.filterMap_congr fun callId hcall => ?_
  obtain ⟨r, hr, rfl⟩ := lastOf_callId hcall
  rw [hr]
  exact congrArg some (r.get?_value r.hasCallId)

theorem recent_sort (all : List Json) (limit : Nat) :
    Recent all limit ((all.mergeSort fun a b => decide (startedAtOr0 b ≤ startedAtOr0 a)).take limit) := by
  have htrans : ∀ a b c : Json, decide (startedAtOr0 b ≤ startedAtOr0 a) = true →
      decide (startedAtOr0 c ≤ startedAtOr0 b) = true → decide (startedAtOr0 c ≤ startedAtOr0 a) = true := by
    intro a b c hab hbc
    rw [decide_eq_true_eq] at hab hbc ⊢
    exact hbc.trans hab
  have htotal : ∀ a b : Json,
      (decide (startedAtOr0 b ≤ startedAtOr0 a) || decide (startedAtOr0 a ≤ startedAtOr0 b)) = true := by
    intro a b
    simpa using le_total (startedAtOr0 b) (startedAtOr0 a)
  have hsorted := List.pairwise_mergeSort htrans htotal all
  have hstable : ∀ a b : Json, [a, b].Sublist all → startedAtOr0 b ≤ startedAtOr0 a →
      [a, b].Sublist (all.mergeSort fun a b => decide (startedAtOr0 b ≤ startedAtOr0 a)) :=
    fun a b hsub hle => List.pair_sublist_mergeSort htrans htotal (decide_eq_true hle) hsub
  have hperm := List.mergeSort_perm all fun a b => decide (startedAtOr0 b ≤ startedAtOr0 a)
  generalize all.mergeSort (fun a b => decide (startedAtOr0 b ≤ startedAtOr0 a)) = sorted at hsorted hstable hperm
  refine ⟨by rw [List.length_take, hperm.length_eq], sorted.drop limit, ?_⟩
  rw [List.take_append_drop]
  exact ⟨hperm, hsorted.imp fun h => of_decide_eq_true h, fun a b hsub heq => hstable a b hsub heq.ge⟩

/-- **What was appended is read back.** -/
theorem reads_back {file : File} (hfile : file = none ∨ file = some []) (ss : List Snapshot) :
    ReadsBack ss (readAll (written file ss)) ∧
      ∀ limit, Recent (readAll (written file ss)) limit (readRecent (written file ss) limit) := by
  have hempty : file.getD [] = [] := by
    obtain rfl | rfl := hfile <;> rfl
  refine ⟨?_, fun limit => recent_sort _ limit⟩
  rw [readAll_written hempty]
  exact latest_readsBack ss

theorem canonical_five : (⟨5, 0, true⟩ : Decimal).Canonical := ⟨by decide, by decide, by decide⟩

/-- Two calls, and the first of them again, with a description of several lines. -/
theorem reads_back_two :
    let first : Snapshot := ⟨.initiated "call-0001" "session" "v=0\r\n\"s\"" ⟨5, 0, true⟩ canonical_five, ⟨5, 0, true⟩, canonical_five⟩
    let other : Snapshot := ⟨.initiated "call-0002" "other" "v=0" ⟨5, 0, true⟩ canonical_five, ⟨5, 0, true⟩, canonical_five⟩
    ReadsBack [first, other, first] (readAll (written none [first, other, first])) ∧
      callIds [first, other, first] = ["call-0001", "call-0002"] :=
  ⟨(reads_back (.inl rfl) _).1, by decide⟩

end RtcPlugin.RtcCallStore
