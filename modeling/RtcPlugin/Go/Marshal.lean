import Mathlib.Data.List.Forall2
import RtcPlugin.Go.Unmarshal
import RtcPlugin.Json.Stringify
import RtcPlugin.Text.Base64
import RtcPlugin.Text.Utf8

/-! Structs of texts and integers, written as indented JSON and read back.

An integer field takes a literal only if it is written as an integer, which the
value of the literal does not tell; so the literals are looked up in the text.
What `marshalIndent` writes, `unmarshalInts` reads as the members that were written
(`read_marshalIndent`). -/
namespace RtcPlugin.Go

open Json (skipSpace parseString parseValue parseMembers parseNumber natOf)

/-! ### Integer fields -/

/-- `strconv.ParseInt(s, 10, 64)` on a literal. -/
def parseInt : List Char → Option Int
  | '-' :: ds => if ds.all Char.isDigit && natOf ds ≤ 2 ^ 63 then some (-natOf ds) else none
  | ds => if ds.all Char.isDigit && natOf ds < 2 ^ 63 then some (natOf ds) else none

/-- The texts of the members' values, from inside an object. -/
def memberTexts : Nat → List Char → List (List Char)
  | 0, _ => []
  | fuel + 1, cs =>
    match skipSpace cs with
    | '"' :: rest =>
      match parseString none [] rest with
      | none => []
      | some (_, rest) =>
        match skipSpace rest with
        | ':' :: rest =>
          let value := skipSpace rest
          match parseValue (2 * value.length + 1) value with
          | none => []
          | some (_, after) =>
            value.take (value.length - after.length) :: match skipSpace after with
              | ',' :: rest => memberTexts fuel rest
              | _ => []
        | _ => []
    | _ => []

/-- A number with the integer that it is written as, if it is. -/
def withLiteral (literal : List Char) : Json → Json
  | .num d => .num (match parseInt literal with
    | some n => ⟨n, 0, true⟩
    | none => {d with plain := false})
  | v => v

/-- The members of an object with the integers that are written there. -/
def withLiterals (text : List Char) : Json → Json
  | .obj members =>
    let literals := match skipSpace text with
      | _ :: rest => memberTexts rest.length rest
      | [] => []
    .obj (List.zipWith (fun m literal => (m.1, withLiteral literal m.2)) members literals)
  | v => v

/-- The value in a text, before its target is looked at. -/
def scanInts (text : List Char) : Option Json := (scan text).map (withLiterals text)

/-- An `int` or `int64`. -/
def StructField.int {T : Type} (name : String) (set : Int → T → T) : StructField T where
  name := name
  decode := fun v t => match v with
    | .num d => if d.plain then some (set d.mantissa t) else none
    | .null => some t
    | _ => none

/-- `json.Unmarshal` into a struct that has integer fields. -/
def unmarshalInts {T : Type} (fields : List (StructField T)) (zero : T) (text : List Char) : Option T :=
  (scanInts text).bind (decodeStruct fields zero)

/-! ### Writing -/

def escape (c : Char) : List Char :=
  if c = '"' ∨ c = '\\' then ['\\', c]
  else if c = '\n' then ['\\', 'n']
  else if c = '\r' then ['\\', 'r']
  else if c = '\t' then ['\\', 't']
  else if c.toNat = 0x8 then ['\\', 'b']
  else if c.toNat = 0xC then ['\\', 'f']
  else if c.toNat < 0x20 ∨ c = '<' ∨ c = '>' ∨ c = '&' then
    ['\\', 'u', '0', '0', Nat.digitChar (c.toNat / 16), Nat.digitChar (c.toNat % 16)]
  else if c.toNat = 0x2028 ∨ c.toNat = 0x2029 then ['\\', 'u', '2', '0', '2', Nat.digitChar (c.toNat % 16)]
  else [c]

def quote (s : String) : List Char := '"' :: (s.toList.flatMap escape ++ ['"'])

/-- The value of a field. -/
inductive Scalar where
  | str (s : String)
  | int (n : Int)

def Scalar.text : Scalar → List Char
  | .str s => quote s
  | .int n => Json.minus (n < 0) ++ Nat.toDigits 10 n.natAbs

/-- The value that is read. -/
def Scalar.json : Scalar → Json
  | .str s => .str s
  | .int n => .num ⟨n, 0, true⟩

/-- One member on a line of its own. -/
def line (m : String × Scalar) : List Char :=
  '\n' :: ' ' :: ' ' :: (quote m.1 ++ ':' :: ' ' :: m.2.text)

def lines : List (String × Scalar) → List Char
  | [] => ['\x7d']
  | [m] => line m ++ ['\n', '\x7d']
  | m :: rest => line m ++ ',' :: lines rest

/-- `json.MarshalIndent(v, "", "  ")` -/
def marshalIndent (members : List (String × Scalar)) : List Char := '\x7b' :: lines members

/-! ### Reading what was written -/

open Base64Url (Plain)

/-- Where the characters of the alphabet are. -/
theorem plain_range {c : Char} (h : Plain c) :
    0x2D ≤ c.toNat ∧ c.toNat < 0x7B ∧ c.toNat ≠ 0x3C ∧ c.toNat ≠ 0x3E ∧ c.toNat ≠ 0x5C := by
  obtain h | rfl | rfl := h
  · change (decide ('A'.val ≤ c.val ∧ c.val ≤ 'Z'.val) || (decide ('a'.val ≤ c.val) && decide (c.val ≤ 'z'.val)) ||
      (decide ('0'.val ≤ c.val) && decide (c.val ≤ '9'.val))) = true at h
    simp only [Bool.or_eq_true, Bool.and_eq_true, decide_eq_true_eq, UInt32.le_iff_toNat_le] at h
    have hval : c.toNat = c.val.toNat := rfl
    have h0 : '0'.val.toNat = 48 := rfl
    have h9 : '9'.val.toNat = 57 := rfl
    have hA : 'A'.val.toNat = 65 := rfl
    have hZ : 'Z'.val.toNat = 90 := rfl
    have ha : 'a'.val.toNat = 97 := rfl
    have hz : 'z'.val.toNat = 122 := rfl
    omega
  · decide
  · decide

/-- A text that is written as it is. -/
def PlainText (s : String) : Prop := ∀ c ∈ s.toList, Plain c

instance (s : String) : Decidable (PlainText s) := List.decidableBAll Plain s.toList

theorem plain_ne {c x : Char} (h : Plain c) (hx : ¬ Plain x) : c ≠ x := fun he => hx (he ▸ h)

theorem escape_plain {c : Char} (h : Plain c) : escape c = [c] := by
  have hr := plain_range h
  have hne (x : Char) (hx : ¬ Plain x) : c ≠ x := plain_ne h hx
  unfold escape
  simp only [hne '"' (by decide), hne '\\' (by decide), hne '\n' (by decide), hne '\r' (by decide),
    hne '\t' (by decide), hne '<' (by decide), hne '>' (by decide), hne '&' (by decide), or_self, if_false, or_false]
  rw [if_neg (by omega), if_neg (by omega), if_neg (by omega), if_neg (by omega)]

theorem quote_plain {s : String} (h : PlainText s) : quote s = Json.quote s := by
  have hgo : s.toList.flatMap escape = s.toList := by
    rw [List.flatMap_congr fun c hc => escape_plain (h c hc)]
    exact List.flatMap_singleton' _
  have hjson : s.toList.flatMap Json.escape = s.toList := by
    rw [List.flatMap_congr fun c hc => Json.escape_plain (by have := plain_range (h c hc); omega)
      (plain_ne (h c hc) (by decide)) (plain_ne (h c hc) (by decide))]
    exact List.flatMap_singleton' _
  rw [quote, Json.quote, hgo, hjson]

/-- A value that is read back. -/
def Scalar.Writable : Scalar → Prop
  | .str s => PlainText s
  | .int n => -2 ^ 63 ≤ n ∧ n < 2 ^ 63

theorem toDigits_zero {n : Nat} (h : (Nat.toDigits 10 n).head? = some '0') : (Nat.toDigits 10 n).length = 1 := by
  cases n with
  | zero => rfl
  | succ n => exact absurd h (Json.head_toDigits (Nat.succ_pos n))

theorem toDigits_cons (n : Nat) : ∃ c cs, Nat.toDigits 10 n = c :: cs ∧ c.isDigit = true := by
  obtain ⟨c, cs, hcs⟩ := List.exists_cons_of_ne_nil (@Nat.toDigits_ne_nil n 10)
  refine ⟨c, cs, hcs, Json.allDigits_toDigits n c ?_⟩
  rw [hcs]
  exact List.mem_cons_self

theorem parseInt_text {n : Int} (h : Scalar.Writable (.int n)) : parseInt (Scalar.text (.int n)) = some n := by
  obtain ⟨hlow, hhigh⟩ := h
  have hall : (Nat.toDigits 10 n.natAbs).all Char.isDigit = true :=
    List.all_eq_true.mpr (Json.allDigits_toDigits n.natAbs)
  have hvalue := Json.natOf_toDigits n.natAbs
  by_cases hn : n < 0
  · have hbound : n.natAbs ≤ 2 ^ 63 := by omega
    have habs : -(n.natAbs : Int) = n := by omega
    have htext : Scalar.text (.int n) = '-' :: Nat.toDigits 10 n.natAbs := by simp [Scalar.text, Json.minus, hn]
    rw [htext, parseInt, hall, hvalue, Bool.true_and, decide_eq_true hbound, if_pos rfl, habs]
  · have hbound : n.natAbs < 2 ^ 63 := by omega
    have habs : (n.natAbs : Int) = n := by omega
    obtain ⟨c, cs, hcs, hc⟩ := toDigits_cons n.natAbs
    have hne : c ≠ '-' := fun he => by rw [he] at hc; cases hc
    have htext : Scalar.text (.int n) = c :: cs := by simp [Scalar.text, Json.minus, hn, hcs]
    rw [hcs] at hall hvalue
    rw [htext, parseInt]
    · rw [hall, hvalue, Bool.true_and, decide_eq_true hbound, if_pos rfl, habs]
    · intro ds hds
      cases hds
      exact hne rfl

theorem parseNumber_int (n : Int) {tail : List Char} (htail : Json.Ends tail) :
    ∃ d, parseNumber (Scalar.text (.int n) ++ tail) = some (.num d, tail) := by
  have hparts := Json.parseNumber_parts (decide (n < 0)) (Json.allDigits_toDigits n.natAbs) Nat.toDigits_ne_nil
    toDigits_zero (List.forall_mem_nil _) (fun c hc => ⟨(htail c hc).1, (htail c hc).2.1⟩) (Json.parseExponent_ends htail)
  rw [Scalar.text, List.append_assoc]
  exact ⟨_, hparts⟩

theorem text_head (v : Scalar) : ∃ c cs, v.text = c :: cs ∧ Json.isSpace c = false := by
  cases v with
  | str s => exact ⟨'"', _, rfl, rfl⟩
  | int n =>
    obtain ⟨c, cs, hcs, hc⟩ := toDigits_cons n.natAbs
    by_cases hn : n < 0
    · exact ⟨'-', Nat.toDigits 10 n.natAbs, by simp [Scalar.text, Json.minus, hn], rfl⟩
    · exact ⟨c, cs, by simp [Scalar.text, Json.minus, hn, hcs], (Json.begins_number (.inr hc)).1⟩

/-- A value is read, and with its text it is what was written. -/
theorem parseValue_scalar {v : Scalar} (h : v.Writable) (fuel : Nat) {tail : List Char} (htail : Json.Ends tail) :
    ∃ j, parseValue (fuel + 1) (v.text ++ tail) = some (j, tail) ∧ j.depth = 0 ∧ withLiteral v.text j = v.json := by
  cases v with
  | str s =>
    refine ⟨.str s, ?_, by rw [Json.depth] <;> exact nofun, rfl⟩
    rw [Scalar.text, quote_plain h]
    exact Json.parseValue_string s fuel tail
  | int n =>
    obtain ⟨d, hd⟩ := parseNumber_int n htail
    refine ⟨.num d, ?_, by rw [Json.depth] <;> exact nofun, by rw [withLiteral, parseInt_text h]; rfl⟩
    obtain ⟨c, cs, hcs, hc⟩ := toDigits_cons n.natAbs
    have hhead : ∃ c cs, Scalar.text (.int n) = c :: cs ∧ (c = '-' ∨ c.isDigit = true) := by
      by_cases hn : n < 0
      · exact ⟨'-', Nat.toDigits 10 n.natAbs, by simp [Scalar.text, Json.minus, hn], .inl rfl⟩
      · exact ⟨c, cs, by simp [Scalar.text, Json.minus, hn, hcs], .inr hc⟩
    obtain ⟨c, cs, htext, hc⟩ := hhead
    rw [htext] at hd ⊢
    exact (Json.parseValue_number hc fuel (cs ++ tail)).trans hd

theorem skipSpace_space {c : Char} (h : Json.isSpace c = true) (cs : List Char) : skipSpace (c :: cs) = skipSpace cs := by
  simp [skipSpace, h]

theorem parseMembers_space {c : Char} (h : Json.isSpace c = true) (fuel : Nat) (acc : List (String × Json))
    (cs : List Char) : parseMembers fuel acc (c :: cs) = parseMembers fuel acc cs := by
  cases fuel with
  | zero => rw [parseMembers, parseMembers]
  | succ fuel => rw [parseMembers, parseMembers, skipSpace_space h]

theorem parseValue_space {c : Char} (h : Json.isSpace c = true) (fuel : Nat) (cs : List Char) :
    parseValue fuel (c :: cs) = parseValue fuel cs := by
  cases fuel with
  | zero => rw [parseValue, parseValue]
  | succ fuel => rw [parseValue, parseValue, skipSpace_space h]

/-- A line with what comes after it. -/
theorem line_append (m : String × Scalar) (tail : List Char) :
    line m ++ tail = '\n' :: ' ' :: ' ' :: (quote m.1 ++ ':' :: ' ' :: (m.2.text ++ tail)) := by
  simp [line]

/-- What is read is what was written. -/
def ReadsAs (m : String × Scalar) (v : String × Json) : Prop :=
  v.1 = m.1 ∧ v.2.depth = 0 ∧ withLiteral m.2.text v.2 = m.2.json

section
variable {m : String × Scalar} {tail : List Char}

/-- The value of a member is read up to what comes after its line. -/
theorem parseValue_line (h : m.2.Writable) (fuel : Nat) (htail : Json.Ends tail) :
    ∃ j, ReadsAs m (m.1, j) ∧ parseValue (fuel + 1) (' ' :: (m.2.text ++ tail)) = some (j, tail) := by
  obtain ⟨j, hj, hdepth, hlit⟩ := parseValue_scalar h fuel htail
  exact ⟨j, ⟨rfl, hdepth, hlit⟩, (parseValue_space rfl _ _).trans hj⟩

theorem parseMembers_line (hname : PlainText m.1) (fuel : Nat) (acc : List (String × Json)) (tail : List Char) :
    parseMembers fuel acc (line m ++ tail) =
      parseMembers fuel acc (Json.quote m.1 ++ ':' :: ' ' :: (m.2.text ++ tail)) := by
  rw [line_append, parseMembers_space rfl, parseMembers_space rfl, parseMembers_space rfl, quote_plain hname]

theorem memberTexts_line (hname : PlainText m.1) (h : m.2.Writable) (fuel : Nat) (htail : Json.Ends tail) :
    memberTexts (fuel + 1) (line m ++ tail) = m.2.text :: match skipSpace tail with
      | ',' :: rest => memberTexts fuel rest
      | _ => [] := by
  obtain ⟨c, cs, hcs, hc⟩ := text_head m.2
  have hskip : skipSpace (m.2.text ++ tail) = m.2.text ++ tail := by
    rw [hcs, List.cons_append, Json.skipSpace_cons hc]
  obtain ⟨j, hj, _⟩ := parseValue_scalar h (2 * (m.2.text ++ tail).length) htail
  have htake : (m.2.text ++ tail).take ((m.2.text ++ tail).length - tail.length) = m.2.text := by
    rw [List.length_append, Nat.add_sub_cancel, List.take_left]
  rw [line_append, quote_plain hname, Json.quote_append, memberTexts, skipSpace_space rfl, skipSpace_space rfl,
    skipSpace_space rfl, Json.skipSpace_cons rfl]
  simp only [Json.parseString_text, Json.skipSpace_cons (show Json.isSpace ':' = false from rfl),
    skipSpace_space (show Json.isSpace ' ' = true from rfl), hskip, hj, htake]

end

theorem ends_space (rest : List Char) : Json.Ends ('\n' :: rest) := Json.ends_cons rest (by decide)

theorem ends_comma (rest : List Char) : Json.Ends (',' :: rest) := Json.ends_cons rest (by decide)

theorem lines_cons (m m' : String × Scalar) (rest : List (String × Scalar)) :
    lines (m :: m' :: rest) = line m ++ ',' :: lines (m' :: rest) := rfl

/-- Every line is read, and its value's text found. -/
theorem read_lines {members : List (String × Scalar)} (hne : members ≠ [])
    (h : ∀ m ∈ members, PlainText m.1 ∧ m.2.Writable) {fuel : Nat} (hfuel : members.length ≤ fuel)
    (acc : List (String × Json)) : ∃ values, List.Forall₂ ReadsAs members values ∧
      parseMembers (fuel + 1) acc (lines members) = some (.obj (acc.reverse ++ values), []) ∧
      memberTexts fuel (lines members) = members.map fun m => m.2.text := by
  induction members generalizing fuel acc with
  | nil => exact absurd rfl hne
  | cons m rest ih =>
    rw [List.forall_mem_cons] at h
    obtain ⟨fuel, rfl⟩ : ∃ n, fuel = n + 1 := ⟨fuel - 1, by rw [List.length_cons] at hfuel; omega⟩
    cases rest with
    | nil =>
      obtain ⟨j, hv, hj⟩ := parseValue_line h.1.2 fuel (ends_space ['\x7d'])
      refine ⟨[(m.1, j)], .cons hv .nil, ?_, ?_⟩
      · rw [lines, parseMembers_line h.1.1, Json.parseMembers_value, hj]
        simp [skipSpace, Json.isSpace]
      · rw [lines, memberTexts_line h.1.1 h.1.2 fuel (ends_space ['\x7d'])]
        simp [skipSpace, Json.isSpace]
    | cons m' rest =>
      obtain ⟨j, hv, hj⟩ := parseValue_line h.1.2 fuel (ends_comma (lines (m' :: rest)))
      obtain ⟨values, hvalues, hrest, htexts⟩ := @ih (List.cons_ne_nil _ _) h.2 fuel
        (by simpa using hfuel) ((m.1, j) :: acc)
      refine ⟨(m.1, j) :: values, .cons hv hvalues, ?_, ?_⟩
      · rw [lines_cons, parseMembers_line h.1.1, Json.parseMembers_more _ _ hj, hrest]
        simp
      · rw [lines_cons, memberTexts_line h.1.1 h.1.2 fuel (ends_comma _)]
        simp only [Json.skipSpace_cons (show Json.isSpace ',' = false from rfl), htexts]
        rfl

theorem length_lines (members : List (String × Scalar)) : members.length ≤ (lines members).length := by
  fun_induction lines members with
  | case1 => exact Nat.zero_le _
  | case2 m => simp
  | case3 m rest _ ih =>
    rw [List.length_append, List.length_cons, List.length_cons]
    omega

theorem skipSpace_lines {members : List (String × Scalar)} (hne : members ≠ []) :
    ∃ rest, skipSpace (lines members) = '"' :: rest := by
  have hline (m : String × Scalar) (tail : List Char) : ∃ rest, skipSpace (line m ++ tail) = '"' :: rest := by
    rw [line_append, skipSpace_space rfl, skipSpace_space rfl, skipSpace_space rfl]
    exact ⟨_, rfl⟩
  match members with
  | [] => exact absurd rfl hne
  | [m] => exact hline m _
  | m :: m' :: rest => exact hline m _

theorem depthMembers_zero {members : List (String × Scalar)} {values : List (String × Json)}
    (h : List.Forall₂ ReadsAs members values) : Json.depthMembers values = 0 := by
  induction h with
  | nil => rw [Json.depthMembers]
  | cons hv _ ih => rw [Json.depthMembers, hv.2.1, ih, Nat.max_self]

theorem zipWith_literals {members : List (String × Scalar)} {values : List (String × Json)}
    (h : List.Forall₂ ReadsAs members values) :
    List.zipWith (fun v literal => (v.1, withLiteral literal v.2)) values (members.map fun m => m.2.text) =
      members.map fun m => (m.1, m.2.json) := by
  induction h with
  | nil => rfl
  | cons hv _ ih => rw [List.map_cons, List.zipWith_cons_cons, ih, List.map_cons, hv.1, hv.2.2]

/-- **What is written is read back.** -/
theorem read_marshalIndent {members : List (String × Scalar)} (hne : members ≠ [])
    (h : ∀ m ∈ members, PlainText m.1 ∧ m.2.Writable) :
    scanInts (marshalIndent members) = some (.obj (members.map fun m => (m.1, m.2.json))) := by
  have hlen := length_lines members
  obtain ⟨first, hfirst⟩ := skipSpace_lines hne
  obtain ⟨values, hvalues, hparse, -⟩ := @read_lines members hne h (2 * (lines members).length + 1) (by omega) []
  obtain ⟨-, -, -, htexts⟩ := read_lines hne h hlen []
  have hfuel : 2 * (marshalIndent members).length = 2 * (lines members).length + 1 + 1 := by
    simp [marshalIndent]
    omega
  have hinside : parseMembers (2 * (marshalIndent members).length) [] ('"' :: first) = some (.obj values, []) := by
    rw [hfuel, ← show _ = some (Json.obj values, []) from hparse, parseMembers, parseMembers, hfirst,
      Json.skipSpace_cons rfl]
  have hvalue : parseValue (2 * (marshalIndent members).length + 1) (marshalIndent members) =
      some (.obj values, []) := by
    rw [← hinside]
    generalize 2 * (marshalIndent members).length = fuel
    rw [marshalIndent, parseValue, Json.skipSpace_cons rfl]
    simp only [hfirst]
    rfl
  have hscan : scan (marshalIndent members) = some (.obj values) := by
    have hdepth : (Json.obj values).depth ≤ maxNestingDepth := by
      rw [Json.depth, depthMembers_zero hvalues]
      decide
    rw [scan, Json.parseChars, hvalue]
    simp [skipSpace, Option.filter, hdepth]
  have hopen : skipSpace (marshalIndent members) = '\x7b' :: lines members := Json.skipSpace_cons rfl _
  rw [scanInts, hscan, Option.map_some]
  simp only [withLiterals, hopen, htexts, zipWith_literals hvalues]

/-! ### As bytes -/

def Ascii (cs : List Char) : Prop := ∀ c ∈ cs, c.toNat < 0x80

instance (cs : List Char) : Decidable (Ascii cs) := List.decidableBAll (fun c : Char => c.toNat < 0x80) cs

theorem Ascii.append {a b : List Char} (ha : Ascii a) (hb : Ascii b) : Ascii (a ++ b) := fun c hc =>
  (List.mem_append.mp hc).elim (ha c) (hb c)

theorem encode_ascii {c : Char} (h : c.toNat < 0x80) : String.utf8EncodeChar c = [UInt8.ofNat c.toNat] := by
  have hle : c.val.toNat ≤ 127 := Nat.le_of_lt_succ h
  unfold String.utf8EncodeChar
  dsimp only
  rw [if_pos hle]
  rfl

theorem runes_encode {cs : List Char} (h : Ascii cs) : runes (Utf8.encode cs) = cs := by
  unfold runes
  induction cs with
  | nil => rfl
  | cons c cs ih =>
    obtain ⟨hc, hcs⟩ := List.forall_mem_cons.mp h
    have hbyte : (UInt8.ofNat c.toNat).toNat = c.toNat := by
      rw [UInt8.toNat_ofNat', Nat.mod_eq_of_lt (by omega)]
    have hlow : UInt8.ofNat c.toNat < 0x80 := by
      rw [UInt8.lt_iff_toNat_lt, hbyte]
      exact hc
    rw [Utf8.encode, List.flatMap_cons, encode_ascii hc, List.singleton_append, runesFrom]
    simp only [decodeRune, if_pos hlow, hbyte, Char.ofNat_toNat]
    exact congrArg (c :: ·) (ih hcs)

theorem ascii_quote {s : String} (h : PlainText s) : Ascii (quote s) := by
  intro c hc
  have hplain : s.toList.flatMap escape = s.toList := by
    rw [List.flatMap_congr fun c hc => escape_plain (h c hc)]
    exact List.flatMap_singleton' _
  rw [quote, hplain, List.mem_cons, List.mem_append, List.mem_singleton] at hc
  obtain rfl | hc | rfl := hc
  · decide
  · have := plain_range (h c hc)
    omega
  · decide

theorem ascii_scalar {v : Scalar} (h : v.Writable) : Ascii v.text := by
  cases v with
  | str s => exact ascii_quote h
  | int n =>
    refine Ascii.append ?_ fun c hc => ?_
    · unfold Json.minus
      split <;> decide
    · have hdigit := Json.allDigits_toDigits n.natAbs c hc
      have := plain_range (.inl (by simp [Char.isAlphanum, hdigit]) : Plain c)
      omega

theorem ascii_lines {members : List (String × Scalar)} (h : ∀ m ∈ members, PlainText m.1 ∧ m.2.Writable) :
    Ascii (lines members) := by
  have hline {m : String × Scalar} (hm : PlainText m.1 ∧ m.2.Writable) : Ascii (line m) :=
    Ascii.append (a := ['\n', ' ', ' ']) (by decide)
      ((ascii_quote hm.1).append (Ascii.append (a := [':', ' ']) (by decide) (ascii_scalar hm.2)))
  fun_induction lines members with
  | case1 => decide
  | case2 m => exact (hline (h m List.mem_cons_self)).append (by decide)
  | case3 m rest _ ih =>
    rw [List.forall_mem_cons] at h
    exact (hline h.1).append (Ascii.append (a := [',']) (by decide) (ih h.2))

/-- The bytes that are written are read as the members. -/
theorem read_bytes {members : List (String × Scalar)} (hne : members ≠ [])
    (h : ∀ m ∈ members, PlainText m.1 ∧ m.2.Writable) :
    scanInts (runes (Utf8.encode (marshalIndent members))) =
      some (.obj (members.map fun m => (m.1, m.2.json))) := by
  have hascii : Ascii (marshalIndent members) := Ascii.append (a := ['\x7b']) (by decide) (ascii_lines h)
  rw [runes_encode hascii, read_marshalIndent hne h]

end RtcPlugin.Go
