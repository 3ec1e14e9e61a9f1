import Mathlib.Data.List.Sort
import Mathlib.Tactic.IntervalCases
import RtcPlugin.Json.Numbers

/-! Writing JSON values, as `JSON.stringify` does it, and reading them back.

An object of the scripting language has no name twice, and its array indices come
first; `Native` says that a value lists its objects so. A native value is read back
from its text (`parseChars_text`). -/
namespace RtcPlugin.Json

/-! ### Strings -/

def escape (c : Char) : List Char :=
  if c = '"' then ['\\', '"']
  else if c = '\\' then ['\\', '\\']
  else if c.toNat = 8 then ['\\', 'b']
  else if c.toNat = 12 then ['\\', 'f']
  else if c = '\n' then ['\\', 'n']
  else if c = '\r' then ['\\', 'r']
  else if c = '\t' then ['\\', 't']
  else if c.toNat < 0x20 then ['\\', 'u', '0', '0', Nat.digitChar (c.toNat / 16), Nat.digitChar (c.toNat % 16)]
  else [c]

def quote (s : String) : List Char := '"' :: (s.toList.flatMap escape ++ ['"'])

/-! ### Objects -/

/-- The array index that a name is. -/
def arrayIndex? (name : String) : Option Nat :=
  let ds := name.toList
  if ds = Nat.toDigits 10 (natOf ds) ∧ natOf ds < 2 ^ 32 - 1 then some (natOf ds) else none

/-- `object[name] = v` -/
def setMember (members : List (String × Json)) (name : String) (v : Json) : List (String × Json) :=
  if members.any (·.1 == name) then members.map fun m => if m.1 == name then (name, v) else m
  else members ++ [(name, v)]

/-- The members with array indices, the least first, and then the others. -/
def indicesFirst (members : List (String × Json)) : List (String × Json) :=
  (members.filter fun m => (arrayIndex? m.1).isSome).insertionSort
      (fun a b => (arrayIndex? a.1).getD 0 ≤ (arrayIndex? b.1).getD 0) ++
    members.filter fun m => (arrayIndex? m.1).isNone

/-- The properties of the object that is read from such members. -/
def properties (members : List (String × Json)) : List (String × Json) :=
  indicesFirst (members.foldl (fun object m => setMember object m.1 m.2) [])

mutual
/-- The value as it is held when it was read. -/
def normal : Json → Json
  | .arr elems => .arr (normalElems elems)
  | .obj members => .obj (properties (normalMembers members))
  | v => v

def normalElems : List Json → List Json
  | [] => []
  | v :: rest => v.normal :: normalElems rest

def normalMembers : List (String × Json) → List (String × Json)
  | [] => []
  | (name, v) :: rest => (name, v.normal) :: normalMembers rest
end

/-! ### Values -/

mutual
def text : Json → List Char
  | .null => ['n', 'u', 'l', 'l']
  | .bool true => ['t', 'r', 'u', 'e']
  | .bool false => ['f', 'a', 'l', 's', 'e']
  | .num d => d.text
  | .str s => quote s
  | .arr [] => ['[', ']']
  | .arr (v :: rest) => '[' :: (v.text ++ textElems rest)
  | .obj [] => ['{', '}']
  | .obj ((name, v) :: rest) => '{' :: (quote name ++ ':' :: (v.text ++ textMembers rest))

/-- The elements behind the first one, and the end of the array. -/
def textElems : List Json → List Char
  | [] => [']']
  | v :: rest => ',' :: (v.text ++ textElems rest)

def textMembers : List (String × Json) → List Char
  | [] => ['}']
  | (name, v) :: rest => ',' :: (quote name ++ ':' :: (v.text ++ textMembers rest))
end

/-- `JSON.stringify(v)` -/
def stringify (v : Json) : List Char := v.normal.text

mutual
/-- As the scripting language holds values. -/
def Native : Json → Prop
  | .num d => d.Canonical
  | .arr elems => NativeElems elems
  | .obj members => (members.map Prod.fst).Nodup ∧ indicesFirst members = members ∧ NativeMembers members
  | _ => True

def NativeElems : List Json → Prop
  | [] => True
  | v :: rest => v.Native ∧ NativeElems rest

def NativeMembers : List (String × Json) → Prop
  | [] => True
  | (_, v) :: rest => v.Native ∧ NativeMembers rest
end

/-! ### Native values are as they are -/

theorem nativeMembers_of_forall {members : List (String × Json)} (h : ∀ m ∈ members, m.2.Native) :
    NativeMembers members := by
  induction members with
  | nil => trivial
  | cons m members ih =>
    have ⟨hm, hmembers⟩ := List.forall_mem_cons.mp h
    exact ⟨hm, ih hmembers⟩

theorem indicesFirst_eq {members : List (String × Json)} (h : ∀ m ∈ members, arrayIndex? m.1 = none) :
    indicesFirst members = members := by
  have hnone : members.filter (fun m => (arrayIndex? m.1).isSome) = [] :=
    List.filter_eq_nil_iff.mpr fun m hm => by simp [h m hm]
  have hall : members.filter (fun m => (arrayIndex? m.1).isNone) = members :=
    List.filter_eq_self.mpr fun m hm => by simp [h m hm]
  rw [indicesFirst, hnone, hall]
  rfl

/-- An object with other names than array indices, and none twice. -/
theorem native_obj {members : List (String × Json)} (names : List String) (heq : members.map Prod.fst = names)
    (hnames : names.Nodup ∧ ∀ name ∈ names, arrayIndex? name = none) (hvalues : NativeMembers members) :
    (obj members).Native :=
  ⟨heq ▸ hnames.1, indicesFirst_eq fun m hm => hnames.2 m.1 (heq ▸ List.mem_map_of_mem hm), hvalues⟩

theorem foldl_setMember (object members : List (String × Json)) (h : ((object ++ members).map Prod.fst).Nodup) :
    members.foldl (fun object m => setMember object m.1 m.2) object = object ++ members := by
  induction members generalizing object with
  | nil => rw [List.foldl_nil, List.append_nil]
  | cons m rest ih =>
    have hnew : object.any (·.1 == m.1) = false := by
      rw [List.any_eq_false]
      intro x hx
      rw [List.map_append, List.map_cons] at h
      have := (List.disjoint_of_nodup_append h) (List.mem_map_of_mem hx)
      simpa using fun heq => this (List.mem_cons.mpr (.inl heq))
    rw [List.foldl_cons, setMember, hnew, if_neg (by decide), ih _ (by rwa [List.append_assoc]), List.append_assoc]
    rfl

theorem properties_eq {members : List (String × Json)} (h : (members.map Prod.fst).Nodup)
    (hfirst : indicesFirst members = members) : properties members = members := by
  rw [properties, foldl_setMember [] members h, List.nil_append, hfirst]

mutual
theorem normal_eq : ∀ v : Json, v.Native → v.normal = v
  | .null, _ => rfl
  | .bool _, _ => rfl
  | .num _, _ => rfl
  | .str _, _ => rfl
  | .arr elems, h => congrArg Json.arr (normalElems_eq elems h)
  | .obj members, ⟨hnodup, hfirst, h⟩ => by
    rw [normal, normalMembers_eq members h, properties_eq hnodup hfirst]

theorem normalElems_eq : ∀ elems : List Json, NativeElems elems → normalElems elems = elems
  | [], _ => rfl
  | v :: rest, h => by rw [normalElems, normal_eq v h.1, normalElems_eq rest h.2]

theorem normalMembers_eq : ∀ members : List (String × Json), NativeMembers members → normalMembers members = members
  | [], _ => rfl
  | (name, v) :: rest, h => by rw [normalMembers, normal_eq v h.1, normalMembers_eq rest h.2]
end

/-! ### Reading back -/

/-- A control character is read from its escape. -/
theorem parseString_control : ∀ n < 0x20, ∀ acc rest,
    parseString none acc (escape (Char.ofNat n) ++ rest) = parseString none (Char.ofNat n :: acc) rest := by
  intro n hn acc rest
  interval_cases n <;> rfl

theorem escape_plain {c : Char} (hcontrol : ¬ c.toNat < 0x20) (hquote : c ≠ '"') (hslash : c ≠ '\\') :
    escape c = [c] := by
  have h8 : c.toNat ≠ 8 := by omega
  have h12 : c.toNat ≠ 12 := by omega
  have hn : c ≠ '\n' := fun h => hcontrol (by rw [h]; decide)
  have hr : c ≠ '\r' := fun h => hcontrol (by rw [h]; decide)
  have ht : c ≠ '\t' := fun h => hcontrol (by rw [h]; decide)
  simp only [escape, hquote, hslash, h8, h12, hn, hr, ht, hcontrol, if_false]

theorem parseString_escape (c : Char) (acc rest : List Char) :
    parseString none acc (escape c ++ rest) = parseString none (c :: acc) rest := by
  by_cases hcontrol : c.toNat < 0x20
  · have := parseString_control c.toNat hcontrol acc rest
    rwa [Char.ofNat_toNat] at this
  · by_cases hquote : c = '"'
    · subst hquote
      rfl
    · by_cases hslash : c = '\\'
      · subst hslash
        rfl
      · rw [escape_plain hcontrol hquote hslash, List.singleton_append, parseString]
        · rw [if_neg hcontrol]
          rfl
        · exact hquote
        all_goals
          intros
          exact hslash (by assumption)

/-- The rest of a quoted text. -/
theorem parseString_quote (cs acc rest : List Char) :
    parseString none acc (cs.flatMap escape ++ '"' :: rest) = some (String.ofList (acc.reverse ++ cs), rest) := by
  induction cs generalizing acc with
  | nil =>
    rw [List.append_nil]
    rfl
  | cons c cs ih =>
    rw [List.flatMap_cons, List.append_assoc, parseString_escape, ih, List.reverse_cons, List.append_assoc]
    rfl

theorem parseString_text (s : String) (rest : List Char) :
    parseString none [] (s.toList.flatMap escape ++ '"' :: rest) = some (s, rest) := by
  rw [parseString_quote, List.reverse_nil, List.nil_append, String.ofList_toList]

/-- A character that a value's text may begin with. -/
def Begins (c : Char) : Prop := isSpace c = false ∧ c ≠ ']' ∧ c ≠ '}'

instance (c : Char) : Decidable (Begins c) := inferInstanceAs (Decidable (_ ∧ _))

theorem skipSpace_cons {c : Char} (h : isSpace c = false) (cs : List Char) : skipSpace (c :: cs) = c :: cs := by
  simp [skipSpace, h]

theorem layout_head {ds : List Char} (h : AllDigits ds) (hne : ds ≠ []) (n : Int) :
    ∃ c cs, layout ds n = c :: cs ∧ c.isDigit = true := by
  obtain ⟨c, ds, rfl⟩ := List.exists_cons_of_ne_nil hne
  have hc := h c (List.mem_cons_self ..)
  unfold layout
  split
  · exact ⟨c, _, rfl, hc⟩
  · split
    · next hn =>
      obtain ⟨k, hk⟩ : ∃ k, n.toNat = k + 1 := ⟨n.toNat - 1, by omega⟩
      rw [hk]
      exact ⟨c, _, rfl, hc⟩
    · split
      · exact ⟨'0', _, rfl, rfl⟩
      · exact ⟨c, _, rfl, hc⟩

theorem decimal_head (d : Decimal) : ∃ c cs, d.text = c :: cs ∧ (c = '-' ∨ c.isDigit = true) := by
  obtain ⟨c, cs, hlayout, hc⟩ := layout_head (allDigits_toDigits d.mantissa.natAbs) Nat.toDigits_ne_nil
    ((Nat.toDigits 10 d.mantissa.natAbs).length + d.exponent)
  unfold Decimal.text
  dsimp only
  rw [hlayout]
  split
  · exact ⟨'-', _, rfl, .inl rfl⟩
  · exact ⟨c, cs, rfl, .inr hc⟩

theorem number_ne {c x : Char} (h : c = '-' ∨ c.isDigit = true) (hx : x ≠ '-' ∧ x.isDigit = false) : c ≠ x := by
  intro heq
  subst heq
  obtain hc | hc := h
  · exact hx.1 hc
  · rw [hx.2] at hc
    cases hc

theorem begins_number {c : Char} (h : c = '-' ∨ c.isDigit = true) : Begins c := by
  have hne := @number_ne c
  refine ⟨?_, hne h (by decide), hne h (by decide)⟩
  simp [isSpace, hne h (x := ' ') (by decide), hne h (x := '\t') (by decide), hne h (x := '\n') (by decide),
    hne h (x := '\r') (by decide)]

theorem text_head : ∀ v : Json, ∃ c cs, v.text = c :: cs ∧ Begins c
  | .null => ⟨_, _, rfl, by decide⟩
  | .bool true => ⟨_, _, rfl, by decide⟩
  | .bool false => ⟨_, _, rfl, by decide⟩
  | .num d => by
    obtain ⟨c, cs, htext, hc⟩ := decimal_head d
    exact ⟨c, cs, htext, begins_number hc⟩
  | .str s => ⟨_, _, rfl, by decide⟩
  | .arr [] => ⟨_, _, rfl, by decide⟩
  | .arr (_ :: _) => ⟨_, _, rfl, by decide⟩
  | .obj [] => ⟨_, _, rfl, by decide⟩
  | .obj (_ :: _) => ⟨_, _, rfl, by decide⟩

theorem parseValue_number {c : Char} (h : c = '-' ∨ c.isDigit = true) (fuel : Nat) (cs : List Char) :
    parseValue (fuel + 1) (c :: cs) = parseNumber (c :: cs) := by
  have hne := @number_ne c
  have h₁ := hne h (x := '"') (by decide)
  have h₂ := hne h (x := '\x7b') (by decide)
  have h₃ := hne h (x := '[') (by decide)
  have h₄ := hne h (x := 't') (by decide)
  have h₅ := hne h (x := 'f') (by decide)
  have h₆ := hne h (x := 'n') (by decide)
  rw [parseValue, skipSpace_cons (begins_number h).1]
  simp [h₁, h₂, h₃, h₄, h₅, h₆]

theorem quote_append (s : String) (rest : List Char) :
    quote s ++ rest = '"' :: (s.toList.flatMap escape ++ '"' :: rest) := by
  rw [quote, List.cons_append, List.append_assoc]
  rfl

theorem parseValue_string (s : String) (fuel : Nat) (rest : List Char) :
    parseValue (fuel + 1) (quote s ++ rest) = some (.str s, rest) := by
  rw [quote_append]
  show (parseString none [] _).map _ = _
  rw [parseString_text]
  rfl

theorem parseValue_array {c : Char} (h : Begins c) (fuel : Nat) (cs : List Char) :
    parseValue (fuel + 1) ('[' :: c :: cs) = parseElems fuel [] (c :: cs) := by
  rw [parseValue, skipSpace_cons rfl]
  simp [skipSpace_cons h.1, h.2.1]

theorem parseValue_object (name : String) (fuel : Nat) (rest : List Char) :
    parseValue (fuel + 1) ('\x7b' :: (quote name ++ rest)) = parseMembers fuel [] (quote name ++ rest) := by
  rw [quote_append]
  rfl

section
variable {v : Json} {fuel : Nat} {cs rest : List Char}

theorem parseElems_more (acc : List Json) (h : parseValue fuel cs = some (v, ',' :: rest)) :
    parseElems (fuel + 1) acc cs = parseElems fuel (v :: acc) rest := by
  rw [parseElems, h]
  rfl

theorem parseElems_last (acc : List Json) (h : parseValue fuel cs = some (v, ']' :: rest)) :
    parseElems (fuel + 1) acc cs = some (.arr (v :: acc).reverse, rest) := by
  rw [parseElems, h]
  rfl

theorem parseMembers_value (acc : List (String × Json)) (name : String) :
    parseMembers (fuel + 1) acc (quote name ++ ':' :: cs) =
      match parseValue fuel cs with
      | none => none
      | some (v, rest) =>
        match skipSpace rest with
        | ',' :: rest => parseMembers fuel ((name, v) :: acc) rest
        | '}' :: rest => some (.obj ((name, v) :: acc).reverse, rest)
        | _ => none := by
  rw [quote_append, parseMembers, skipSpace_cons rfl]
  simp only [parseString_text]
  rfl

theorem parseMembers_more (acc : List (String × Json)) (name : String) (h : parseValue fuel cs = some (v, ',' :: rest)) :
    parseMembers (fuel + 1) acc (quote name ++ ':' :: cs) = parseMembers fuel ((name, v) :: acc) rest := by
  rw [parseMembers_value, h]
  rfl

theorem parseMembers_last (acc : List (String × Json)) (name : String) (h : parseValue fuel cs = some (v, '}' :: rest)) :
    parseMembers (fuel + 1) acc (quote name ++ ':' :: cs) = some (.obj ((name, v) :: acc).reverse, rest) := by
  rw [parseMembers_value, h]
  rfl

end

theorem ends_cons {c : Char} (rest : List Char) (h : c.isDigit = false ∧ c ≠ '.' ∧ c ≠ 'e' ∧ c ≠ 'E') :
    Ends (c :: rest) := by
  intro x hx
  cases hx
  exact h

theorem text_pos (v : Json) : 0 < v.text.length := by
  obtain ⟨c, cs, htext, _⟩ := text_head v
  rw [htext]
  exact Nat.zero_lt_succ _

mutual
/-- A native value is read back, whatever ends it. -/
theorem parseValue_text : ∀ (v : Json) (fuel : Nat) (rest : List Char), v.Native → v.text.length ≤ fuel → Ends rest →
    parseValue fuel (v.text ++ rest) = some (v, rest)
  | v, 0, rest, _, hfuel, _ => absurd hfuel (Nat.not_le.mpr (text_pos v))
  | .null, fuel + 1, rest, _, _, _ => rfl
  | .bool true, fuel + 1, rest, _, _, _ => rfl
  | .bool false, fuel + 1, rest, _, _, _ => rfl
  | .num d, fuel + 1, rest, hd, _, hrest => by
    obtain ⟨c, cs, htext, hc⟩ := decimal_head d
    rw [text, htext, List.cons_append, parseValue_number hc, ← List.cons_append, ← htext, parseNumber_text hd hrest]
  | .str s, fuel + 1, rest, _, _, _ => parseValue_string s fuel rest
  | .arr [], fuel + 1, rest, _, _, _ => rfl
  | .arr (v :: elems), fuel + 1, rest, h, hfuel, _ => by
    obtain ⟨c, cs, htext, hc⟩ := text_head v
    rw [text, List.length_cons, List.length_append] at hfuel
    have helems := parseElems_text elems v fuel [] rest h.1 h.2 (by omega)
    rw [text, List.cons_append, List.append_assoc]
    rw [htext, List.cons_append] at helems ⊢
    rw [parseValue_array hc, helems]
    rfl
  | .obj [], fuel + 1, rest, _, _, _ => rfl
  | .obj ((name, v) :: members), fuel + 1, rest, h, hfuel, _ => by
    rw [text, List.length_cons, List.length_append, List.length_cons, List.length_append] at hfuel
    have hmembers := parseMembers_text members name v fuel [] rest h.2.2.1 h.2.2.2 (by omega)
    rw [text, List.cons_append, List.append_assoc, List.cons_append, List.append_assoc, parseValue_object, hmembers]
    rfl

theorem parseElems_text : ∀ (elems : List Json) (v : Json) (fuel : Nat) (acc : List Json) (rest : List Char),
    v.Native → NativeElems elems → v.text.length + (textElems elems).length ≤ fuel →
    parseElems fuel acc (v.text ++ (textElems elems ++ rest)) = some (.arr (acc.reverse ++ v :: elems), rest)
  | elems, v, 0, acc, rest, _, _, hfuel => by
    have := text_pos v
    omega
  | [], v, fuel + 1, acc, rest, hv, _, hfuel => by
    rw [textElems, List.length_singleton] at hfuel
    have hvalue := parseValue_text v fuel (']' :: rest) hv (by omega) (ends_cons rest (by decide))
    rw [textElems, List.singleton_append, parseElems_last acc hvalue, List.reverse_cons]
  | w :: elems, v, fuel + 1, acc, rest, hv, helems, hfuel => by
    have hpos := text_pos v
    rw [textElems, List.length_cons, List.length_append] at hfuel
    have hvalue := parseValue_text v fuel (',' :: (w.text ++ (textElems elems ++ rest))) hv (by omega)
      (ends_cons _ (by decide))
    have hrest := parseElems_text elems w fuel (v :: acc) rest helems.1 helems.2 (by omega)
    rw [textElems, List.cons_append, List.append_assoc, parseElems_more acc hvalue, hrest, List.reverse_cons,
      List.append_assoc]
    rfl

theorem parseMembers_text : ∀ (members : List (String × Json)) (name : String) (v : Json) (fuel : Nat)
    (acc : List (String × Json)) (rest : List Char), v.Native → NativeMembers members →
    v.text.length + (textMembers members).length ≤ fuel →
    parseMembers fuel acc (quote name ++ ':' :: (v.text ++ (textMembers members ++ rest))) =
      some (.obj (acc.reverse ++ (name, v) :: members), rest)
  | members, name, v, 0, acc, rest, _, _, hfuel => by
    have := text_pos v
    omega
  | [], name, v, fuel + 1, acc, rest, hv, _, hfuel => by
    rw [textMembers, List.length_singleton] at hfuel
    have hvalue := parseValue_text v fuel ('}' :: rest) hv (by omega) (ends_cons rest (by decide))
    rw [textMembers, List.singleton_append, parseMembers_last acc name hvalue, List.reverse_cons]
  | (name', w) :: members, name, v, fuel + 1, acc, rest, hv, hmembers, hfuel => by
    have hpos := text_pos v
    rw [textMembers, List.length_cons, List.length_append, List.length_cons, List.length_append] at hfuel
    have hvalue := parseValue_text v fuel (',' :: (quote name' ++ ':' :: (w.text ++ (textMembers members ++ rest)))) hv
      (by omega) (ends_cons _ (by decide))
    have hrest := parseMembers_text members name' w fuel ((name, v) :: acc) rest hmembers.1 hmembers.2 (by omega)
    rw [textMembers, List.cons_append, List.append_assoc, List.cons_append, List.append_assoc,
      parseMembers_more acc name hvalue, hrest, List.reverse_cons, List.append_assoc]
    rfl
end

/-- **A native value is read back from its text.** -/
theorem parseChars_text {v : Json} (h : v.Native) : parseChars v.text = some v := by
  have hread := parseValue_text v (2 * v.text.length + 1) [] h (by omega) (fun _ hc => nomatch hc)
  rw [List.append_nil] at hread
  rw [parseChars, hread]
  rfl

theorem parseChars_stringify {v : Json} (h : v.Native) : parseChars v.stringify = some v := by
  rw [stringify, normal_eq v h, parseChars_text h]

theorem textMembers_ends (members : List (String × Json)) : ∃ front, textMembers members = front ++ ['\x7d'] := by
  induction members with
  | nil => exact ⟨[], rfl⟩
  | cons m members ih =>
    obtain ⟨name, v⟩ := m
    obtain ⟨front, hfront⟩ := ih
    exact ⟨',' :: (quote name ++ ':' :: (v.text ++ front)), by simp [textMembers, hfront]⟩

/-! ### No control characters -/

def Printable (cs : List Char) : Prop := ∀ c ∈ cs, 0x20 ≤ c.toNat

theorem Printable.append {a b : List Char} (ha : Printable a) (hb : Printable b) : Printable (a ++ b) :=
  List.forall_mem_append.mpr ⟨ha, hb⟩

theorem Printable.cons {c : Char} {cs : List Char} (hc : 0x20 ≤ c.toNat) (hcs : Printable cs) : Printable (c :: cs) :=
  List.forall_mem_cons.mpr ⟨hc, hcs⟩

theorem printable_digits {ds : List Char} (h : AllDigits ds) : Printable ds := by
  intro c hc
  have := h c hc
  simp only [Char.isDigit, Bool.and_eq_true, decide_eq_true_eq] at this
  have hle : (48 : UInt32).toNat ≤ c.val.toNat := this.1
  exact Nat.le_trans (by decide) hle

theorem printable_zeros (n : Nat) : Printable (List.replicate n '0') := by
  intro c hc
  rw [(List.mem_replicate.mp hc).2]
  decide

theorem printable_layout {ds : List Char} (h : Printable ds) (n : Int) : Printable (layout ds n) := by
  have htake : ∀ k, Printable (ds.take k) := fun k c hc => h c (List.mem_of_mem_take hc)
  have hdrop : ∀ k, Printable (ds.drop k) := fun k c hc => h c (List.mem_of_mem_drop hc)
  unfold layout
  split
  · exact h.append (printable_zeros _)
  · split
    · exact (htake _).append (.cons (by decide) (hdrop _))
    · split
      · exact .cons (by decide) (.cons (by decide) ((printable_zeros _).append h))
      · have hexp := printable_digits (allDigits_toDigits (n - 1).natAbs)
        refine ((htake 1).append ?_).append (.cons (by decide) (.cons ?_ hexp))
        · split
          · exact List.forall_mem_nil _
          · exact .cons (by decide) (hdrop 1)
        · split <;> decide

theorem printable_decimal (d : Decimal) : Printable d.text := by
  refine Printable.append ?_ (printable_layout (printable_digits (allDigits_toDigits _)) _)
  split
  · exact .cons (by decide) (List.forall_mem_nil _)
  · exact List.forall_mem_nil _

theorem printable_control (n : Nat) (h : n < 0x20) : Printable (escape (Char.ofNat n)) := by
  have hall : (escape (Char.ofNat n)).all (fun c => decide (0x20 ≤ c.toNat)) = true := by
    interval_cases n <;> rfl
  exact fun c hc => of_decide_eq_true (List.all_eq_true.mp hall c hc)

theorem printable_escape (c : Char) : Printable (escape c) := by
  by_cases hcontrol : c.toNat < 0x20
  · have := printable_control c.toNat hcontrol
    rwa [Char.ofNat_toNat] at this
  · by_cases hquote : c = '"'
    · subst hquote
      simp [Printable, escape]
    · by_cases hslash : c = '\\'
      · subst hslash
        simp [Printable, escape]
      · rw [escape_plain hcontrol hquote hslash]
        exact List.forall_mem_singleton.mpr (Nat.le_of_not_lt hcontrol)

theorem printable_quote (s : String) : Printable (quote s) := by
  refine .cons (by decide) (Printable.append (fun c hc => ?_) (.cons (by decide) (List.forall_mem_nil _)))
  obtain ⟨x, -, hx⟩ := List.mem_flatMap.mp hc
  exact printable_escape x c hx

mutual
/-- A text holds no control character, and so no line end. -/
theorem printable_text : ∀ v : Json, Printable v.text
  | .null => by simp [Printable, text]
  | .bool true => by simp [Printable, text]
  | .bool false => by simp [Printable, text]
  | .num d => printable_decimal d
  | .str s => printable_quote s
  | .arr [] => by simp [Printable, text]
  | .arr (v :: elems) => .cons (by decide) ((printable_text v).append (printable_elems elems))
  | .obj [] => by simp [Printable, text]
  | .obj ((name, v) :: members) =>
    .cons (by decide) ((printable_quote name).append (.cons (by decide) ((printable_text v).append (printable_members members))))

theorem printable_elems : ∀ elems : List Json, Printable (textElems elems)
  | [] => by simp [Printable, textElems]
  | v :: elems => .cons (by decide) ((printable_text v).append (printable_elems elems))

theorem printable_members : ∀ members : List (String × Json), Printable (textMembers members)
  | [] => by simp [Printable, textMembers]
  | (name, v) :: members =>
    .cons (by decide) ((printable_quote name).append (.cons (by decide) ((printable_text v).append (printable_members members))))
end

end RtcPlugin.Json
