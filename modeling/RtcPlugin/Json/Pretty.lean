import RtcPlugin.Json.Stringify

/-! Writing JSON values on lines of their own, as `JSON.stringify(v, null, 2)` does it,
and reading them back.

The parser passes over white space in front of a value, a name and a bracket, so a
native value is read back from its lines as it is from its text (`parseChars_pretty`). -/
namespace RtcPlugin.Json

/-- The end of a line, and the spaces in front of the next one. -/
def indent (depth : Nat) : List Char := '\n' :: List.replicate (2 * depth) ' '

mutual
/-- The lines of a value whose last line has that depth. -/
def pretty (depth : Nat) : Json → List Char
  | .null => text .null
  | .bool b => text (.bool b)
  | .num d => text (.num d)
  | .str s => text (.str s)
  | .arr [] => ['[', ']']
  | .arr (v :: rest) => '[' :: (indent (depth + 1) ++ (pretty (depth + 1) v ++ prettyElems depth rest))
  | .obj [] => ['{', '}']
  | .obj ((name, v) :: rest) =>
    '{' :: (indent (depth + 1) ++ (quote name ++ ':' :: ' ' :: (pretty (depth + 1) v ++ prettyMembers depth rest)))

/-- The elements behind the first one, and the end of the array. -/
def prettyElems (depth : Nat) : List Json → List Char
  | [] => indent depth ++ [']']
  | v :: rest => ',' :: (indent (depth + 1) ++ (pretty (depth + 1) v ++ prettyElems depth rest))

def prettyMembers (depth : Nat) : List (String × Json) → List Char
  | [] => indent depth ++ ['}']
  | (name, v) :: rest =>
    ',' :: (indent (depth + 1) ++ (quote name ++ ':' :: ' ' :: (pretty (depth + 1) v ++ prettyMembers depth rest)))
end

/-- `JSON.stringify(v, null, 2)` -/
def stringifyIndent (v : Json) : List Char := v.normal.pretty 0

/-! ### White space -/

theorem skipSpace_append {space : List Char} (h : ∀ c ∈ space, isSpace c = true) (cs : List Char) :
    skipSpace (space ++ cs) = skipSpace cs := by
  induction space with
  | nil => rfl
  | cons c space ih =>
    rw [List.forall_mem_cons] at h
    rw [List.cons_append, skipSpace, List.dropWhile_cons_of_pos h.1]
    exact ih h.2

theorem skipSpace_indent (depth : Nat) (cs : List Char) : skipSpace (indent depth ++ cs) = skipSpace cs := by
  refine skipSpace_append (fun c hc => ?_) cs
  obtain rfl | hc := List.mem_cons.mp hc
  · rfl
  · rw [(List.mem_replicate.mp hc).2]
    rfl

theorem skipSpace_skipSpace (cs : List Char) : skipSpace (skipSpace cs) = skipSpace cs := by
  induction cs with
  | nil => rfl
  | cons c cs ih =>
    cases hc : isSpace c with
    | true =>
      rw [show skipSpace (c :: cs) = skipSpace cs by simp [skipSpace, hc]]
      exact ih
    | false => rw [skipSpace_cons hc, skipSpace_cons hc]

theorem parseValue_skipSpace (fuel : Nat) (cs : List Char) : parseValue fuel (skipSpace cs) = parseValue fuel cs := by
  cases fuel with
  | zero => rw [parseValue, parseValue]
  | succ fuel => rw [parseValue, parseValue, skipSpace_skipSpace]

theorem parseElems_skipSpace (fuel : Nat) (acc : List Json) (cs : List Char) :
    parseElems fuel acc (skipSpace cs) = parseElems fuel acc cs := by
  cases fuel with
  | zero => rw [parseElems, parseElems]
  | succ fuel => rw [parseElems, parseElems, parseValue_skipSpace]

theorem parseMembers_skipSpace (fuel : Nat) (acc : List (String × Json)) (cs : List Char) :
    parseMembers fuel acc (skipSpace cs) = parseMembers fuel acc cs := by
  cases fuel with
  | zero => rw [parseMembers, parseMembers]
  | succ fuel => rw [parseMembers, parseMembers, skipSpace_skipSpace]

section
variable {v : Json} {fuel : Nat} {cs rest after : List Char}

theorem parseElems_indent (fuel depth : Nat) (acc : List Json) (cs : List Char) :
    parseElems fuel acc (indent depth ++ cs) = parseElems fuel acc cs := by
  rw [← parseElems_skipSpace, skipSpace_indent, parseElems_skipSpace]

theorem parseMembers_indent (fuel depth : Nat) (acc : List (String × Json)) (cs : List Char) :
    parseMembers fuel acc (indent depth ++ cs) = parseMembers fuel acc cs := by
  rw [← parseMembers_skipSpace, skipSpace_indent, parseMembers_skipSpace]

theorem parseValue_blank (fuel : Nat) (cs : List Char) : parseValue fuel (' ' :: cs) = parseValue fuel cs := by
  rw [← parseValue_skipSpace, ← parseValue_skipSpace fuel cs]
  rfl

/-- An array whose first element is on the next line. -/
theorem parseValue_elems {c : Char} (h : Begins c) (fuel depth : Nat) (cs : List Char) :
    parseValue (fuel + 1) ('[' :: (indent depth ++ c :: cs)) = parseElems fuel [] (c :: cs) := by
  rw [parseValue, skipSpace_cons rfl]
  simp [skipSpace_indent, skipSpace_cons h.1, h.2.1]

theorem parseValue_members (name : String) (fuel depth : Nat) (rest : List Char) :
    parseValue (fuel + 1) ('\x7b' :: (indent depth ++ (quote name ++ rest))) = parseMembers fuel [] (quote name ++ rest) := by
  rw [parseValue, skipSpace_cons rfl]
  simp only [skipSpace_indent, quote_append, skipSpace_cons (c := '"') rfl]
  rfl

/-- The bracket may be on a line of its own. -/
theorem parseElems_close (acc : List Json) (h : parseValue fuel cs = some (v, after)) (hrest : skipSpace after = ']' :: rest) :
    parseElems (fuel + 1) acc cs = some (.arr (v :: acc).reverse, rest) := by
  rw [parseElems, h]
  simp only [hrest]

theorem parseMembers_close (acc : List (String × Json)) (name : String) (h : parseValue fuel cs = some (v, after))
    (hrest : skipSpace after = '}' :: rest) :
    parseMembers (fuel + 1) acc (quote name ++ ':' :: cs) = some (.obj ((name, v) :: acc).reverse, rest) := by
  rw [parseMembers_value, h]
  simp only [hrest]

end

/-! ### Reading back -/

theorem pretty_head : ∀ (depth : Nat) (v : Json), ∃ c cs, v.pretty depth = c :: cs ∧ Begins c
  | _, .null => text_head .null
  | _, .bool b => text_head (.bool b)
  | _, .num d => text_head (.num d)
  | _, .str s => text_head (.str s)
  | _, .arr [] => ⟨_, _, rfl, by decide⟩
  | _, .arr (_ :: _) => ⟨_, _, rfl, by decide⟩
  | _, .obj [] => ⟨_, _, rfl, by decide⟩
  | _, .obj (_ :: _) => ⟨_, _, rfl, by decide⟩

theorem pretty_pos (depth : Nat) (v : Json) : 0 < (v.pretty depth).length := by
  obtain ⟨c, cs, hpretty, _⟩ := pretty_head depth v
  rw [hpretty]
  exact Nat.zero_lt_succ _

theorem ends_indent (depth : Nat) (cs : List Char) : Ends (indent depth ++ cs) := ends_cons _ (by decide)

mutual
/-- A native value is read back from its lines, whatever ends them. -/
theorem parseValue_pretty : ∀ (v : Json) (depth fuel : Nat) (rest : List Char), v.Native → (v.pretty depth).length ≤ fuel →
    Ends rest → parseValue fuel (v.pretty depth ++ rest) = some (v, rest)
  | v, depth, 0, rest, _, hfuel, _ => absurd hfuel (Nat.not_le.mpr (pretty_pos depth v))
  | .null, _, fuel + 1, rest, h, hfuel, hrest => parseValue_text .null (fuel + 1) rest h hfuel hrest
  | .bool b, _, fuel + 1, rest, h, hfuel, hrest => parseValue_text (.bool b) (fuel + 1) rest h hfuel hrest
  | .num d, _, fuel + 1, rest, h, hfuel, hrest => parseValue_text (.num d) (fuel + 1) rest h hfuel hrest
  | .str s, _, fuel + 1, rest, h, hfuel, hrest => parseValue_text (.str s) (fuel + 1) rest h hfuel hrest
  | .arr [], _, fuel + 1, rest, _, _, _ => rfl
  | .arr (v :: elems), depth, fuel + 1, rest, h, hfuel, _ => by
    obtain ⟨c, cs, hpretty, hc⟩ := pretty_head (depth + 1) v
    rw [pretty, List.length_cons, List.length_append, List.length_append] at hfuel
    have helems := parseElems_pretty elems v depth fuel [] rest h.1 h.2 (by omega)
    rw [pretty, List.cons_append, List.append_assoc, List.append_assoc]
    rw [hpretty, List.cons_append] at helems ⊢
    rw [parseValue_elems hc, helems]
    rfl
  | .obj [], _, fuel + 1, rest, _, _, _ => rfl
  | .obj ((name, v) :: members), depth, fuel + 1, rest, h, hfuel, _ => by
    rw [pretty, List.length_cons, List.length_append, List.length_append, List.length_cons, List.length_cons,
      List.length_append] at hfuel
    have hmembers := parseMembers_pretty members name v depth fuel [] rest h.2.2.1 h.2.2.2 (by omega)
    rw [pretty, List.cons_append, List.append_assoc, List.append_assoc, List.cons_append, List.cons_append,
      List.append_assoc, parseValue_members, hmembers]
    rfl

theorem parseElems_pretty : ∀ (elems : List Json) (v : Json) (depth fuel : Nat) (acc : List Json) (rest : List Char),
    v.Native → NativeElems elems → (v.pretty (depth + 1)).length + (prettyElems depth elems).length ≤ fuel →
    parseElems fuel acc (v.pretty (depth + 1) ++ (prettyElems depth elems ++ rest)) =
      some (.arr (acc.reverse ++ v :: elems), rest)
  | elems, v, depth, 0, acc, rest, _, _, hfuel => by
    have := pretty_pos (depth + 1) v
    omega
  | [], v, depth, fuel + 1, acc, rest, hv, _, hfuel => by
    rw [prettyElems, List.length_append, List.length_singleton] at hfuel
    rw [prettyElems, List.append_assoc, List.singleton_append]
    have hvalue := parseValue_pretty v (depth + 1) fuel _ hv (by omega) (ends_indent depth (']' :: rest))
    rw [parseElems_close acc hvalue ((skipSpace_indent ..).trans (skipSpace_cons rfl _)), List.reverse_cons]
  | w :: elems, v, depth, fuel + 1, acc, rest, hv, helems, hfuel => by
    have hpos := pretty_pos (depth + 1) v
    rw [prettyElems, List.length_cons, List.length_append, List.length_append] at hfuel
    have hrest := parseElems_pretty elems w depth fuel (v :: acc) rest helems.1 helems.2 (by omega)
    rw [prettyElems, List.cons_append, List.append_assoc, List.append_assoc]
    have hvalue := parseValue_pretty v (depth + 1) fuel
      (',' :: (indent (depth + 1) ++ (pretty (depth + 1) w ++ (prettyElems depth elems ++ rest)))) hv (by omega)
      (ends_cons _ (by decide))
    rw [parseElems_more acc hvalue, parseElems_indent, hrest, List.reverse_cons, List.append_assoc]
    rfl

theorem parseMembers_pretty : ∀ (members : List (String × Json)) (name : String) (v : Json) (depth fuel : Nat)
    (acc : List (String × Json)) (rest : List Char), v.Native → NativeMembers members →
    (v.pretty (depth + 1)).length + (prettyMembers depth members).length ≤ fuel →
    parseMembers fuel acc (quote name ++ ':' :: ' ' :: (v.pretty (depth + 1) ++ (prettyMembers depth members ++ rest))) =
      some (.obj (acc.reverse ++ (name, v) :: members), rest)
  | members, name, v, depth, 0, acc, rest, _, _, hfuel => by
    have := pretty_pos (depth + 1) v
    omega
  | [], name, v, depth, fuel + 1, acc, rest, hv, _, hfuel => by
    rw [prettyMembers, List.length_append, List.length_singleton] at hfuel
    rw [prettyMembers, List.append_assoc, List.singleton_append]
    have hvalue := parseValue_pretty v (depth + 1) fuel _ hv (by omega) (ends_indent depth ('}' :: rest))
    rw [parseMembers_close acc name ((parseValue_blank ..).trans hvalue)
      ((skipSpace_indent ..).trans (skipSpace_cons rfl _)), List.reverse_cons]
  | (name', w) :: members, name, v, depth, fuel + 1, acc, rest, hv, hmembers, hfuel => by
    have hpos := pretty_pos (depth + 1) v
    rw [prettyMembers, List.length_cons, List.length_append, List.length_append, List.length_cons, List.length_cons,
      List.length_append] at hfuel
    have hrest := parseMembers_pretty members name' w depth fuel ((name, v) :: acc) rest hmembers.1 hmembers.2 (by omega)
    rw [prettyMembers, List.cons_append, List.append_assoc, List.append_assoc, List.cons_append, List.cons_append,
      List.append_assoc]
    have hvalue := parseValue_pretty v (depth + 1) fuel (',' :: (indent (depth + 1) ++ (quote name' ++
      ':' :: ' ' :: (pretty (depth + 1) w ++ (prettyMembers depth members ++ rest))))) hv (by omega)
      (ends_cons _ (by decide))
    rw [parseMembers_more acc name ((parseValue_blank ..).trans hvalue), parseMembers_indent, hrest, List.reverse_cons,
      List.append_assoc]
    rfl
end

/-- **A native value is read back from its lines**, with white space behind them. -/
theorem parseChars_pretty {v : Json} (h : v.Native) (depth : Nat) (space : List Char) (hspace : ∀ c ∈ space, isSpace c = true) :
    parseChars (v.pretty depth ++ space) = some v := by
  have hends : Ends space := by
    intro c hc
    have hc := hspace c (List.mem_of_mem_head? hc)
    simp only [isSpace, Bool.or_eq_true, beq_iff_eq] at hc
    obtain ((rfl | rfl) | rfl) | rfl := hc <;> decide
  rw [parseChars, parseValue_pretty v depth _ space h (by rw [List.length_append]; omega) hends]
  have hnil : skipSpace space = [] := by
    rw [← List.append_nil space, skipSpace_append hspace]
    rfl
  simp only [hnil, List.isEmpty_nil, if_true]

theorem prettyMembers_ends (depth : Nat) (members : List (String × Json)) :
    ∃ front, prettyMembers depth members = front ++ ['\x7d'] := by
  induction members with
  | nil => exact ⟨indent depth, rfl⟩
  | cons m members ih =>
    obtain ⟨name, v⟩ := m
    obtain ⟨front, hfront⟩ := ih
    exact ⟨',' :: (indent (depth + 1) ++ (quote name ++ ':' :: ' ' :: (v.pretty (depth + 1) ++ front))),
      by simp [prettyMembers, hfront]⟩

/-- The lines of an object end with its bracket. -/
theorem pretty_ends (depth : Nat) (m : String × Json) (members : List (String × Json)) :
    ∃ front, (obj (m :: members)).pretty depth = front ++ ['\x7d'] := by
  obtain ⟨name, v⟩ := m
  obtain ⟨front, hfront⟩ := prettyMembers_ends depth members
  exact ⟨'\x7b' :: (indent (depth + 1) ++ (quote name ++ ':' :: ' ' :: (v.pretty (depth + 1) ++ front))),
    by simp [pretty, hfront]⟩

end RtcPlugin.Json
