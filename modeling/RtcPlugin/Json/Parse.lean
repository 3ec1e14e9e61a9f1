import RtcPlugin.Json.Value

/-! The JSON grammar as a parser on characters.

`Json.parse` accepts exactly one value between white space. The recursion over
nested values carries a fuel that the length of the text bounds. A lone
surrogate escape reads as the replacement character. -/
namespace RtcPlugin.Json

/-- The white space of the grammar. -/
def isSpace (c : Char) : Bool := c == ' ' || c == '\t' || c == '\n' || c == '\r'

def skipSpace (cs : List Char) : List Char := cs.dropWhile isSpace

def hexDigit? (c : Char) : Option Nat :=
  if c.isDigit then some (c.toNat - '0'.toNat)
  else if 'a' ≤ c && c ≤ 'f' then some (c.toNat - 'a'.toNat + 10)
  else if 'A' ≤ c && c ≤ 'F' then some (c.toNat - 'A'.toNat + 10)
  else none

def hex4? (a b c d : Char) : Option Nat := do
  let a ← hexDigit? a
  let b ← hexDigit? b
  let c ← hexDigit? c
  let d ← hexDigit? d
  some (((a * 16 + b) * 16 + c) * 16 + d)

def isHighSurrogate (n : Nat) : Bool := 0xD800 ≤ n && n < 0xDC00
def isLowSurrogate (n : Nat) : Bool := 0xDC00 ≤ n && n < 0xE000

def replacement : Char := Char.ofNat 0xFFFD

/-- A high surrogate still waiting for its other half reads as the replacement. -/
def flush (pending : Option Nat) (acc : List Char) : List Char :=
  if pending.isSome then replacement :: acc else acc

def simpleEscape? : Char → Option Char
  | '"' => some '"'
  | '\\' => some '\\'
  | '/' => some '/'
  | 'b' => some (Char.ofNat 8)
  | 'f' => some (Char.ofNat 12)
  | 'n' => some '\n'
  | 'r' => some '\r'
  | 't' => some '\t'
  | _ => none

/-- The rest of a string after its opening quote. `acc` is what was read, reversed,
and `pending` a high surrogate escape just before. -/
def parseString (pending : Option Nat) (acc : List Char) : List Char → Option (String × List Char)
  | [] => none
  | '"' :: rest => some (String.ofList (flush pending acc).reverse, rest)
  | '\\' :: 'u' :: a :: b :: c :: d :: rest =>
    match hex4? a b c d, pending with
    | none, _ => none
    | some n, some high =>
      if isLowSurrogate n then
        parseString none (Char.ofNat (0x10000 + (high - 0xD800) * 0x400 + (n - 0xDC00)) :: acc) rest
      else if isHighSurrogate n then parseString (some n) (replacement :: acc) rest
      else parseString none (Char.ofNat n :: replacement :: acc) rest
    | some n, none =>
      if isHighSurrogate n then parseString (some n) acc rest
      else if isLowSurrogate n then parseString none (replacement :: acc) rest
      else parseString none (Char.ofNat n :: acc) rest
  | '\\' :: e :: rest =>
    match simpleEscape? e with
    | none => none
    | some c => parseString none (c :: flush pending acc) rest
  | c :: rest =>
    if c.toNat < 0x20 then none else parseString none (c :: flush pending acc) rest

def digits (cs : List Char) : List Char × List Char := cs.span Char.isDigit

def natOf (ds : List Char) : Nat := ds.foldl (fun n d => n * 10 + (d.toNat - '0'.toNat)) 0

/-- A number's digits with the trailing zeros moved to the exponent. -/
def normalize : Nat → Nat → Int → Int × Int
  | 0, m, e => (m, e)
  | fuel + 1, m, e =>
    if m = 0 then (0, 0)
    else if m % 10 = 0 then normalize fuel (m / 10) (e + 1)
    else (m, e)

def parseExponent (cs : List Char) : Option (Int × List Char) :=
  match cs with
  | c :: rest =>
    if c == 'e' || c == 'E' then
      let (negative, rest) := match rest with
        | '-' :: rest => (true, rest)
        | '+' :: rest => (false, rest)
        | rest => (false, rest)
      match digits rest with
      | ([], _) => none
      | (ds, rest) => some (if negative then -(natOf ds : Int) else natOf ds, rest)
    else some (0, cs)
  | [] => some (0, cs)

def parseNumber (cs : List Char) : Option (Json × List Char) :=
  let (negative, cs) := match cs with
    | '-' :: rest => (true, rest)
    | rest => (false, rest)
  match digits cs with
  | ([], _) => none
  | (whole, afterWhole) =>
    -- no leading zero except the number zero itself
    if whole.head? == some '0' && whole.length > 1 then none
    else
      let fraction? := match afterWhole with
        | '.' :: rest => match digits rest with
          | ([], _) => none
          | fraction => some fraction
        | rest => some ([], rest)
      match fraction? with
      | none => none
      | some (fraction, rest) =>
        match parseExponent rest with
        | none => none
        | some (e, rest) =>
          let (mantissa, exponent) := normalize (whole.length + fraction.length) (natOf (whole ++ fraction))
            (e - fraction.length)
          let plain := !negative && rest.length == afterWhole.length
          some (.num ⟨if negative then -mantissa else mantissa, exponent, plain⟩, rest)

mutual
def parseValue : Nat → List Char → Option (Json × List Char)
  | 0, _ => none
  | fuel + 1, cs =>
    match skipSpace cs with
    | '"' :: rest => (parseString none [] rest).map fun (s, rest) => (.str s, rest)
    | '{' :: rest =>
      match skipSpace rest with
      | '}' :: rest => some (.obj [], rest)
      | rest => parseMembers fuel [] rest
    | '[' :: rest =>
      match skipSpace rest with
      | ']' :: rest => some (.arr [], rest)
      | rest => parseElems fuel [] rest
    | 't' :: 'r' :: 'u' :: 'e' :: rest => some (.bool true, rest)
    | 'f' :: 'a' :: 'l' :: 's' :: 'e' :: rest => some (.bool false, rest)
    | 'n' :: 'u' :: 'l' :: 'l' :: rest => some (.null, rest)
    | rest => parseNumber rest

def parseElems : Nat → List Json → List Char → Option (Json × List Char)
  | 0, _, _ => none
  | fuel + 1, acc, cs =>
    match parseValue fuel cs with
    | none => none
    | some (v, rest) =>
      match skipSpace rest with
      | ',' :: rest => parseElems fuel (v :: acc) rest
      | ']' :: rest => some (.arr (v :: acc).reverse, rest)
      | _ => none

def parseMembers : Nat → List (String × Json) → List Char → Option (Json × List Char)
  | 0, _, _ => none
  | fuel + 1, acc, cs =>
    match skipSpace cs with
    | '"' :: rest =>
      match parseString none [] rest with
      | none => none
      | some (name, rest) =>
        match skipSpace rest with
        | ':' :: rest =>
          match parseValue fuel rest with
          | none => none
          | some (v, rest) =>
            match skipSpace rest with
            | ',' :: rest => parseMembers fuel ((name, v) :: acc) rest
            | '}' :: rest => some (.obj ((name, v) :: acc).reverse, rest)
            | _ => none
        | _ => none
    | _ => none
end

/-- One value between white space, and nothing else. -/
def parseChars (cs : List Char) : Option Json :=
  match parseValue (2 * cs.length + 1) cs with
  | some (v, rest) => if (skipSpace rest).isEmpty then some v else none
  | none => none

def parse (text : String) : Option Json := parseChars text.toList

end RtcPlugin.Json
