import RtcPlugin.Json.Parse

/-! Decoding JSON into Go structs, as `encoding/json` does it.

Bytes that are not UTF-8 read as the replacement character. A member goes to the
field whose name it matches up to case, later members over earlier ones; `null`
leaves a field as it is, and empties a pointer. A value of the wrong type is an
error of the whole decoding. -/
namespace RtcPlugin.Go

/-! ### Text -/

def isTail (b : UInt8) : Bool := 0x80 ≤ b && b ≤ 0xBF

/-- The continuation bytes a second byte may be after the first byte of a rune of three or four. -/
def secondOk (first second : UInt8) : Bool :=
  if first == 0xE0 then 0xA0 ≤ second && second ≤ 0xBF
  else if first == 0xED then 0x80 ≤ second && second ≤ 0x9F
  else if first == 0xF0 then 0x90 ≤ second && second ≤ 0xBF
  else if first == 0xF4 then 0x80 ≤ second && second ≤ 0x8F
  else isTail second

/-- `utf8.DecodeRune`: the rune and how many further bytes it takes. -/
def decodeRune (a : UInt8) (rest : List UInt8) : Char × Nat :=
  let low (b : UInt8) : Nat := b.toNat % 0x40
  if a < 0x80 then (Char.ofNat a.toNat, 0)
  else if 0xC2 ≤ a && a ≤ 0xDF then
    match rest with
    | b :: _ => if isTail b then (Char.ofNat (a.toNat % 0x20 * 0x40 + low b), 1) else (Json.replacement, 0)
    | [] => (Json.replacement, 0)
  else if 0xE0 ≤ a && a ≤ 0xEF then
    match rest with
    | b :: c :: _ =>
      if secondOk a b && isTail c then (Char.ofNat ((a.toNat % 0x10 * 0x40 + low b) * 0x40 + low c), 2)
      else (Json.replacement, 0)
    | _ => (Json.replacement, 0)
  else if 0xF0 ≤ a && a ≤ 0xF4 then
    match rest with
    | b :: c :: d :: _ =>
      if secondOk a b && isTail c && isTail d then
        (Char.ofNat (((a.toNat % 0x8 * 0x40 + low b) * 0x40 + low c) * 0x40 + low d), 3)
      else (Json.replacement, 0)
    | _ => (Json.replacement, 0)
  else (Json.replacement, 0)

/-- The runes of a text; `skip` bytes belong to the rune before. -/
def runesFrom : Nat → List UInt8 → List Char
  | _, [] => []
  | 0, a :: rest =>
    let (c, more) := decodeRune a rest
    c :: runesFrom more rest
  | skip + 1, _ :: rest => runesFrom skip rest

def runes (data : List UInt8) : List Char := runesFrom 0 data

def maxNestingDepth : Nat := 10000

/-- The value that `json.Unmarshal` finds in a text, before it looks at its target. -/
def scan (text : List Char) : Option Json :=
  (Json.parseChars text).filter fun v => v.depth ≤ maxNestingDepth

/-! ### Targets -/

/-- The least rune that folds to the same one, where that can be an ASCII one. -/
def foldRune (c : Char) : Char :=
  if 'a' ≤ c && c ≤ 'z' then Char.ofNat (c.toNat - 0x20)
  else if c.toNat = 0x17F then 'S'
  else if c.toNat = 0x212A then 'K'
  else c

def foldName (name : String) : List Char := name.toList.map foldRune

/-- A field of a struct `T`. Decoding starts from the value the field has, and fails
on a value of another type. -/
structure StructField (T : Type) where
  name : String
  decode : Json → T → Option T

variable {T : Type}

def StructField.string (name : String) (set : String → T → T) : StructField T where
  name := name
  decode := fun v t => match v with
    | .str s => some (set s t)
    | .null => some t
    | _ => none

def StructField.bool (name : String) (set : Bool → T → T) : StructField T where
  name := name
  decode := fun v t => match v with
    | .bool b => some (set b t)
    | .null => some t
    | _ => none

/-- A `*json.RawMessage`. -/
def StructField.raw (name : String) (set : Option Json → T → T) : StructField T where
  name := name
  decode := fun v t => match v with
    | .null => some (set none t)
    | v => some (set (some v) t)

/-- A field whose value nothing reads; `ok` says which values it takes. -/
def StructField.check (name : String) (ok : Json → Bool) : StructField T where
  name := name
  decode := fun v t => if ok v then some t else none

def decodeMembers (fields : List (StructField T)) : List (String × Json) → T → Option T
  | [], t => some t
  | (name, v) :: rest, t =>
    match fields.find? fun f => foldName f.name == foldName name with
    | some f => (f.decode v t).bind (decodeMembers fields rest)
    | none => decodeMembers fields rest t

/-- A struct takes an object; `null` leaves it as it is. -/
def decodeStruct (fields : List (StructField T)) (t : T) : Json → Option T
  | .obj members => decodeMembers fields members t
  | .null => some t
  | _ => none

/-- The value of a struct literal, or the error of decoding into it. -/
def unmarshal (fields : List (StructField T)) (zero : T) (text : List Char) : Option T :=
  (scan text).bind (decodeStruct fields zero)

/-- A pointer to a struct: `null` empties it, an object decodes into what it points to. -/
def StructField.pointer {S : Type} (name : String) (get : T → Option S) (set : Option S → T → T) (zero : S)
    (fields : List (StructField S)) : StructField T where
  name := name
  decode := fun v t => match v with
    | .null => some (set none t)
    | v => (decodeStruct fields ((get t).getD zero) v).map fun s => set (some s) t

/-- A number too large for a `float64`. -/
def overflows (d : Decimal) : Bool :=
  let bound := 2 ^ 1024 - 2 ^ 970
  if d.exponent < 0 then bound * 10 ^ d.exponent.natAbs ≤ d.mantissa.natAbs
  else bound ≤ d.mantissa.natAbs * 10 ^ d.exponent.natAbs

mutual
/-- What an `interface{}` takes. -/
def takesAny : Json → Bool
  | .num d => !overflows d
  | .arr elems => takesAnyElems elems
  | .obj members => takesAnyMembers members
  | _ => true

def takesAnyElems : List Json → Bool
  | [] => true
  | v :: rest => takesAny v && takesAnyElems rest

def takesAnyMembers : List (String × Json) → Bool
  | [] => true
  | (_, v) :: rest => takesAny v && takesAnyMembers rest
end

def takesString : Json → Bool
  | .str _ | .null => true
  | _ => false

def takesUint16 : Json → Bool
  | .num d => d.plain && d.mantissa.natAbs * 10 ^ d.exponent.natAbs < 0x10000
  | .null => true
  | _ => false

/-- A struct whose value nothing reads. -/
def takesStruct (fields : List (StructField Unit)) (v : Json) : Bool := (decodeStruct fields () v).isSome

/-- A slice of such structs. -/
def takesSlice (ok : Json → Bool) : Json → Bool
  | .arr elems => elems.all ok
  | .null => true
  | _ => false

end RtcPlugin.Go
