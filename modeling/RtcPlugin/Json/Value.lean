import Mathlib.Algebra.GroupWithZero.Nat
import Mathlib.Algebra.Ring.Int.Defs

/-! JSON values as the parsers of both languages see them.

An object keeps its members in source order, repeated names included: which of
them a reader takes is the reader's rule, and the two languages differ in it. A
number is its decimal literal. -/
namespace RtcPlugin

/-- A decimal literal `mantissa * 10 ^ exponent`. -/
structure Decimal where
  mantissa : Int
  exponent : Int
  /-- Written with digits only. -/
  plain : Bool
  deriving DecidableEq, Repr

/-- Below half the least positive double a literal reads as zero. -/
def Decimal.readsAsZero (d : Decimal) : Bool :=
  d.mantissa == 0 ||
    (d.exponent < 0 && d.mantissa.natAbs * 2 ^ 1075 ≤ 10 ^ d.exponent.natAbs)

inductive Json where
  | null
  | bool (b : Bool)
  | num (d : Decimal)
  | str (s : String)
  | arr (elems : List Json)
  | obj (members : List (String × Json))
  deriving Repr

namespace Json

/-- Property access in the scripting language: the last member of that name, and
nothing (`undefined`) on a value that is not an object. -/
def get? : Json → String → Option Json
  | .obj members, name => members.reverse.lookup name
  | _, _ => none

/-- What `if (v)` tests. -/
def truthy : Json → Bool
  | .null => false
  | .bool b => b
  | .num d => !d.readsAsZero
  | .str s => s != ""
  | .arr _ | .obj _ => true

/-- `typeof v === "string" ? v : undefined`. -/
def asString? : Json → Option String
  | .str s => some s
  | _ => none

mutual
/-- How deeply arrays and objects nest. -/
def depth : Json → Nat
  | .arr elems => depthElems elems + 1
  | .obj members => depthMembers members + 1
  | _ => 0

def depthElems : List Json → Nat
  | [] => 0
  | v :: rest => max v.depth (depthElems rest)

def depthMembers : List (String × Json) → Nat
  | [] => 0
  | (_, v) :: rest => max v.depth (depthMembers rest)
end

end Json

/-- `v?.name` on a value that may be `undefined`. -/
def optGet? (v : Option Json) (name : String) : Option Json := v.bind (·.get? name)

/-- `if (v)` on a value that may be `undefined`. -/
def optTruthy (v : Option Json) : Bool := v.any Json.truthy

end RtcPlugin
