import Mathlib.Data.List.Forall2
import RtcPlugin.Json.Value

/-! Two ways to say which JSON values are wanted.

A `JsonSchema` is data, read by any validator of the standard. A `Schema` is what
the calls of a validation library build, and `Zod` is that library: `parse` with
what its documentation says of every construct. A value that a JSON schema accepts
need not be one that a schema parses, nor come out of it unchanged. -/
namespace RtcPlugin

/-- The integer that a literal stands for. -/
def Decimal.int? (d : Decimal) : Option Int :=
  if 0 ≤ d.exponent then some (d.mantissa * 10 ^ d.exponent.toNat)
  else if (10 : Int) ^ d.exponent.natAbs ∣ d.mantissa then some (d.mantissa / 10 ^ d.exponent.natAbs)
  else none

/-- `Number.MAX_SAFE_INTEGER` -/
def maxSafeInteger : Nat := 2 ^ 53 - 1

/-! ### JSON Schema -/

inductive JsonSchema where
  | boolean
  | string
  | integer (minimum : Int)
  | array (items : JsonSchema)
  | oneOf (schemas : List JsonSchema)
  | object (properties : List (String × JsonSchema)) (additionalProperties : Bool)

namespace JsonSchema

mutual
def accepts : JsonSchema → Json → Bool
  | .boolean, .bool _ => true
  | .string, .str _ => true
  | .integer minimum, .num d => d.int?.any (minimum ≤ ·)
  | .array items, .arr elems => elems.all (accepts items)
  | .oneOf schemas, v => acceptedBy schemas v == 1
  | .object properties additionalProperties, .obj members =>
    acceptsProperties properties (.obj members) &&
      (additionalProperties || members.all fun m => properties.any (·.1 == m.1))
  | _, _ => false

/-- How many of the schemas accept the value. -/
def acceptedBy : List JsonSchema → Json → Nat
  | [], _ => 0
  | s :: rest, v => (if accepts s v then 1 else 0) + acceptedBy rest v

/-- The properties that the value has are accepted. -/
def acceptsProperties : List (String × JsonSchema) → Json → Bool
  | [], _ => true
  | (name, s) :: rest, v => (v.get? name).all (accepts s) && acceptsProperties rest v
end

theorem accepts_array {items : JsonSchema} {v : Json} (h : accepts (.array items) v = true) :
    ∃ elems, v = .arr elems ∧ ∀ e ∈ elems, accepts items e = true := by
  cases v with
  | arr elems => exact ⟨elems, rfl, List.all_eq_true.mp (by simpa [accepts] using h)⟩
  | _ => simp [accepts] at h

theorem accepts_string {v : Json} (h : accepts .string v = true) : ∃ s, v = .str s := by
  cases v with
  | str s => exact ⟨s, rfl⟩
  | _ => simp [accepts] at h

theorem accepts_boolean {v : Json} (h : accepts .boolean v = true) : ∃ b, v = .bool b := by
  cases v with
  | bool b => exact ⟨b, rfl⟩
  | _ => simp [accepts] at h

theorem accepts_integer {minimum : Int} {v : Json} (h : accepts (.integer minimum) v = true) :
    ∃ d n, v = .num d ∧ d.int? = some n ∧ minimum ≤ n := by
  cases v with
  | num d =>
    rw [accepts] at h
    cases hn : d.int? with
    | none =>
      rw [hn] at h
      cases h
    | some n =>
      rw [hn] at h
      exact ⟨d, n, rfl, hn, by simpa using h⟩
  | _ => simp [accepts] at h

theorem acceptsProperties_iff {properties : List (String × JsonSchema)} {v : Json} :
    acceptsProperties properties v = true ↔
      ∀ p ∈ properties, ∀ u, v.get? p.1 = some u → accepts p.2 u = true := by
  induction properties with
  | nil => simp [acceptsProperties]
  | cons p rest ih =>
    rw [acceptsProperties, Bool.and_eq_true, ih, List.forall_mem_cons]
    cases v.get? p.1 <;> simp

theorem accepts_object {properties : List (String × JsonSchema)} {extra : Bool} {v : Json}
    (h : accepts (.object properties extra) v = true) :
    ∃ members, v = .obj members ∧ ∀ p ∈ properties, ∀ u, v.get? p.1 = some u → accepts p.2 u = true := by
  cases v with
  | obj members =>
    rw [accepts, Bool.and_eq_true] at h
    exact ⟨members, rfl, acceptsProperties_iff.mp h.1⟩
  | _ => simp [accepts] at h

end JsonSchema

/-! ### The validation library -/

inductive Schema where
  | boolean
  | string
  /-- `z.number().int().min(minimum)` -/
  | int (minimum : Int)
  | array (items : Schema)
  | union (options : List Schema)
  | object (shape : List (String × Schema))
  | optional (inner : Schema)
  | default (inner : Schema) (value : Json)

/-- The library. `parse` gets a value or `undefined`; it throws, or returns a value or
`undefined`. -/
structure Zod where
  parse : Schema → Option Json → Option (Option Json)
  boolean : ∀ v, parse .boolean v = match v with
    | some (.bool b) => some (some (.bool b))
    | _ => none
  string : ∀ v, parse .string v = match v with
    | some (.str s) => some (some (.str s))
    | _ => none
  /-- Integers are taken up to the safe ones. -/
  int : ∀ minimum d n, d.int? = some n → parse (.int minimum) (some (.num d)) =
    if minimum ≤ n ∧ n.natAbs ≤ maxSafeInteger then some (some (.num d)) else none
  array_ok : ∀ items elems results, List.Forall₂ (fun v r => parse items (some v) = some (some r)) elems results →
    parse (.array items) (some (.arr elems)) = some (some (.arr results))
  array_bad : ∀ items elems v, v ∈ elems → parse items (some v) = none →
    parse (.array items) (some (.arr elems)) = none
  array_only : ∀ items v, (∀ elems, v ≠ some (.arr elems)) → parse (.array items) v = none
  /-- The first option that takes the value. -/
  union : ∀ options v, parse (.union options) v = options.findSome? fun s => parse s v
  /-- An object comes out with the members of the shape and no other. -/
  object_ok : ∀ shape members (result : String → Option Json),
    (∀ f ∈ shape, parse f.2 ((Json.obj members).get? f.1) = some (result f.1)) →
    ∃ out, parse (.object shape) (some (.obj members)) = some (some (.obj out)) ∧
      ∀ name, (Json.obj out).get? name = if name ∈ shape.map Prod.fst then result name else none
  object_bad : ∀ shape members f, f ∈ shape → parse f.2 ((Json.obj members).get? f.1) = none →
    parse (.object shape) (some (.obj members)) = none
  optional : ∀ inner v, parse (.optional inner) v = match v with
    | none => some none
    | some v => parse inner (some v)
  default : ∀ inner value v, parse (.default inner value) v = match v with
    | none => some (some value)
    | some v => parse inner (some v)

namespace Zod

/-! ### A library that is as documented -/

mutual
def documented : Schema → Option Json → Option (Option Json)
  | .boolean, some (.bool b) => some (some (.bool b))
  | .string, some (.str s) => some (some (.str s))
  | .int minimum, some (.num d) =>
    if d.int?.any fun n => minimum ≤ n ∧ n.natAbs ≤ maxSafeInteger then some (some (.num d)) else none
  | .array items, some (.arr elems) => (elems.mapM fun v => (documented items (some v)).join).map (some ∘ .arr)
  | .union options, v => documentedUnion options v
  | .object shape, some (.obj members) => (documentedShape shape (.obj members)).map (some ∘ .obj)
  | .optional _, none => some none
  | .optional inner, some v => documented inner (some v)
  | .default _ value, none => some (some value)
  | .default inner _, some v => documented inner (some v)
  | _, _ => none

def documentedUnion : List Schema → Option Json → Option (Option Json)
  | [], _ => none
  | s :: rest, v => (documented s v).or (documentedUnion rest v)

def documentedShape : List (String × Schema) → Json → Option (List (String × Json))
  | [], _ => some []
  | (name, s) :: rest, v =>
    (documented s (v.get? name)).bind fun r =>
      (documentedShape rest v).map fun out => (r.map fun r => (name, r)).toList ++ out
end

theorem documentedUnion_eq (options : List Schema) (v : Option Json) :
    documentedUnion options v = options.findSome? fun s => documented s v := by
  induction options with
  | nil => simp [documentedUnion]
  | cons s rest ih =>
    rw [documentedUnion, ih, List.findSome?_cons]
    cases documented s v <;> rfl

theorem documented_array {items : Schema} {elems results : List Json}
    (h : List.Forall₂ (fun v r => documented items (some v) = some (some r)) elems results) :
    (elems.mapM fun v => (documented items (some v)).join) = some results := by
  induction h with
  | nil => rfl
  | cons hv _ ih => simp [List.mapM_cons, hv, ih]

theorem documented_array_none {items : Schema} {elems : List Json} {v : Json} (hv : v ∈ elems)
    (h : documented items (some v) = none) : (elems.mapM fun v => (documented items (some v)).join) = none := by
  induction elems with
  | nil => cases hv
  | cons e rest ih =>
    rw [List.mapM_cons]
    rcases List.mem_cons.mp hv with rfl | hv
    · rw [h]
      rfl
    · rw [ih hv]
      cases (documented items (some e)).join <;> rfl

theorem documented_shape {v : Json} (result : String → Option Json) {shape : List (String × Schema)}
    (h : ∀ f ∈ shape, documented f.2 (v.get? f.1) = some (result f.1)) :
    ∃ out, documentedShape shape v = some out ∧
      ∀ name, (Json.obj out).get? name = if name ∈ shape.map Prod.fst then result name else none := by
  induction shape with
  | nil => exact ⟨[], by simp [documentedShape], fun name => by simp [Json.get?]⟩
  | cons f rest ih =>
    obtain ⟨name₀, s⟩ := f
    rw [List.forall_mem_cons] at h
    obtain ⟨out, hout, hget⟩ := ih h.2
    refine ⟨((result name₀).map fun r => (name₀, r)).toList ++ out, by simp [documentedShape, h.1, hout],
      fun name => ?_⟩
    have hrest := hget name
    simp only [Json.get?, List.reverse_append, List.lookup_append, List.map_cons, List.mem_cons] at hrest ⊢
    rw [hrest]
    by_cases hname : name = name₀
    · subst hname
      cases result name with
      | none => simp
      | some r => by_cases hm : name ∈ rest.map Prod.fst <;> simp [hm]
    · have hbeq : (name == name₀) = false := beq_eq_false_iff_ne.mpr hname
      cases hr : result name₀ <;> by_cases hm : name ∈ rest.map Prod.fst <;> simp [hm, hname, List.lookup_cons, hbeq]

theorem documented_shape_none {v : Json} {shape : List (String × Schema)} {f : String × Schema} (hf : f ∈ shape)
    (h : documented f.2 (v.get? f.1) = none) : documentedShape shape v = none := by
  induction shape with
  | nil => cases hf
  | cons g rest ih =>
    obtain ⟨name, s⟩ := g
    rw [documentedShape]
    rcases List.mem_cons.mp hf with rfl | hf
    · rw [h]
      rfl
    · rw [ih hf]
      cases documented s (v.get? name) <;> rfl

/-- The documentation describes a library there can be. -/
def reference : Zod where
  parse := documented
  boolean := fun v => by
    cases v with
    | none => simp [documented]
    | some v => cases v <;> simp [documented]
  string := fun v => by
    cases v with
    | none => simp [documented]
    | some v => cases v <;> simp [documented]
  int := fun minimum d n hn => by simp [documented, hn]
  array_ok := fun items elems results h => by simp [documented, documented_array h]
  array_bad := fun items elems v hv h => by simp [documented, documented_array_none hv h]
  array_only := fun items v h => by
    cases v with
    | none => simp [documented]
    | some v =>
      cases v with
      | arr elems => exact absurd rfl (h elems)
      | _ => simp [documented]
  union := fun options v => by rw [documented, documentedUnion_eq]
  object_ok := fun shape members result h => by
    obtain ⟨out, hout, hget⟩ := documented_shape result h
    exact ⟨out, by simp [documented, hout], hget⟩
  object_bad := fun shape members f hf h => by simp [documented, documented_shape_none hf h]
  optional := fun inner v => by cases v <;> simp [documented]
  default := fun inner value v => by cases v <;> simp [documented]

end Zod
end RtcPlugin
