import Mathlib.Data.List.Forall2
import RtcPlugin.Go.Decode

/-! Targets that keep what they are given.

An `interface{}`, pointers to scalars and a slice of structs, beside the fields of `Unmarshal`.
`Sets` says of a list of fields what decoding does to one part of the struct; where an object
carries its members under names of their own, that part is the decoded member
(`decodeStruct_member`). Two structs whose fields do the same to a common part decode alike
(`decodeStruct_view`). -/
namespace RtcPlugin.Go

variable {T S : Type}

/-- An `interface{}`. -/
def decodeAny (v : Json) : Option (Option Json) :=
  match v with
  | .null => some none
  | v => if takesAny v then some (some v) else none

/-- A `*string`. -/
def decodeStringPointer : Json → Option (Option String)
  | .str s => some (some s)
  | .null => some none
  | _ => none

/-- A `*uint16`. -/
def decodeUint16Pointer : Json → Option (Option Nat)
  | .num d => if takesUint16 (.num d) then some (some (d.mantissa.natAbs * 10 ^ d.exponent.natAbs)) else none
  | .null => some none
  | _ => none

/-- A field that is replaced, whatever it was. -/
def StructField.replace {α : Type} (name : String) (decode : Json → Option α) (set : α → T → T) : StructField T where
  name := name
  decode := fun v t => (decode v).map fun a => set a t

/-- A slice, with the elements that its array still holds past its length. -/
structure Slice (S : Type) where
  elems : List S := []
  spare : List S := []

/-- Each element is decoded into what the array holds there. -/
def decodeElems (fields : List (StructField S)) (zero : S) : List Json → List S → Option (List S)
  | [], _ => some []
  | v :: rest, old =>
    (decodeStruct fields (old.headD zero) v).bind fun s => (decodeElems fields zero rest old.tail).map (s :: ·)

def decodeSlice (fields : List (StructField S)) (zero : S) (old : Slice S) : Json → Option (Slice S)
  | .arr [] | .null => some {}
  | .arr elems =>
    (decodeElems fields zero elems (old.elems ++ old.spare)).map fun new =>
      ⟨new, (old.elems ++ old.spare).drop new.length⟩
  | _ => none

/-- A slice of structs. -/
def StructField.slice (name : String) (get : T → Slice S) (set : Slice S → T → T) (zero : S)
    (fields : List (StructField S)) : StructField T where
  name := name
  decode := fun v t => (decodeSlice fields zero (get t) v).map fun s => set s t

/-- A nested struct, decoded where it stands. -/
def StructField.struct (name : String) (get : T → S) (set : S → T → T) (fields : List (StructField S)) : StructField T where
  name := name
  decode := fun v t => (decodeStruct fields (get t) v).map fun s => set s t

/-! ### What a part of the struct becomes -/

/-- Decoding does `decode` to the part that `get` reads, by the field of the name alone. -/
def Sets {α : Type} (fields : List (StructField T)) (name : String) (get : T → α) (decode : Json → α → Option α) : Prop :=
  ∀ f ∈ fields, ∀ v t t', f.decode v t = some t' →
    if f.name = name then decode v (get t) = some (get t') else get t' = get t

section
variable {α : Type} {fields : List (StructField T)} {name : String} {get : T → α} {decode : Json → α → Option α}
  {spec : List Member}

theorem Sets.nil : Sets [] name get decode := fun _ hf => absurd hf List.not_mem_nil

/-- The field of the name. -/
theorem Sets.here {f : StructField T} (h : Sets fields name get decode) (hname : f.name = name)
    (hf : ∀ v t t', f.decode v t = some t' → decode v (get t) = some (get t')) : Sets (f :: fields) name get decode := by
  intro g hg v t t' hdecode
  obtain rfl | hold := List.mem_cons.mp hg
  · rw [if_pos hname]
    exact hf v t t' hdecode
  · exact h g hold v t t' hdecode

/-- A field of another name, which leaves the part alone. -/
theorem Sets.there {f : StructField T} (h : Sets fields name get decode) (hname : f.name ≠ name)
    (hf : ∀ v t t', f.decode v t = some t' → get t' = get t) : Sets (f :: fields) name get decode := by
  intro g hg v t t' hdecode
  obtain rfl | hold := List.mem_cons.mp hg
  · rw [if_neg hname]
    exact hf v t t' hdecode
  · exact h g hold v t t' hdecode

/-- A string or `null`, which leaves the field as it is. -/
def decodeString (v : Json) (old : String) : Option String :=
  match v with
  | .str s => some s
  | .null => some old
  | _ => none

theorem Sets.string {get : T → String} {set : String → T → T} (h : Sets fields name get decodeString)
    (hset : ∀ s t, get (set s t) = s) : Sets (.string name set :: fields) name get decodeString := by
  refine h.here rfl fun v t t' hdecode => ?_
  cases v with
  | str s =>
    obtain rfl := Option.some.inj hdecode
    exact congrArg some (hset s t).symm
  | null =>
    obtain rfl := Option.some.inj hdecode
    rfl
  | _ => cases hdecode

theorem Sets.otherString {other : String} {set : String → T → T} (h : Sets fields name get decode) (hname : other ≠ name)
    (hset : ∀ s t, get (set s t) = get t) : Sets (.string other set :: fields) name get decode := by
  refine h.there hname fun v t t' hdecode => ?_
  cases v with
  | str s =>
    obtain rfl := Option.some.inj hdecode
    exact hset s t
  | null =>
    obtain rfl := Option.some.inj hdecode
    rfl
  | _ => cases hdecode

theorem Sets.replace {dec : Json → Option α} {set : α → T → T} (h : Sets fields name get fun v _ => dec v)
    (hset : ∀ a t, get (set a t) = a) : Sets (.replace name dec set :: fields) name get fun v _ => dec v := by
  refine h.here rfl fun v t t' hdecode => ?_
  obtain ⟨a, ha, rfl⟩ := Option.map_eq_some_iff.mp hdecode
  rw [hset]
  exact ha

theorem Sets.otherReplace {β : Type} {other : String} {dec : Json → Option β} {set : β → T → T}
    (h : Sets fields name get decode) (hname : other ≠ name) (hset : ∀ b t, get (set b t) = get t) :
    Sets (.replace other dec set :: fields) name get decode := by
  refine h.there hname fun v t t' hdecode => ?_
  obtain ⟨b, -, rfl⟩ := Option.map_eq_some_iff.mp hdecode
  exact hset b t

theorem decodeMembers_other (hsets : Sets fields name get decode) {members : List (String × Json)}
    (hm : ∀ m ∈ members, ∀ f ∈ fields, foldName f.name = foldName m.1 → f.name ≠ name) {t t' : T}
    (h : decodeMembers fields members t = some t') : get t' = get t := by
  induction members generalizing t with
  | nil =>
    obtain rfl := Option.some.inj h
    rfl
  | cons m rest ih =>
    have hrest := fun m' hm' => hm m' (List.mem_cons_of_mem m hm')
    unfold decodeMembers at h
    split at h
    · next f hf =>
      obtain ⟨u, hu, h⟩ := Option.bind_eq_some_iff.mp h
      have hmem := List.mem_of_find?_eq_some hf
      have hfold : foldName f.name = foldName m.1 := by simpa using List.find?_some hf
      have hother := hsets f hmem m.2 t u hu
      rw [if_neg (hm m List.mem_cons_self f hmem hfold)] at hother
      exact (ih hrest h).trans hother
    · exact ih hrest h

/-- An object with one member of a name, exactly spelled, decodes to what that member is. -/
theorem decodeMembers_member (hsets : Sets fields name get decode) (htakes : Takes fields spec)
    (hfield : ∃ f ∈ fields, f.name = name) {members : List (String × Json)}
    (hm : ∀ m ∈ members, ∀ s ∈ spec, foldName s.name = foldName m.1 → m.1 = s.name ∧ s.ok m.2 = true)
    (hnodup : (members.map Prod.fst).Nodup) {t t' : T} (h : decodeMembers fields members t = some t') :
    ((Json.obj members).get? name).elim (get t' = get t) fun w => decode w (get t) = some (get t') := by
  have hexact : ∀ m ∈ members, ∀ f ∈ fields, foldName f.name = foldName m.1 → m.1 = f.name := by
    intro m hmem f hf hfold
    obtain ⟨s, hs, hname, -⟩ := htakes f hf
    exact (hm m hmem s hs (hname ▸ hfold)).1.trans hname
  show (members.reverse.lookup name).elim _ _
  induction members generalizing t with
  | nil =>
    obtain rfl := Option.some.inj h
    rfl
  | cons m rest ih =>
    obtain ⟨key, v⟩ := m
    rw [List.map_cons, List.nodup_cons] at hnodup
    have hexact' := fun m' hm' => hexact m' (List.mem_cons_of_mem _ hm')
    have hm' := fun m' hm' => hm m' (List.mem_cons_of_mem _ hm')
    rw [List.reverse_cons, List.lookup_append]
    by_cases hkey : key = name
    · subst hkey
      have hnone : rest.reverse.lookup key = none := by
        rw [List.lookup_eq_none_iff]
        intro m hmem
        rw [bne_iff_ne]
        rintro rfl
        exact hnodup.1 (List.mem_map.mpr ⟨m, List.mem_reverse.mp hmem, rfl⟩)
      rw [hnone, Option.none_or, List.lookup_cons_self]
      obtain ⟨f₀, hf₀, hname₀⟩ := hfield
      unfold decodeMembers at h
      split at h
      · next f hf =>
        obtain ⟨u, hu, h⟩ := Option.bind_eq_some_iff.mp h
        have hmem := List.mem_of_find?_eq_some hf
        have hname : key = f.name := hexact _ List.mem_cons_self f hmem (by simpa using List.find?_some hf)
        have hself := hsets f hmem v t u hu
        rw [if_pos hname.symm] at hself
        have hother : get t' = get u := by
          refine decodeMembers_other hsets (fun m hm f' hf' hfold heq => ?_) h
          exact hnodup.1 (List.mem_map.mpr ⟨m, hm, (hexact' m hm f' hf' hfold).trans heq⟩)
        rw [Option.elim_some, hother]
        exact hself
      · next hnone =>
        have hne := List.find?_eq_none.mp hnone f₀ hf₀
        simp [hname₀] at hne
    · have hne : List.lookup name [(key, v)] = none := by
        simp [List.lookup_cons, beq_eq_false_iff_ne.mpr (Ne.symm hkey)]
      rw [hne, Option.or_none]
      unfold decodeMembers at h
      split at h
      · next f hf =>
        obtain ⟨u, hu, h⟩ := Option.bind_eq_some_iff.mp h
        have hmem := List.mem_of_find?_eq_some hf
        have hname : key = f.name := hexact _ List.mem_cons_self f hmem (by simpa using List.find?_some hf)
        have hother := hsets f hmem v t u hu
        rw [if_neg (fun heq => hkey (hname.trans heq))] at hother
        have hlater := ih hm' hnodup.2 h hexact'
        rw [hother] at hlater
        exact hlater
      · exact ih hm' hnodup.2 h hexact'

/-- **A part of the struct is the member of its name**, as it decodes. -/
theorem decodeStruct_member (hsets : Sets fields name get decode) (htakes : Takes fields spec)
    (hfield : ∃ f ∈ fields, f.name = name) {members : List (String × Json)} (h : carries spec (.obj members) = true)
    (hnodup : (members.map Prod.fst).Nodup) {t t' : T} (hdecode : decodeStruct fields t (.obj members) = some t') :
    ((Json.obj members).get? name).elim (get t' = get t) fun w => decode w (get t) = some (get t') := by
  obtain ⟨_, heq, hm, -⟩ := carries_obj h
  obtain rfl := Json.obj.inj heq
  exact decodeMembers_member hsets htakes hfield hm hnodup hdecode

/-! ### Two views of one object -/

/-- A field does to the struct what the other does to its view. -/
structure Views (view : T → S) (f : StructField T) (g : StructField S) : Prop where
  name : f.name = g.name
  decode : ∀ v t, (f.decode v t).map view = g.decode v (view t)

variable {view : T → S} {others : List (StructField S)}

theorem find_view (h : List.Forall₂ (Views view) fields others) (key : List Char) :
    (fields.find? (fun f => foldName f.name == key) = none ∧ others.find? (fun g => foldName g.name == key) = none) ∨
      ∃ f g, Views view f g ∧ fields.find? (fun f => foldName f.name == key) = some f ∧
        others.find? (fun g => foldName g.name == key) = some g := by
  induction h with
  | nil => exact .inl ⟨rfl, rfl⟩
  | @cons f g _ _ hview _ ih =>
    rw [List.find?_cons, List.find?_cons, hview.name]
    cases foldName g.name == key with
    | true => exact .inr ⟨f, g, hview, rfl, rfl⟩
    | false => exact ih

/-- Fields take what their views take. -/
theorem Takes.of_views (h : List.Forall₂ (Views view) fields others) (htakes : Takes others spec) : Takes fields spec := by
  induction h with
  | nil => exact .nil
  | @cons f g fs gs hview _ ih =>
    obtain ⟨s, hs, hname, hok⟩ := htakes g List.mem_cons_self
    refine (ih fun g' hg' => htakes g' (List.mem_cons_of_mem _ hg')).cons hs (hname.trans hview.name.symm) fun v t hv => ?_
    have hsome := hok v (view t) hv
    rw [← hview.decode, Option.isSome_map] at hsome
    exact hsome

theorem decodeMembers_view (h : List.Forall₂ (Views view) fields others) (members : List (String × Json)) (t : T) :
    (decodeMembers fields members t).map view = decodeMembers others members (view t) := by
  induction members generalizing t with
  | nil => rfl
  | cons m rest ih =>
    unfold decodeMembers
    obtain ⟨hf, hg⟩ | ⟨f, g, hview, hf, hg⟩ := find_view h (foldName m.1)
    · rw [hf, hg]
      exact ih t
    · rw [hf, hg]
      show ((f.decode m.2 t).bind _).map view = (g.decode m.2 (view t)).bind _
      rw [← hview.decode]
      cases f.decode m.2 t with
      | none => rfl
      | some u => exact ih u

/-- **A view of what an object decodes to is what it decodes to in the view.** -/
theorem decodeStruct_view (h : List.Forall₂ (Views view) fields others) (v : Json) (t : T) :
    (decodeStruct fields t v).map view = decodeStruct others (view t) v := by
  cases v with
  | obj members => exact decodeMembers_view h members t
  | _ => rfl

end

theorem decodeElems_isSome {fields : List (StructField S)} {zero : S} {ok : Json → Bool}
    (h : ∀ v s, (decodeStruct fields s v).isSome = ok v) (elems : List Json) (old : List S) :
    (decodeElems fields zero elems old).isSome = elems.all ok := by
  induction elems generalizing old with
  | nil => rfl
  | cons v rest ih =>
    rw [List.all_cons, ← ih old.tail, ← h v (old.headD zero), decodeElems]
    cases decodeStruct fields (old.headD zero) v with
    | none => rfl
    | some s => rw [Option.bind_some, Option.isSome_map, Option.isSome_some, Bool.true_and]

/-- A slice takes what its elements take. -/
theorem decodeSlice_isSome {fields : List (StructField S)} {zero : S} {ok : Json → Bool}
    (h : ∀ v s, (decodeStruct fields s v).isSome = ok v) (old : Slice S) (v : Json) :
    (decodeSlice fields zero old v).isSome = takesSlice ok v := by
  unfold decodeSlice takesSlice
  split
  · rfl
  · rfl
  · rw [Option.isSome_map]
    exact decodeElems_isSome h _ _
  · next hnil hnull harr =>
    cases v with
    | arr elems => exact absurd rfl (harr elems)
    | null => exact absurd rfl hnull
    | _ => rfl

/-- A fresh slice holds what each of its elements decodes to. -/
theorem decodeElems_nil (fields : List (StructField S)) (zero : S) (elems : List Json) :
    decodeElems fields zero elems [] = elems.mapM (decodeStruct fields zero) := by
  induction elems with
  | nil => rfl
  | cons v rest ih =>
    rw [List.mapM_cons]
    unfold decodeElems
    rw [List.headD_nil, List.tail_nil, ih]
    cases decodeStruct fields zero v with
    | none => rfl
    | some s => cases rest.mapM (decodeStruct fields zero) <;> rfl

end RtcPlugin.Go
