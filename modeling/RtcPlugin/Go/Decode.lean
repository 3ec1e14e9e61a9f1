import RtcPlugin.Go.Unmarshal

/-! Objects that a struct takes.

A `Member` says what an object may hold under a name. An object `carries` members where
every name that matches one up to case is that name, with a value that it allows; so
whoever reads the name exactly finds what the struct takes (`decodeStruct_get`). -/
namespace RtcPlugin.Go

structure Member where
  name : String
  required : Bool
  ok : Json → Bool

def carries (spec : List Member) : Json → Bool
  | .obj members =>
    (members.all fun m => spec.all fun s => foldName s.name != foldName m.1 || (m.1 == s.name && s.ok m.2)) &&
      spec.all fun s => !s.required || members.any fun m => m.1 == s.name
  | _ => false

def isString : Json → Bool
  | .str _ => true
  | _ => false

theorem lookup_mem {l : List (String × Json)} {name : String} {v : Json} (h : l.lookup name = some v) : (name, v) ∈ l := by
  obtain ⟨before, after, rfl, -⟩ := List.lookup_eq_some_iff.mp h
  simp

section
variable {T : Type} {fields : List (StructField T)} {spec : List Member}

/-- Every field takes what the member of its name allows. -/
def Takes (fields : List (StructField T)) (spec : List Member) : Prop :=
  ∀ f ∈ fields, ∃ s ∈ spec, s.name = f.name ∧ ∀ v t, s.ok v = true → (f.decode v t).isSome = true

theorem Takes.nil : Takes ([] : List (StructField T)) spec := fun _ hf => (nomatch hf)

theorem Takes.cons {f : StructField T} {s : Member} (h : Takes fields spec) (hs : s ∈ spec) (hname : s.name = f.name)
    (hok : ∀ v t, s.ok v = true → (f.decode v t).isSome = true) : Takes (f :: fields) spec := by
  intro g hg
  obtain rfl | hold := List.mem_cons.mp hg
  · exact ⟨s, hs, hname, hok⟩
  · exact h g hold

theorem Takes.string {s : Member} {set : String → T → T} (h : Takes fields spec) (hs : s ∈ spec)
    (hok : ∀ v, s.ok v = true → isString v = true) : Takes (.string s.name set :: fields) spec := by
  apply h.cons hs rfl
  intro v t hv
  cases v with
  | str => rfl
  | _ => cases hok _ hv

theorem Takes.check {s : Member} {ok : Json → Bool} (h : Takes fields spec) (hs : s ∈ spec)
    (hok : ∀ v, s.ok v = true → ok v = true) : Takes (.check s.name ok :: fields) spec := by
  apply h.cons hs rfl
  intro v t hv
  simp [StructField.check, hok v hv]

theorem carries_obj {v : Json} (h : carries spec v = true) : ∃ members, v = .obj members ∧
    (∀ m ∈ members, ∀ s ∈ spec, foldName s.name = foldName m.1 → m.1 = s.name ∧ s.ok m.2 = true) ∧
    ∀ s ∈ spec, s.required = true → ∃ m ∈ members, m.1 = s.name := by
  cases v with
  | obj members =>
    simp only [carries, Bool.and_eq_true, List.all_eq_true, Bool.or_eq_true, bne_iff_ne, beq_iff_eq, Bool.not_eq_true',
      List.any_eq_true] at h
    refine ⟨members, rfl, fun m hm s hs hname => ?_, fun s hs hrequired => ?_⟩
    · exact (h.1 m hm s hs).resolve_left fun hne => hne hname
    · exact (h.2 s hs).resolve_left fun hoptional => by rw [hrequired] at hoptional; cases hoptional
  | _ => cases h

/-- The field that decodes a member has its name and takes its value. -/
theorem find_exact {m : String × Json} {f : StructField T} (htakes : Takes fields spec)
    (hm : ∀ s ∈ spec, foldName s.name = foldName m.1 → m.1 = s.name ∧ s.ok m.2 = true)
    (hf : fields.find? (fun f => foldName f.name == foldName m.1) = some f) :
    f ∈ fields ∧ m.1 = f.name ∧ ∀ t, (f.decode m.2 t).isSome = true := by
  have hmem := List.mem_of_find?_eq_some hf
  have hfold : foldName f.name = foldName m.1 := by
    have hsome := List.find?_some hf
    simpa using hsome
  obtain ⟨s, hs, hname, htake⟩ := htakes f hmem
  obtain ⟨hexact, hok⟩ := hm s hs (hname ▸ hfold)
  exact ⟨hmem, hexact.trans hname, fun t => htake m.2 t hok⟩

theorem decodeMembers_isSome {members : List (String × Json)} (htakes : Takes fields spec)
    (hm : ∀ m ∈ members, ∀ s ∈ spec, foldName s.name = foldName m.1 → m.1 = s.name ∧ s.ok m.2 = true) (t : T) :
    (decodeMembers fields members t).isSome = true := by
  induction members generalizing t with
  | nil => rfl
  | cons m rest ih =>
    have hrest := fun m' hm' => hm m' (List.mem_cons_of_mem m hm')
    unfold decodeMembers
    split
    · next f hf =>
      obtain ⟨-, -, hdecode⟩ := find_exact htakes (hm m List.mem_cons_self) hf
      obtain ⟨t', ht'⟩ := Option.isSome_iff_exists.mp (hdecode t)
      rw [ht']
      exact ih hrest t'
    · exact ih hrest t

/-- What carries the members decodes. -/
theorem decodeStruct_isSome {v : Json} (htakes : Takes fields spec) (h : carries spec v = true) (t : T) :
    (decodeStruct fields t v).isSome = true := by
  obtain ⟨members, rfl, hm, -⟩ := carries_obj h
  exact decodeMembers_isSome htakes hm t

/-- Decoding changes what `get` reads by strings of the name alone. -/
def Reads (fields : List (StructField T)) (name : String) (get : T → String) : Prop :=
  ∀ f ∈ fields, ∀ v t t', f.decode v t = some t' →
    get t' = if f.name = name then (v.asString?).getD (get t) else get t

variable {name : String} {get : T → String}

theorem Reads.nil : Reads [] name get := fun _ hf => (nomatch hf)

theorem Reads.cons {f : StructField T} (h : Reads fields name get)
    (hf : ∀ v t t', f.decode v t = some t' → get t' = if f.name = name then (v.asString?).getD (get t) else get t) :
    Reads (f :: fields) name get := by
  intro g hg
  obtain rfl | hold := List.mem_cons.mp hg
  · exact hf
  · exact h g hold

theorem Reads.self {set : String → T → T} (h : Reads fields name get) (hset : ∀ s t, get (set s t) = s) :
    Reads (.string name set :: fields) name get := by
  apply h.cons
  intro v t t' hdecode
  rw [if_pos (show (StructField.string name set).name = name from rfl)]
  cases v with
  | str s =>
    obtain rfl := Option.some.inj hdecode
    exact hset s t
  | null =>
    obtain rfl := Option.some.inj hdecode
    rfl
  | _ => cases hdecode

theorem Reads.string {other : String} {set : String → T → T} (h : Reads fields name get) (hname : other ≠ name)
    (hset : ∀ s t, get (set s t) = get t) : Reads (.string other set :: fields) name get := by
  apply h.cons
  intro v t t' hdecode
  rw [if_neg (show (StructField.string other set).name ≠ name from hname)]
  cases v with
  | str s =>
    obtain rfl := Option.some.inj hdecode
    exact hset s t
  | null =>
    obtain rfl := Option.some.inj hdecode
    rfl
  | _ => cases hdecode

theorem Reads.check {other : String} {ok : Json → Bool} (h : Reads fields name get) (hname : other ≠ name) :
    Reads (.check other ok :: fields) name get := by
  apply h.cons
  intro v t t' hdecode
  rw [if_neg (show (StructField.check other ok).name ≠ name from hname)]
  simp only [StructField.check] at hdecode
  split at hdecode
  · exact congrArg get (Option.some.inj hdecode).symm
  · cases hdecode

theorem Reads.bool {other : String} {set : Bool → T → T} (h : Reads fields name get) (hname : other ≠ name)
    (hset : ∀ b t, get (set b t) = get t) : Reads (.bool other set :: fields) name get := by
  apply h.cons
  intro v t t' hdecode
  rw [if_neg (show (StructField.bool other set).name ≠ name from hname)]
  cases v with
  | bool b =>
    obtain rfl := Option.some.inj hdecode
    exact hset b t
  | null =>
    obtain rfl := Option.some.inj hdecode
    rfl
  | _ => cases hdecode

theorem Reads.raw {other : String} {set : Option Json → T → T} (h : Reads fields name get) (hname : other ≠ name)
    (hset : ∀ v t, get (set v t) = get t) : Reads (.raw other set :: fields) name get := by
  apply h.cons
  intro v t t' hdecode
  rw [if_neg (show (StructField.raw other set).name ≠ name from hname)]
  cases v <;> obtain rfl := Option.some.inj hdecode <;> exact hset _ t

theorem Reads.pointer {S : Type} {other : String} {at? : T → Option S} {set : Option S → T → T} {zero : S}
    {inner : List (StructField S)} (h : Reads fields name get) (hname : other ≠ name)
    (hset : ∀ s t, get (set s t) = get t) : Reads (.pointer other at? set zero inner :: fields) name get := by
  apply h.cons
  intro v t t' hdecode
  rw [if_neg (show (StructField.pointer other at? set zero inner).name ≠ name from hname)]
  have hsome : ∃ s, set s t = t' := by
    simp only [StructField.pointer] at hdecode
    split at hdecode
    · exact ⟨none, Option.some.inj hdecode⟩
    · obtain ⟨s, -, hs⟩ := Option.map_eq_some_iff.mp hdecode
      exact ⟨some s, hs⟩
  obtain ⟨s, rfl⟩ := hsome
  exact hset s t

/-- What the members of a name up to case leave of a text: the last string of them. -/
def lastText (name : String) (members : List (String × Json)) (init : String) : String :=
  members.foldl (fun text m => if foldName name == foldName m.1 then (m.2.asString?).getD text else text) init

/-- A decoded field holds the last text of its name, whatever else the struct has. -/
theorem decodeMembers_text (hreads : Reads fields name get)
    (hfold : ∀ f ∈ fields, foldName f.name = foldName name → f.name = name) (hfield : ∃ f ∈ fields, f.name = name)
    {members : List (String × Json)} {t t' : T} (h : decodeMembers fields members t = some t') :
    get t' = lastText name members (get t) := by
  induction members generalizing t with
  | nil =>
    cases h
    rfl
  | cons m rest ih =>
    rw [decodeMembers] at h
    have hlast : lastText name (m :: rest) (get t) =
        lastText name rest (if foldName name == foldName m.1 then (m.2.asString?).getD (get t) else get t) := rfl
    cases hfind : fields.find? fun f => foldName f.name == foldName m.1 with
    | none =>
      obtain ⟨f, hf, hname⟩ := hfield
      have hne : (foldName name == foldName m.1) = false := by
        simpa [hname] using List.find?_eq_none.mp hfind f hf
      rw [hfind] at h
      rw [hlast, hne]
      exact ih h
    | some f =>
      have hmem : f ∈ fields := List.mem_of_find?_eq_some hfind
      have hm : foldName f.name = foldName m.1 := by simpa using List.find?_some hfind
      rw [hfind] at h
      obtain ⟨u, hu, hrest⟩ := Option.bind_eq_some_iff.mp h
      rw [ih hrest, hreads f hmem m.2 t u hu, hlast]
      by_cases hname : foldName name = foldName m.1
      · rw [if_pos (hfold f hmem (hm.trans hname.symm)), if_pos (by simpa using hname)]
      · have hne : f.name ≠ name := by
          intro heq
          exact hname (heq ▸ hm)
        rw [if_neg hne, if_neg (by simpa using hname)]

theorem decodeMembers_get {members : List (String × Json)} (htakes : Takes fields spec)
    (hm : ∀ m ∈ members, ∀ s ∈ spec, foldName s.name = foldName m.1 → m.1 = s.name ∧ s.ok m.2 = true)
    (hreads : Reads fields name get) (hfield : ∃ f ∈ fields, f.name = name) (hstring : ∀ m ∈ members, m.1 = name → ∃ text, m.2 = .str text) {t t' : T}
    (h : decodeMembers fields members t = some t') :
    get t' = ((members.reverse.lookup name).bind Json.asString?).getD (get t) := by
  induction members generalizing t with
  | nil =>
    cases h
    rfl
  | cons m rest ih =>
    have hrest := fun m' hm' => hm m' (List.mem_cons_of_mem m hm')
    have hstring' := fun m' hm' => hstring m' (List.mem_cons_of_mem m hm')
    obtain ⟨key, v⟩ := m
    rw [List.reverse_cons, List.lookup_append]
    -- a later member of the name decides, in both readings
    have hlater : ∀ (g : String) (o : Option Json), (∃ w, rest.reverse.lookup name = some w) →
        ((rest.reverse.lookup name).bind Json.asString?).getD g =
          (((rest.reverse.lookup name).or o).bind Json.asString?).getD (get t) := by
      rintro g o ⟨w, hw⟩
      have hmem := lookup_mem hw
      obtain ⟨text, rfl⟩ := hstring' (name, w) (List.mem_reverse.mp hmem) rfl
      rw [hw]
      rfl
    unfold decodeMembers at h
    split at h
    · next f hf =>
      obtain ⟨hmem, hkey, -⟩ := find_exact htakes (hm (key, v) List.mem_cons_self) hf
      obtain ⟨t₁, ht₁, h⟩ := Option.bind_eq_some_iff.mp h
      rw [ih hrest hstring' h]
      cases hlookup : rest.reverse.lookup name with
      | some w => exact hlookup ▸ hlater _ _ ⟨w, hlookup⟩
      | none =>
        have hget := hreads f hmem v t t₁ ht₁
        have hkey : key = f.name := hkey
        by_cases hname : f.name = name
        · rw [if_pos hname] at hget
          simp [hget, hkey, hname]
        · rw [if_neg hname] at hget
          have hne : (name == key) = false := by simp [hkey, Ne.symm hname]
          simp [hget, List.lookup_cons, hne]
    · next hnone =>
      rw [ih hrest hstring' h]
      obtain ⟨f, hf, hname⟩ := hfield
      have hne : (name == key) = false := by
        rw [beq_eq_false_iff_ne]
        rintro rfl
        have hfold := List.find?_eq_none.mp hnone f hf
        simp [hname] at hfold
      simp [List.lookup_cons, hne]

/-- A string that is required is there. -/
theorem carries_get {v : Json} (h : carries spec v = true) {s : Member} (hs : s ∈ spec) (hrequired : s.required = true)
    (hok : ∀ w, s.ok w = true → isString w = true) : ∃ text, v.get? s.name = some (.str text) := by
  obtain ⟨members, rfl, hm, hreq⟩ := carries_obj h
  obtain ⟨m, hmem, hkey⟩ := hreq s hs hrequired
  cases hlookup : members.reverse.lookup s.name with
  | none =>
    have hne := List.lookup_eq_none_iff.mp hlookup m (List.mem_reverse.mpr hmem)
    simp [hkey] at hne
  | some w =>
    have hw := hok w (hm _ (List.mem_reverse.mp (lookup_mem hlookup)) s hs rfl).2
    cases w with
    | str text => exact ⟨text, hlookup⟩
    | _ => cases hw

/-- **The struct takes what the exact name reads.** -/
theorem decodeStruct_get (get : T → String) {v : Json} (htakes : Takes fields spec) (h : carries spec v = true)
    (hreads : Reads fields name get) (hfield : ∃ f ∈ fields, f.name = name)
    (hname : ∃ s ∈ spec, s.name = name ∧ s.required = true ∧ ∀ w, s.ok w = true → isString w = true) {t t' : T}
    (hdecode : decodeStruct fields t v = some t') : v.get? name = some (.str (get t')) := by
  obtain ⟨s, hs, rfl, hrequired, hok⟩ := hname
  obtain ⟨text, htext⟩ := carries_get h hs hrequired hok
  obtain ⟨members, rfl, hm, -⟩ := carries_obj h
  have hstring : ∀ m ∈ members, m.1 = s.name → ∃ text, m.2 = .str text := by
    intro m hmem hkey
    have hm := hok m.2 (hm m hmem s hs (by rw [hkey])).2
    cases hv : m.2 with
    | str text => exact ⟨text, rfl⟩
    | _ =>
      rw [hv] at hm
      cases hm
  have htext : members.reverse.lookup s.name = some (.str text) := htext
  have hget := decodeMembers_get htakes hm hreads hfield hstring hdecode
  show members.reverse.lookup s.name = _
  rw [hget, htext]
  rfl

end
end RtcPlugin.Go
