import Mathlib.Data.List.Infix
import RtcPlugin.Stream.Separated

/-! Normalising paths, as the POSIX half of `node:path` does it.

A path is split at its slashes; empty names and dots go, and two dots take a name
with them. From a base of proper names a path that is joined to it is resolved name
by name (`join_absolute`), and what it begins with can be read off the text, up to
the last name (`absolute_prefix`). -/
namespace RtcPlugin.Path

abbrev Name := List Char

/-- One name of a path after the ones before it. -/
def push (allowAboveRoot : Bool) (names : List Name) (name : Name) : List Name :=
  if name = [] ∨ name = ['.'] then names
  else if name = ['.', '.'] then
    match names.getLast? with
    | none => if allowAboveRoot then [name] else []
    | some last => if last = ['.', '.'] then names ++ [name] else names.dropLast
  else names ++ [name]

def normalizeNames (allowAboveRoot : Bool) (names : List Name) : List Name :=
  names.foldl (push allowAboveRoot) []

def joinNames (names : List Name) : List Char := (names.intersperse ['/']).flatten

def normalize (path : List Char) : List Char :=
  if path = [] then ['.']
  else
    let isAbsolute := path.head? = some '/'
    let trailingSeparator := path.getLast? = some '/'
    let names := normalizeNames (!isAbsolute) (split '/' path)
    if names = [] then
      if isAbsolute then ['/'] else if trailingSeparator then ['.', '/'] else ['.']
    else (if isAbsolute then ['/'] else []) ++ joinNames names ++ (if trailingSeparator then ['/'] else [])

def join (paths : List (List Char)) : List Char :=
  let joined := joinNames (paths.filter (· ≠ []))
  if joined = [] then ['.'] else normalize joined

/-! ### Absolute paths -/

/-- The path of some names, from the root. -/
def absolute (names : List Name) : List Char := names.flatMap ('/' :: ·)

structure Proper (name : Name) : Prop where
  ne : name ≠ []
  noSlash : '/' ∉ name
  notDot : name ≠ ['.']
  notDots : name ≠ ['.', '.']

theorem absolute_append (a b : List Name) : absolute (a ++ b) = absolute a ++ absolute b := List.flatMap_append

theorem absolute_cons (name : Name) (names : List Name) : absolute (name :: names) = '/' :: (name ++ absolute names) := rfl

theorem joinNames_cons (name : Name) (names : List Name) : joinNames (name :: names) = name ++ absolute names := by
  induction names generalizing name with
  | nil => exact List.append_nil name ▸ rfl
  | cons n names ih =>
    show name ++ ('/' :: joinNames (n :: names)) = _
    rw [ih]
    rfl

/-- The names are pushed as they are. -/
theorem foldl_push {names : List Name} (h : ∀ n ∈ names, Proper n) (before : List Name) :
    names.foldl (push false) before = before ++ names := by
  induction names generalizing before with
  | nil => exact (List.append_nil before).symm
  | cons n names ih =>
    have hn := h n (List.mem_cons_self ..)
    have hpush : push false before n = before ++ [n] := by
      rw [push, if_neg (not_or.mpr ⟨hn.ne, hn.notDot⟩), if_neg hn.notDots]
    rw [List.foldl_cons, hpush, ih fun m hm => h m (List.mem_cons_of_mem n hm), List.append_assoc]
    rfl

/-- What is pushed under a root stays proper. -/
theorem foldl_push_proper {names before : List Name} (h : ∀ n ∈ names, '/' ∉ n) (hbefore : ∀ n ∈ before, Proper n) :
    ∀ n ∈ names.foldl (push false) before, Proper n := by
  induction names generalizing before with
  | nil => exact hbefore
  | cons n names ih =>
    refine ih (fun m hm => h m (List.mem_cons_of_mem n hm)) fun m hm => ?_
    unfold push at hm
    split at hm
    · exact hbefore m hm
    · next hne =>
      split at hm
      · split at hm
        · cases hm
        · next last hlast =>
          split at hm
          · next hdots => exact absurd hdots (hbefore last (List.mem_of_getLast? hlast)).notDots
          · exact hbefore m (List.dropLast_subset _ hm)
      · next hdots =>
        obtain hm | hm := List.mem_append.mp hm
        · exact hbefore m hm
        · rw [List.mem_singleton.mp hm]
          exact ⟨fun h => hne (.inl h), h n (List.mem_cons_self ..), fun h => hne (.inr h), hdots⟩

theorem split_absolute {names : List Name} (h : ∀ n ∈ names, '/' ∉ n) (rest : List Char) :
    split '/' (absolute names ++ '/' :: rest) = [] :: (names ++ split '/' rest) := by
  induction names with
  | nil => exact split_cons_sep rest
  | cons n names ih =>
    rw [absolute_cons, List.cons_append, split_cons_sep, List.append_assoc]
    cases names with
    | nil =>
      rw [absolute, List.flatMap_nil, List.nil_append, split_append, split_of_not_mem (h n (List.mem_cons_self ..))]
    | cons m names =>
      have := ih fun x hx => h x (List.mem_cons_of_mem n hx)
      rw [absolute_cons, List.cons_append, split_cons_sep] at this
      rw [absolute_cons, List.cons_append, split_append, split_of_not_mem (h n (List.mem_cons_self ..)),
        (List.cons.inj this).2]
      rfl

/-- The names that a path leads to from a directory. -/
def resolve (dir : List Name) (path : List Char) : List Name := (split '/' path).foldl (push false) dir

def trailing (path : List Char) : List Char := if path.getLast? = some '/' then ['/'] else []

theorem resolve_proper {dir : List Name} (h : ∀ n ∈ dir, Proper n) (path : List Char) :
    ∀ n ∈ resolve dir path, Proper n :=
  foldl_push_proper (fun _ hn => not_mem_of_mem_split hn) h

/-- A path joined to a directory is resolved from there. -/
theorem join_absolute {dir : List Name} (h : ∀ n ∈ dir, Proper n) (hdir : dir ≠ []) {path : List Char} (hpath : path ≠ []) :
    join [absolute dir, path] =
      if resolve dir path = [] then ['/'] else absolute (resolve dir path) ++ trailing path := by
  obtain ⟨d, dirs, rfl⟩ := List.exists_cons_of_ne_nil hdir
  have hfilter : [absolute (d :: dirs), path].filter (· ≠ []) = [absolute (d :: dirs), path] := by
    simp [absolute_cons, hpath]
  have hjoined : joinNames [absolute (d :: dirs), path] = absolute (d :: dirs) ++ '/' :: path := by
    rw [joinNames_cons, absolute_cons path, show absolute [] = [] from rfl, List.append_nil]
  have hhead : (absolute (d :: dirs) ++ '/' :: path).head? = some '/' := rfl
  have hlast : (absolute (d :: dirs) ++ '/' :: path).getLast? = path.getLast? := by
    rw [List.getLast?_append_of_ne_nil _ (List.cons_ne_nil _ _), List.getLast?_cons_of_ne_nil hpath]
  have hnames : normalizeNames false (split '/' (absolute (d :: dirs) ++ '/' :: path)) = resolve (d :: dirs) path := by
    rw [split_absolute fun n hn => (h n hn).noSlash, normalizeNames, List.foldl_cons, List.foldl_append]
    show (split '/' path).foldl (push false) ((d :: dirs).foldl (push false) []) = _
    rw [foldl_push h]
    rfl
  have hne : absolute (d :: dirs) ++ '/' :: path ≠ [] := List.cons_ne_nil _ _
  unfold join normalize
  dsimp only
  rw [hfilter, hjoined, if_neg hne, if_neg hne, hhead, hlast]
  simp only [decide_true, Bool.not_true, if_true, hnames]
  by_cases hnil : resolve (d :: dirs) path = []
  · rw [if_pos hnil, if_pos hnil]
  · obtain ⟨n, names, hcons⟩ := List.exists_cons_of_ne_nil hnil
    rw [if_neg hnil, if_neg hnil, hcons, joinNames_cons]
    rfl

/-- A slash ends what a text begins with. -/
theorem prefix_until {base name rest : List Char} (hbase : '/' ∉ base) (hrest : rest = [] ∨ rest.head? = some '/')
    (h : base <+: name ++ rest) : base <+: name := by
  obtain hle | hlt := Nat.le_total base.length name.length
  · exact List.prefix_of_prefix_length_le h (List.prefix_append ..) hle
  · obtain ⟨more, rfl⟩ := List.prefix_of_prefix_length_le (List.prefix_append ..) h hlt
    cases more with
    | nil =>
      rw [List.append_nil]
    | cons c more =>
      have hc := (List.prefix_append_right_inj _).mp h
      obtain rfl | hhead := hrest
      · cases List.prefix_nil.mp hc
      · obtain ⟨tail, htail⟩ := hc
        rw [← htail] at hhead
        cases hhead
        exact absurd (List.mem_append_right _ (List.mem_cons_self ..)) hbase

/-- Two names that a slash ends are the same. -/
theorem name_eq {a b x rest : List Char} (ha : '/' ∉ a) (hb : '/' ∉ b) (hrest : rest = [] ∨ rest.head? = some '/')
    (h : a ++ '/' :: x <+: b ++ rest) : a = b ∧ '/' :: x <+: rest := by
  obtain ⟨more, rfl⟩ := prefix_until ha hrest ((List.prefix_append ..).trans h)
  rw [List.append_assoc] at h
  have hmore := (List.prefix_append_right_inj _).mp h
  cases more with
  | nil => exact ⟨(List.append_nil a).symm, hmore⟩
  | cons c more =>
    have hc := (List.cons_prefix_cons.mp hmore).1
    subst hc
    exact absurd (List.mem_append_right _ (List.mem_cons_self ..)) hb

theorem head_absolute (names : List Name) {tail : List Char} (htail : tail = [] ∨ tail.head? = some '/') :
    absolute names ++ tail = [] ∨ (absolute names ++ tail).head? = some '/' := by
  cases names with
  | nil => exact htail
  | cons n names => exact .inr rfl

/-- Where a text begins with a name, the path does. -/
theorem first_name {n rest tail : List Char} {names : List Name} (hn : n ≠ []) (htail : tail = [] ∨ tail = ['/'])
    (h : '/' :: (n ++ rest) <+: absolute names ++ tail) :
    ∃ m ms, names = m :: ms ∧ n ++ rest <+: m ++ (absolute ms ++ tail) := by
  cases names with
  | nil =>
    obtain rfl | rfl := htail
    · cases List.prefix_nil.mp h
    · have := (List.cons_prefix_cons.mp h).2
      exact absurd (List.append_eq_nil_iff.mp (List.prefix_nil.mp this)).1 hn
  | cons m ms =>
    rw [absolute_cons, List.cons_append, List.append_assoc] at h
    exact ⟨m, ms, rfl, (List.cons_prefix_cons.mp h).2⟩

/-- A beginning of the text of a path is a beginning of its names, but for its last name. -/
theorem absolute_prefix {dir names : List Name} {base : Name} {tail : List Char} (hdir : ∀ n ∈ dir, Proper n)
    (hbase : '/' ∉ base) (hne : base ≠ []) (hnames : ∀ n ∈ names, '/' ∉ n) (htail : tail = [] ∨ tail = ['/'])
    (h : absolute (dir ++ [base]) <+: absolute names ++ tail) :
    ∃ name rest, names = dir ++ name :: rest ∧ base <+: name := by
  have hhead : tail = [] ∨ tail.head? = some '/' := htail.imp_right fun hslash => by rw [hslash]; rfl
  induction dir generalizing names with
  | nil =>
    rw [List.nil_append, absolute_cons, show absolute [] = [] from rfl] at h
    obtain ⟨m, ms, rfl, hm⟩ := first_name hne htail h
    rw [List.append_nil] at hm
    exact ⟨m, ms, rfl, prefix_until hbase (head_absolute ms hhead) hm⟩
  | cons d dir ih =>
    have hd := hdir d (List.mem_cons_self ..)
    rw [List.cons_append, absolute_cons] at h
    obtain ⟨m, ms, rfl, hm⟩ := first_name hd.ne htail h
    obtain ⟨x, hx⟩ : ∃ x, absolute (dir ++ [base]) = '/' :: x := by
      cases dir with
      | nil => exact ⟨_, rfl⟩
      | cons e dir => exact ⟨_, rfl⟩
    rw [hx] at hm
    obtain ⟨rfl, hrest⟩ := name_eq hd.noSlash (hnames m (List.mem_cons_self ..)) (head_absolute ms hhead) hm
    rw [← hx] at hrest
    obtain ⟨name, rest, rfl, hname⟩ := ih (fun n hn => hdir n (List.mem_cons_of_mem d hn))
      (fun n hn => hnames n (List.mem_cons_of_mem d hn)) hrest
    exact ⟨name, rest, rfl, hname⟩

end RtcPlugin.Path
