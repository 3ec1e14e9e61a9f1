import RtcPlugin.Go.Marshal

/-! The `flag` package: a command line read into a structure.

A flag is one argument that begins with a minus, or two, and its value stands behind an equals
sign or is the next argument, whatever that is; what is no flag ends the flags. Integers are
read in the base that their prefix says, with underscores between digits. `parse_value` and
`parse_switch` say what a flag that is written out does. -/
namespace RtcPlugin.Go

/-! ### Integers -/

def isLetter (c lower : Char) : Bool := c == lower || c.toNat + 32 == lower.toNat

/-- The base of a literal, and its digits. -/
def literalBase : List Char → Nat × List Char
  | '0' :: c :: d :: rest =>
    if isLetter c 'b' then (2, d :: rest)
    else if isLetter c 'o' then (8, d :: rest)
    else if isLetter c 'x' then (16, d :: rest)
    else (8, c :: d :: rest)
  | '0' :: rest => (8, rest)
  | cs => (10, cs)

/-- The digits of the base, underscores left out. -/
def literalDigits (base : Nat) : Nat → List Char → Option Nat
  | n, [] => some n
  | n, c :: rest =>
    if c = '_' then literalDigits base n rest
    else match (Json.hexDigit? c).filter (· < base) with
      | some d => literalDigits base (n * base + d) rest
      | none => none

/-- What was seen last: the beginning, a digit, an underscore or something else. -/
inductive Saw where
  | start | digit | underscore | other
  deriving DecidableEq, Repr

def underscoresOk (hex : Bool) : Saw → List Char → Bool
  | saw, [] => saw != .underscore
  | saw, c :: rest =>
    if c.isDigit || (hex && (Json.hexDigit? c).isSome) then underscoresOk hex .digit rest
    else if c = '_' then saw == .digit && underscoresOk hex .underscore rest
    else saw != .underscore && underscoresOk hex .other rest

/-- A base prefix counts as a digit. -/
def underscoreOK : List Char → Bool
  | '0' :: c :: rest =>
    if isLetter c 'b' || isLetter c 'o' || isLetter c 'x' then underscoresOk (isLetter c 'x') .digit rest
    else underscoresOk false .start ('0' :: c :: rest)
  | cs => underscoresOk false .start cs

/-- `strconv.ParseUint(s, 0, 64)` but for its bound. -/
def parseUintLiteral (cs : List Char) : Option Nat :=
  if cs = [] then none
  else
    let literal := literalBase cs
    (literalDigits literal.1 0 literal.2).filter fun _ => !cs.contains '_' || underscoreOK cs

/-- `strconv.ParseInt(s, 0, 64)` -/
def parseIntLiteral (cs : List Char) : Option Int :=
  let read (negative : Bool) (cs : List Char) : Option Int :=
    (parseUintLiteral cs).bind fun n =>
      if negative then if n ≤ 2 ^ 63 then some (-n) else none
      else if n < 2 ^ 63 then some n else none
  match cs with
  | '-' :: rest => read true rest
  | '+' :: rest => read false rest
  | cs => read false cs

/-- `strconv.ParseBool` -/
def parseBool (s : String) : Option Bool :=
  if s ∈ ["1", "t", "T", "TRUE", "true", "True"] then some true
  else if s ∈ ["0", "f", "F", "FALSE", "false", "False"] then some false
  else none

/-! ### Flags -/

structure Flag (T : Type) where
  name : String
  /-- Whether it needs no value. -/
  isBool : Bool
  set : String → T → Option T

namespace Flag
variable {T : Type}

def string (name : String) (put : String → T → T) : Flag T := ⟨name, false, fun s t => some (put s t)⟩

def int (name : String) (put : Int → T → T) : Flag T :=
  ⟨name, false, fun s t => (parseIntLiteral s.toList).map (put · t)⟩

def bool (name : String) (put : Bool → T → T) : Flag T := ⟨name, true, fun s t => (parseBool s).map (put · t)⟩

end Flag

inductive FlagError where
  | badSyntax (arg : String)
  | undefined (name : String)
  | help
  | needsArgument (name : String)
  | invalid (value name : String)
  deriving DecidableEq, Repr

/-- How an argument reads. -/
inductive Argument where
  | stop
  | bad
  | flag (name : String) (value : Option String)
  deriving DecidableEq, Repr

/-- What follows the minus signs: a name, and what stands behind the first equals sign in it. -/
def readName (cs : List Char) : Argument :=
  match cs with
  | [] | '-' :: _ | '=' :: _ => .bad
  | c :: rest =>
    let name := rest.takeWhile (· ≠ '=')
    match rest.dropWhile (· ≠ '=') with
    | _ :: value => .flag (String.ofList (c :: name)) (some (String.ofList value))
    | [] => .flag (String.ofList (c :: name)) none

def readArgument (arg : String) : Argument :=
  match arg.toList with
  | ['-', '-'] | ['-'] => .stop
  | '-' :: '-' :: rest => readName rest
  | '-' :: rest => readName rest
  | _ => .stop

variable {T : Type}

/-- `flag.Parse`, where the first error ends it. -/
def parseFlags (flags : List (Flag T)) : List String → T → Except FlagError T
  | [], t => .ok t
  | arg :: rest, t =>
    match readArgument arg with
    | .stop => .ok t
    | .bad => .error (.badSyntax arg)
    | .flag name value =>
      match flags.find? (·.name == name) with
      | none => .error (if name = "help" ∨ name = "h" then .help else .undefined name)
      | some flag =>
        if flag.isBool then
          match flag.set (value.getD "true") t with
          | some t => parseFlags flags rest t
          | none => .error (.invalid (value.getD "true") name)
        else
          match value, rest with
          | some value, rest =>
            match flag.set value t with
            | some t => parseFlags flags rest t
            | none => .error (.invalid value name)
          | none, value :: rest =>
            match flag.set value t with
            | some t => parseFlags flags rest t
            | none => .error (.invalid value name)
          | none, [] => .error (.needsArgument name)

section
variable {flags : List (Flag T)} {flag : Flag T} {arg name value : String} {t t' : T}

/-- A flag and its value behind it. -/
theorem parse_value (harg : readArgument arg = .flag name none) (hfind : flags.find? (·.name == name) = some flag)
    (hbool : flag.isBool = false) (hset : flag.set value t = some t') (rest : List String) :
    parseFlags flags (arg :: value :: rest) t = parseFlags flags rest t' := by
  rw [parseFlags.eq_def]
  simp only [harg, hfind, hbool, hset, Bool.false_eq_true, if_false]

/-- A flag that stands for itself. -/
theorem parse_switch (harg : readArgument arg = .flag name none) (hfind : flags.find? (·.name == name) = some flag)
    (hbool : flag.isBool = true) (hset : flag.set "true" t = some t') (rest : List String) :
    parseFlags flags (arg :: rest) t = parseFlags flags rest t' := by
  rw [parseFlags.eq_def]
  simp only [harg, hfind, hbool, Option.getD_none, hset, if_true]

end

/-! ### A number's own digits -/

theorem hexDigit?_digit {c : Char} (h : c.isDigit = true) : Json.hexDigit? c = some (c.toNat - '0'.toNat) := by
  rw [Json.hexDigit?, if_pos h]

theorem digit_lt {c : Char} (h : c.isDigit = true) : c.toNat - '0'.toNat < 10 := by
  simp only [Char.isDigit, Bool.and_eq_true, decide_eq_true_eq] at h
  have hhigh : c.toNat ≤ 57 := h.2
  have hzero : '0'.toNat = 48 := rfl
  omega

theorem literalDigits_digits {ds : List Char} (h : Json.AllDigits ds) (n : Nat) :
    literalDigits 10 n ds = some (ds.foldl (fun n d => n * 10 + (d.toNat - '0'.toNat)) n) := by
  induction ds generalizing n with
  | nil => rfl
  | cons c rest ih =>
    have hc := h c List.mem_cons_self
    have hne : c ≠ '_' := by
      rintro rfl
      cases hc
    rw [literalDigits, if_neg hne, hexDigit?_digit hc, Option.filter_some, if_pos (decide_eq_true (digit_lt hc))]
    exact ih (fun d hd => h d (List.mem_cons_of_mem c hd)) _

theorem parseUintLiteral_toDigits (n : Nat) : parseUintLiteral (Nat.toDigits 10 n) = some n := by
  have hall := Json.allDigits_toDigits n
  have hplain : (Nat.toDigits 10 n).contains '_' = false := by
    by_contra h
    simp only [Bool.not_eq_false, List.contains_iff_mem] at h
    cases hall '_' h
  by_cases hn : n = 0
  · subst hn
    rfl
  · have hhead := Json.head_toDigits (Nat.pos_of_ne_zero hn)
    have hbase : literalBase (Nat.toDigits 10 n) = (10, Nat.toDigits 10 n) := by
      unfold literalBase
      split
      · next h => exact absurd (by rw [h]; rfl) hhead
      · next h => exact absurd (by rw [h]; rfl) hhead
      · rfl
    have hvalue : literalDigits 10 0 (Nat.toDigits 10 n) = some n := by
      rw [literalDigits_digits hall]
      exact congrArg some (Json.natOf_toDigits n)
    rw [parseUintLiteral, if_neg Nat.toDigits_ne_nil, hbase]
    simp only [hvalue, hplain, Bool.not_false, Bool.true_or, Option.filter_some, if_true]

theorem parseIntLiteral_toDigits {n : Nat} (h : n < 2 ^ 63) : parseIntLiteral (Nat.toDigits 10 n) = some (n : Int) := by
  have hread := parseUintLiteral_toDigits n
  obtain ⟨c, cs, hcs, hc⟩ := toDigits_cons n
  rw [hcs] at hread ⊢
  unfold parseIntLiteral
  split
  · next heq =>
    cases heq
    cases hc
  · next heq =>
    cases heq
    cases hc
  · simp only [hread, Option.bind_some, Bool.false_eq_true, if_false, h, if_true]

end RtcPlugin.Go
