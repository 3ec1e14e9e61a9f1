import Mathlib.Data.List.TakeDrop
import Mathlib.Data.List.TakeWhile
import RtcPlugin.Json.Parse

/-! Brackets and strings of a text, without its grammar.

`Scan` goes through the characters of a text and keeps how deep they are in brackets,
and whether they are in a string. It takes more texts than the grammar does: what
the parser reads leaves it outside of everything (`accepts_of_parse`). So a text that
ends inside of a bracket or a string is no JSON, and neither is one that goes on
behind its value. -/
namespace RtcPlugin.Json

inductive Scan where
  /-- Behind the last bracket. -/
  | done
  | dead
  | plain (depth : Nat)
  | string (depth : Nat)
  | escaped (depth : Nat)
  /-- Behind a string. -/
  | closed (depth : Nat)
  deriving DecidableEq, Repr

namespace Scan

def close : Nat → Scan
  | 0 => .dead
  | 1 => .done
  | depth + 2 => .plain (depth + 1)

def step : Scan → Char → Scan
  | .done, c => if isSpace c then .done else .dead
  | .dead, _ => .dead
  | .plain depth, c =>
    if c = '"' then .string depth
    else if c = '\x7b' ∨ c = '[' then .plain (depth + 1)
    else if c = '\x7d' ∨ c = ']' then close depth
    else .plain depth
  | .string depth, c => if c = '"' then .closed depth else if c = '\\' then .escaped depth else .string depth
  | .escaped depth, _ => .string depth
  | .closed depth, c =>
    if isSpace c then .closed depth
    else if c = ',' ∨ c = ':' then .plain depth
    else if c = '\x7d' ∨ c = ']' then close depth
    else .dead

def run (s : Scan) (cs : List Char) : Scan := cs.foldl step s

@[simp] theorem run_cons (s : Scan) (c : Char) (cs : List Char) : s.run (c :: cs) = (s.step c).run cs := rfl

@[simp] theorem run_append (s : Scan) (a b : List Char) : s.run (a ++ b) = (s.run a).run b := List.foldl_append

end Scan

/-! ### What the parser reads -/

section
variable {cs rest : List Char}

/-- The characters read, from one state of the scan to another. -/
def Reads (cs rest : List Char) (s t : Scan) : Prop := ∃ w, cs = w ++ rest ∧ s.run w = t

theorem hexDigit_ne {c : Char} {n : Nat} (h : hexDigit? c = some n) : c ≠ '"' ∧ c ≠ '\\' := by
  constructor <;> intro heq <;> subst heq <;> cases h

theorem hex4_ne {a b c d : Char} {n : Nat} (h : hex4? a b c d = some n) :
    (a ≠ '"' ∧ a ≠ '\\') ∧ (b ≠ '"' ∧ b ≠ '\\') ∧ (c ≠ '"' ∧ c ≠ '\\') ∧ d ≠ '"' ∧ d ≠ '\\' := by
  unfold hex4? at h
  cases ha : hexDigit? a <;> cases hb : hexDigit? b <;> cases hc : hexDigit? c <;> cases hd : hexDigit? d <;>
    simp [ha, hb, hc, hd] at h
  exact ⟨hexDigit_ne ha, hexDigit_ne hb, hexDigit_ne hc, hexDigit_ne hd⟩

theorem parseString_scan {pending : Option Nat} {acc : List Char} {s : String}
    (h : parseString pending acc cs = some (s, rest)) (depth : Nat) :
    Reads cs rest (.string depth) (.closed depth) := by
  have hunicode : ∀ {a b c d n more}, hex4? a b c d = some n → Reads more rest (.string depth) (.closed depth) →
      Reads ('\\' :: 'u' :: a :: b :: c :: d :: more) rest (.string depth) (.closed depth) := by
    intro a b c d n more hex hread
    obtain ⟨w, rfl, hw⟩ := hread
    refine ⟨'\\' :: 'u' :: a :: b :: c :: d :: w, rfl, ?_⟩
    simp [Scan.step, hex4_ne hex, hw]
  fun_induction parseString pending acc cs with
  | case1 | case3 | case10 | case12 => cases h
  | case2 pending acc more =>
    cases h
    exact ⟨['"'], rfl, rfl⟩
  | case4 acc a b c d more n high hex hlow ih => exact hunicode hex (ih h)
  | case5 acc a b c d more n high hex hlow hhigh ih => exact hunicode hex (ih h)
  | case6 acc a b c d more n high hex hlow hhigh ih => exact hunicode hex (ih h)
  | case7 acc a b c d more n hex hhigh ih => exact hunicode hex (ih h)
  | case8 acc a b c d more n hex hhigh hlow ih => exact hunicode hex (ih h)
  | case9 acc a b c d more n hex hhigh hlow ih => exact hunicode hex (ih h)
  | case11 pending acc e more hnot c hesc ih =>
    obtain ⟨w, rfl, hw⟩ := ih h
    exact ⟨'\\' :: e :: w, rfl, hw⟩
  | case13 pending acc c more hquote hnot hslash hcontrol ih =>
    obtain ⟨w, rfl, hw⟩ := ih h
    refine ⟨c :: w, rfl, ?_⟩
    have hc : c ≠ '\\' := by
      intro heq
      subst heq
      -- the last character of all
      cases hrest : w ++ rest with
      | nil =>
        rw [hrest] at h
        simp [parseString] at h
      | cons e more => exact hslash e more rfl hrest
    have hquote : c ≠ '"' := hquote
    simp [Scan.step, hquote, hc, hw]

/-- No bracket and no quote. -/
def Neutral (c : Char) : Prop := c ≠ '"' ∧ c ≠ '\x7b' ∧ c ≠ '[' ∧ c ≠ '\x7d' ∧ c ≠ ']'

instance (c : Char) : Decidable (Neutral c) := inferInstanceAs (Decidable (_ ∧ _))

theorem run_neutral {w : List Char} (h : ∀ c ∈ w, Neutral c) (depth : Nat) :
    (Scan.plain depth).run w = .plain depth := by
  induction w with
  | nil => rfl
  | cons c w ih =>
    have ⟨⟨h₁, h₂, h₃, h₄, h₅⟩, hw⟩ := List.forall_mem_cons.mp h
    simp [Scan.step, h₁, h₂, h₃, h₄, h₅, ih hw]

theorem neutral_digit {c : Char} (h : c.isDigit = true) : Neutral c := by
  refine ⟨?_, ?_, ?_, ?_, ?_⟩ <;> intro heq <;> subst heq <;> cases h

theorem neutral_space {c : Char} (h : isSpace c = true) : Neutral c := by
  refine ⟨?_, ?_, ?_, ?_, ?_⟩ <;> intro heq <;> subst heq <;> cases h

theorem digits_eq {ds : List Char} (h : digits cs = (ds, rest)) : cs = ds ++ rest ∧ ∀ c ∈ ds, Neutral c := by
  unfold digits at h
  rw [List.span_eq_takeWhile_dropWhile] at h
  cases h
  exact ⟨List.takeWhile_append_dropWhile.symm, fun c hc => neutral_digit (List.mem_takeWhile_imp hc)⟩

theorem neutral_sign {c : Char} (h : c = '-' ∨ c = '+' ∨ c = '.' ∨ c = 'e' ∨ c = 'E') : Neutral c := by
  obtain rfl | rfl | rfl | rfl | rfl := h <;> decide

/-- Only neutral characters are read. -/
def ReadsNeutral (cs rest : List Char) : Prop := ∃ w, cs = w ++ rest ∧ ∀ c ∈ w, Neutral c

theorem ReadsNeutral.nil : ReadsNeutral rest rest := ⟨[], rfl, List.forall_mem_nil _⟩

theorem ReadsNeutral.append {w : List Char} (hw : ∀ c ∈ w, Neutral c) (h : ReadsNeutral cs rest) :
    ReadsNeutral (w ++ cs) rest := by
  obtain ⟨w', rfl, hw'⟩ := h
  exact ⟨w ++ w', (List.append_assoc ..).symm, List.forall_mem_append.mpr ⟨hw, hw'⟩⟩

theorem ReadsNeutral.cons {c : Char} (hc : Neutral c) (h : ReadsNeutral cs rest) : ReadsNeutral (c :: cs) rest :=
  h.append (w := [c]) (List.forall_mem_singleton.mpr hc)

theorem parseExponent_neutral {e : Int} (h : parseExponent cs = some (e, rest)) : ReadsNeutral cs rest := by
  unfold parseExponent at h
  split at h
  · next c more =>
    split at h
    · next hc =>
      have hc : Neutral c := neutral_sign (by simp_all)
      split at h
      next negative after hsign =>
      have hafter : ReadsNeutral after rest := by
        split at h
        · cases h
        · next ds rest' _ hds =>
          obtain ⟨rfl, hneutral⟩ := digits_eq hds
          cases h
          exact ReadsNeutral.nil.append hneutral
      refine ReadsNeutral.cons hc ?_
      split at hsign <;> cases hsign
      · exact hafter.cons (neutral_sign (.inl rfl))
      · exact hafter.cons (neutral_sign (.inr (.inl rfl)))
      · exact hafter
    · cases h
      exact .nil
  · cases h
    exact .nil

theorem parseNumber_neutral {v : Json} (h : parseNumber cs = some (v, rest)) : ReadsNeutral cs rest := by
  unfold parseNumber at h
  split at h
  next negative unsigned hsign =>
  have hunsigned : ReadsNeutral unsigned rest := by
    split at h
    · cases h
    · next whole afterWhole _ hwhole =>
      obtain ⟨rfl, hneutral⟩ := digits_eq hwhole
      refine ReadsNeutral.append hneutral ?_
      split at h
      · cases h
      · dsimp only at h
        split at h
        · cases h
        · next fraction after hfraction =>
          have hafter : ReadsNeutral after rest := by
            split at h
            · cases h
            · next e rest' hexp =>
              cases h
              exact parseExponent_neutral hexp
          split at hfraction
          · next more =>
            split at hfraction
            · cases hfraction
            · obtain ⟨rfl, hds⟩ := digits_eq (Option.some.inj hfraction)
              exact (hafter.append hds).cons (neutral_sign (.inr (.inr (.inl rfl))))
          · cases hfraction
            exact hafter
  split at hsign <;> cases hsign
  · exact hunsigned.cons (neutral_sign (.inl rfl))
  · exact hunsigned

theorem Reads.trans {more : List Char} {s t u : Scan} (h : Reads cs more s t) (h' : Reads more rest t u) :
    Reads cs rest s u := by
  obtain ⟨w, rfl, rfl⟩ := h
  obtain ⟨w', rfl, rfl⟩ := h'
  exact ⟨w ++ w', (List.append_assoc ..).symm, Scan.run_append ..⟩

theorem Reads.char (c : Char) (cs : List Char) (s : Scan) : Reads (c :: cs) cs s (s.step c) := ⟨[c], rfl, rfl⟩

/-- White space changes nothing outside of strings. -/
theorem reads_space (cs : List Char) {s : Scan} (hs : ∀ c, isSpace c = true → s.step c = s) :
    Reads cs (skipSpace cs) s s := by
  induction cs with
  | nil => exact ⟨[], rfl, rfl⟩
  | cons c cs ih =>
    cases hc : isSpace c with
    | true =>
      rw [show skipSpace (c :: cs) = skipSpace cs by simp [skipSpace, hc]]
      have hstep := Reads.char c cs s
      rw [hs c hc] at hstep
      exact hstep.trans ih
    | false => exact ⟨[], by simp [skipSpace, hc], rfl⟩

theorem plain_space {c : Char} (h : isSpace c = true) (depth : Nat) :
    (Scan.plain depth).step c = .plain depth := run_neutral (List.forall_mem_singleton.mpr (neutral_space h)) depth

theorem closed_space {c : Char} (h : isSpace c = true) (depth : Nat) : (Scan.closed depth).step c = .closed depth :=
  if_pos h

/-- Behind a value. -/
def Behind (depth : Nat) (t : Scan) : Prop := t = .plain depth ∨ t = .closed depth ∨ depth = 0 ∧ t = .done

theorem behind_close (depth : Nat) : Behind depth (.close (depth + 1)) := by
  cases depth with
  | zero => exact .inr (.inr ⟨rfl, rfl⟩)
  | succ depth => exact .inl rfl

theorem Behind.space {depth : Nat} {t : Scan} (h : Behind depth t) : ∀ c, isSpace c = true → t.step c = t := by
  intro c hc
  obtain rfl | rfl | ⟨-, rfl⟩ := h
  · exact plain_space hc depth
  · exact closed_space hc depth
  · exact if_pos hc

/-- Inside of a bracket, a comma or a colon goes on, and a bracket closes. -/
theorem Behind.next {depth : Nat} {t : Scan} (h : Behind (depth + 1) t) :
    t.step ',' = .plain (depth + 1) ∧ t.step ':' = .plain (depth + 1) ∧
      t.step ']' = .close (depth + 1) ∧ t.step '\x7d' = .close (depth + 1) := by
  obtain rfl | rfl | ⟨h, -⟩ := h
  · exact ⟨rfl, rfl, rfl, rfl⟩
  · exact ⟨rfl, rfl, rfl, rfl⟩
  · cases h

def ReadsValue (cs rest : List Char) : Prop := ∀ depth, ∃ t, Behind depth t ∧ Reads cs rest (.plain depth) t

def ReadsInside (cs rest : List Char) : Prop := ∀ depth, Reads cs rest (.plain (depth + 1)) (.close (depth + 1))

/-- A value inside of a bracket, and the character behind it. -/
theorem ReadsValue.next {more : List Char} {c : Char} (h : ReadsValue cs more) (hskip : skipSpace more = c :: rest)
    (depth : Nat) : ∃ t, Behind (depth + 1) t ∧ Reads cs rest (.plain (depth + 1)) (t.step c) := by
  obtain ⟨t, ht, hread⟩ := h (depth + 1)
  have hspace := reads_space more ht.space
  rw [hskip] at hspace
  exact ⟨t, ht, (hread.trans hspace).trans (Reads.char c rest t)⟩

theorem ReadsInside.space {inner : List Char} (h : ReadsInside (skipSpace inner) rest) : ReadsInside inner rest :=
  fun depth => (reads_space inner fun _ hc => plain_space hc (depth + 1)).trans (h depth)

theorem readsInside_close {c : Char} (hc : c = ']' ∨ c = '\x7d') : ReadsInside (c :: rest) rest := by
  intro depth
  obtain rfl | rfl := hc <;> exact Reads.char ..

section
variable {fuel : Nat} {v : Json}

theorem parseElems_scan (hvalue : ∀ {cs v rest}, parseValue fuel cs = some (v, rest) → ReadsValue cs rest)
    (helems : ∀ {acc cs v rest}, parseElems fuel acc cs = some (v, rest) → ReadsInside cs rest) {acc : List Json}
    (h : parseElems (fuel + 1) acc cs = some (v, rest)) : ReadsInside cs rest := by
  intro depth
  rw [parseElems] at h
  split at h
  · cases h
  · next w more hv =>
    split at h
    · next after hskip =>
      obtain ⟨t, ht, hread⟩ := (hvalue hv).next hskip depth
      rw [ht.next.1] at hread
      exact hread.trans (helems h depth)
    · next after hskip =>
      cases h
      obtain ⟨t, ht, hread⟩ := (hvalue hv).next hskip depth
      rwa [ht.next.2.2.1] at hread
    · cases h

theorem parseMembers_scan (hvalue : ∀ {cs v rest}, parseValue fuel cs = some (v, rest) → ReadsValue cs rest)
    (hmembers : ∀ {acc cs v rest}, parseMembers fuel acc cs = some (v, rest) → ReadsInside cs rest)
    {acc : List (String × Json)} (h : parseMembers (fuel + 1) acc cs = some (v, rest)) : ReadsInside cs rest := by
  intro depth
  have hspace := reads_space cs (fun c hc => plain_space hc (depth + 1))
  rw [parseMembers] at h
  split at h
  · next quoted hquote =>
    rw [hquote] at hspace
    split at h
    · cases h
    · next name behind hname =>
      -- the name, and the colon behind it
      have hstring := parseString_scan hname (depth + 1)
      have hcolon := reads_space behind (fun c hc => closed_space hc (depth + 1))
      split at h
      · next afterColon hskip =>
        rw [hskip] at hcolon
        have hread := (((hspace.trans (Reads.char _ _ _)).trans hstring).trans hcolon).trans (Reads.char _ _ _)
        split at h
        · cases h
        · next w more hv =>
          split at h
          · next after hskip =>
            obtain ⟨t, ht, hread'⟩ := (hvalue hv).next hskip depth
            rw [ht.next.1] at hread'
            exact (hread.trans hread').trans (hmembers h depth)
          · next after hskip =>
            cases h
            obtain ⟨t, ht, hread'⟩ := (hvalue hv).next hskip depth
            rw [ht.next.2.2.2] at hread'
            exact hread.trans hread'
          · cases h
      · cases h
  · cases h

theorem parseValue_scan (helems : ∀ {acc cs v rest}, parseElems fuel acc cs = some (v, rest) → ReadsInside cs rest)
    (hmembers : ∀ {acc cs v rest}, parseMembers fuel acc cs = some (v, rest) → ReadsInside cs rest)
    (h : parseValue (fuel + 1) cs = some (v, rest)) : ReadsValue cs rest := by
  intro depth
  have hspace := reads_space cs (fun c hc => plain_space hc depth)
  have hneutral : ReadsNeutral (skipSpace cs) rest → ∃ t, Behind depth t ∧ Reads cs rest (.plain depth) t := by
    intro hread
    obtain ⟨w, hskip, hw⟩ := hread
    rw [hskip] at hspace
    exact ⟨_, .inl rfl, hspace.trans ⟨w, rfl, run_neutral hw depth⟩⟩
  have hinside : ∀ {c inner}, c = '\x7b' ∨ c = '[' → skipSpace cs = c :: inner → ReadsInside inner rest →
      ∃ t, Behind depth t ∧ Reads cs rest (.plain depth) t := by
    intro c inner hc hskip hread
    rw [hskip] at hspace
    have hopen := hspace.trans (Reads.char ..)
    refine ⟨_, behind_close depth, hopen.trans ?_⟩
    obtain rfl | rfl := hc <;> exact hread depth
  rw [parseValue] at h
  split at h
  · next quoted hquote =>
    rw [hquote] at hspace
    obtain ⟨⟨s, more⟩, hs, heq⟩ := Option.map_eq_some_iff.mp h
    cases heq
    exact ⟨_, .inr (.inl rfl), (hspace.trans (Reads.char ..)).trans (parseString_scan hs depth)⟩
  · next inner hopen =>
    refine hinside (.inl rfl) hopen (ReadsInside.space ?_)
    split at h
    · next after hskip =>
      cases h
      rw [hskip]
      exact readsInside_close (.inr rfl)
    · exact hmembers h
  · next inner hopen =>
    refine hinside (.inr rfl) hopen (ReadsInside.space ?_)
    split at h
    · next after hskip =>
      cases h
      rw [hskip]
      exact readsInside_close (.inl rfl)
    · exact helems h
  · next hskip =>
    cases h
    exact hneutral ⟨['t', 'r', 'u', 'e'], hskip, by simp [Neutral]⟩
  · next hskip =>
    cases h
    exact hneutral ⟨['f', 'a', 'l', 's', 'e'], hskip, by simp [Neutral]⟩
  · next hskip =>
    cases h
    exact hneutral ⟨['n', 'u', 'l', 'l'], hskip, by simp [Neutral]⟩
  · exact hneutral (parseNumber_neutral h)

end

theorem parse_scan (fuel : Nat) :
    (∀ {cs v rest}, parseValue fuel cs = some (v, rest) → ReadsValue cs rest) ∧
      (∀ {acc cs v rest}, parseElems fuel acc cs = some (v, rest) → ReadsInside cs rest) ∧
      ∀ {acc cs v rest}, parseMembers fuel acc cs = some (v, rest) → ReadsInside cs rest := by
  induction fuel with
  | zero => exact ⟨nofun, nofun, nofun⟩
  | succ fuel ih =>
    exact ⟨parseValue_scan ih.2.1 ih.2.2, parseElems_scan ih.1 ih.2.1, parseMembers_scan ih.1 ih.2.2⟩

/-- **What the parser reads leaves the scan outside of all brackets and strings.** -/
theorem accepts_of_parse {v : Json} (h : parseChars cs = some v) : Behind 0 ((Scan.plain 0).run cs) := by
  unfold parseChars at h
  split at h
  · next w rest hvalue =>
    split at h
    · next hempty =>
      obtain ⟨t, ht, hread⟩ := (parse_scan _).1 hvalue 0
      have hspace := reads_space rest ht.space
      rw [List.isEmpty_iff.mp hempty] at hspace
      obtain ⟨u, hu, hrun⟩ := hread.trans hspace
      rwa [hu, List.append_nil, hrun]
    · cases h
  · cases h

end

/-! ### Texts cut off -/

namespace Scan

/-- Inside of a bracket, or where no text goes on. -/
def Open : Scan → Prop
  | .done => False
  | .dead => True
  | .plain depth | .string depth | .escaped depth | .closed depth => 0 < depth

theorem not_behind_of_open {t : Scan} (h : t.Open) : ¬ Behind 0 t := by
  intro hbehind
  obtain rfl | rfl | ⟨-, rfl⟩ := hbehind
  · exact absurd h (Nat.lt_irrefl 0)
  · exact absurd h (Nat.lt_irrefl 0)
  · exact h

@[simp] theorem run_dead (w : List Char) : Scan.dead.run w = .dead := by
  induction w with
  | nil => rfl
  | cons c w ih => exact ih

theorem done_space {c : Char} (hc : isSpace c = true) : Scan.done.step c = .done := if_pos hc

theorem done_dead {c : Char} (hc : isSpace c = false) : Scan.done.step c = .dead := if_neg (ne_true_of_eq_false hc)

theorem run_done {w : List Char} (h : Scan.done.run w ≠ .dead) : ∀ c ∈ w, isSpace c = true := by
  induction w with
  | nil => exact List.forall_mem_nil _
  | cons c w ih =>
    cases hc : isSpace c with
    | true =>
      rw [run_cons, done_space hc] at h
      exact List.forall_mem_cons.mpr ⟨hc, ih h⟩
    | false =>
      rw [run_cons, done_dead hc, run_dead] at h
      exact absurd rfl h

/-- Nothing begins behind a string. -/
theorem closed_letter (depth : Nat) {c : Char} (hc : c.isAlpha = true) : (Scan.closed depth).step c = .dead := by
  have hne : ∀ x : Char, x.isAlpha = false → c ≠ x := by
    intro x hx heq
    subst heq
    rw [hx] at hc
    cases hc
  simp [step, isSpace, hne ' ' rfl, hne '\t' rfl, hne '\n' rfl, hne '\r' rfl, hne ',' rfl, hne ':' rfl, hne '\x7d' rfl,
    hne ']' rfl]

theorem open_close {depth : Nat} (h : 0 < depth) : (close depth).Open ∨ close depth = .done := by
  match depth with
  | 1 => exact .inr rfl
  | depth + 2 => exact .inl (Nat.succ_pos depth)

/-- One character closes one bracket at most. -/
theorem Open.step {t : Scan} (h : t.Open) (c : Char) : (t.step c).Open ∨ t.step c = .done := by
  cases t with
  | done => cases h
  | dead => exact .inl h
  | plain depth =>
    have h : 0 < depth := h
    simp only [Scan.step]
    split
    · exact .inl h
    · split
      · exact .inl (Nat.succ_pos depth)
      · split
        · exact open_close h
        · exact .inl h
  | string depth =>
    simp only [Scan.step]
    split
    · exact .inl h
    · split <;> exact .inl h
  | escaped depth => exact .inl h
  | closed depth =>
    simp only [Scan.step]
    split
    · exact .inl h
    · split
      · exact .inl h
      · split
        · exact open_close h
        · exact .inl trivial

/-- Where the scan ends behind all brackets, and not with white space, it was inside of them before. -/
theorem Open.run {t : Scan} (h : t.Open) {q r : List Char} (hdone : t.run (q ++ r) = .done)
    (hr : ∃ c ∈ r, isSpace c = false) : (t.run q).Open := by
  induction q generalizing t with
  | nil => exact h
  | cons c q ih =>
    rw [List.cons_append, run_cons] at hdone
    obtain hopen | hclosed := h.step c
    · exact ih hopen hdone
    · rw [hclosed] at hdone
      obtain ⟨x, hx, hspace⟩ := hr
      have := run_done (by rw [hdone]; exact nofun) x (List.mem_append_right q hx)
      rw [hspace] at this
      cases this

/-! The same text, further inside. -/

/-- The scan of a text by itself, and `k` brackets further inside; where the first is stuck, nothing is said. -/
def Deeper (k : Nat) : Scan → Scan → Prop
  | .done, t => t = .plain k
  | .dead, _ => True
  | .plain depth, t => t = .plain (depth + k)
  | .string depth, t => t = .string (depth + k)
  | .escaped depth, t => t = .escaped (depth + k)
  | .closed depth, t => t = .closed (depth + k)

theorem deeper_close {k : Nat} (hk : 0 < k) (depth : Nat) : Deeper k (close depth) (close (depth + k)) := by
  obtain ⟨k, rfl⟩ : ∃ j, k = j + 1 := ⟨k - 1, by omega⟩
  match depth with
  | 0 => trivial
  | 1 =>
    rw [Nat.add_comm 1]
    rfl
  | depth + 2 =>
    rw [show depth + 2 + (k + 1) = depth + 1 + k + 2 by omega]
    rfl

theorem Deeper.step {k : Nat} (hk : 0 < k) {s t : Scan} (h : Deeper k s t) (c : Char) :
    Deeper k (s.step c) (t.step c) := by
  cases s with
  | dead => trivial
  | done =>
    obtain rfl : t = .plain k := h
    cases hc : isSpace c with
    | true =>
      rw [done_space hc, plain_space hc k]
      rfl
    | false =>
      rw [done_dead hc]
      trivial
  | plain depth =>
    obtain rfl : t = .plain (depth + k) := h
    simp only [Scan.step]
    split
    · rfl
    · split
      · rw [Nat.add_right_comm]
        rfl
      · split
        · exact deeper_close hk depth
        · rfl
  | string depth =>
    obtain rfl : t = .string (depth + k) := h
    simp only [Scan.step]
    split
    · rfl
    · split <;> rfl
  | escaped depth =>
    obtain rfl : t = .escaped (depth + k) := h
    rfl
  | closed depth =>
    obtain rfl : t = .closed (depth + k) := h
    simp only [Scan.step]
    split
    · rfl
    · split
      · rfl
      · split
        · exact deeper_close hk depth
        · trivial

theorem Deeper.run {k : Nat} (hk : 0 < k) {s t : Scan} (h : Deeper k s t) (w : List Char) :
    Deeper k (s.run w) (t.run w) := by
  induction w generalizing s t with
  | nil => exact h
  | cons c w ih => exact ih (h.step hk c)

theorem Deeper.open {k : Nat} (hk : 0 < k) {s t : Scan} (h : Deeper k s t) (hs : s ≠ .dead) : t.Open := by
  cases s with
  | done =>
    obtain rfl : t = .plain k := h
    exact hk
  | dead => exact absurd rfl hs
  | plain depth | string depth | escaped depth | closed depth =>
    cases h
    exact Nat.add_pos_right depth hk

/-- Once inside of a bracket, a scan ends inside of one, or behind all of them. -/
theorem run_open {t : Scan} (h : t.Open ∨ t = .done) (w : List Char) : (t.run w).Open ∨ t.run w = .done := by
  induction w generalizing t with
  | nil => exact h
  | cons c w ih =>
    refine ih ?_
    obtain h | rfl := h
    · exact h.step c
    · cases hc : isSpace c with
      | true => exact .inr (done_space hc)
      | false =>
        rw [done_dead hc]
        exact .inl trivial

/-- A character that is no bracket closes none. -/
theorem Open.neutral {t : Scan} (h : t.Open) {c : Char} (hc : Neutral c) : (t.step c).Open := by
  obtain ⟨h₁, h₂, h₃, h₄, h₅⟩ := hc
  cases t with
  | done => cases h
  | dead => trivial
  | plain depth => simpa [Scan.step, h₁, h₂, h₃, h₄, h₅] using h
  | string depth =>
    simp only [Scan.step]
    split
    · exact h
    · split <;> exact h
  | escaped depth => exact h
  | closed depth =>
    simp only [Scan.step, h₄, h₅]
    split
    · exact h
    · split
      · exact h
      · split
        · next hbracket => simp at hbracket
        · trivial

end Scan

/-- An object that is cut off ends inside of its brackets. -/
theorem open_of_cut {text q : List Char} (hstarts : ∃ more, text = '\x7b' :: more) (hends : ∃ front, text = front ++ ['\x7d'])
    (hscan : (Scan.plain 0).run text = .done) (hq : q <+: text) (hne : q ≠ []) (hcut : q ≠ text) :
    ((Scan.plain 0).run q).Open := by
  obtain ⟨inner, hinner⟩ := hstarts
  obtain ⟨front, hends⟩ := hends
  obtain ⟨x, more, rfl⟩ := List.exists_cons_of_ne_nil hne
  obtain ⟨rfl, -⟩ := List.cons_prefix_cons.mp (hinner ▸ hq)
  obtain ⟨r, hr⟩ := hq
  rw [← hr, List.cons_append] at hscan
  refine Scan.Open.run (show (Scan.plain 1).Open from Nat.one_pos) hscan ⟨'\x7d', ?_, rfl⟩
  -- the rest has the last character of the text
  have hrne : r ≠ [] := by
    intro hnil
    subst hnil
    exact hcut (by rw [← hr, List.append_nil])
  obtain ⟨r, x, hconcat⟩ := (List.eq_nil_or_concat r).resolve_left hrne
  rw [List.concat_eq_append] at hconcat
  subst hconcat
  have hlast : (('\x7b' :: more) ++ r ++ [x]).getLast? = some '\x7d' := by
    rw [List.append_assoc, hr, hends, List.getLast?_concat]
  rw [List.getLast?_concat] at hlast
  obtain rfl := Option.some.inj hlast
  exact List.mem_append_right r (List.mem_singleton_self _)

/-- The text of an object with a first name that begins with a letter. -/
structure Enclosed (text : List Char) : Prop where
  starts : ∃ c more, text = '\x7b' :: '"' :: c :: more ∧ c.isAlpha = true
  ends : ∃ front, text = front ++ ['\x7d']
  scan : (Scan.plain 0).run text = .done

namespace Enclosed

variable {text q : List Char}

theorem starts_of_prefix (h : Enclosed text) (hq : q <+: text) (hne : q ≠ []) : ∃ more, q = '\x7b' :: more := by
  obtain ⟨c, more, htext, -⟩ := h.starts
  obtain ⟨x, q, rfl⟩ := List.exists_cons_of_ne_nil hne
  rw [htext] at hq
  obtain ⟨rfl, -⟩ := List.cons_prefix_cons.mp hq
  exact ⟨q, rfl⟩

/-- A text cut off ends inside of its brackets. -/
theorem cut (h : Enclosed text) (hq : q <+: text) (hne : q ≠ []) (hcut : q ≠ text) : ((Scan.plain 0).run q).Open := by
  obtain ⟨c, more, htext, -⟩ := h.starts
  exact open_of_cut ⟨_, htext⟩ h.ends h.scan hq hne hcut

/-- In a string, the first quote ends it, and a letter comes next. -/
theorem in_string (h : Enclosed text) {more : List Char} (hq : '\x7b' :: more <+: text) {depth : Nat} (hdepth : 0 < depth) :
    ((Scan.string depth).run more).Open := by
  obtain ⟨c, rest, htext, hc⟩ := h.starts
  rw [htext, List.cons_prefix_cons] at hq
  match more, hq.2 with
  | [], _ => exact hdepth
  | [x], hrest =>
    obtain ⟨rfl, -⟩ := List.cons_prefix_cons.mp hrest
    exact hdepth
  | x :: y :: more, hrest =>
    obtain ⟨rfl, hletter⟩ := List.cons_prefix_cons.mp hrest
    obtain ⟨rfl, -⟩ := List.cons_prefix_cons.mp hletter
    show (((Scan.closed depth).step y).run more).Open
    rw [Scan.closed_letter depth hc, Scan.run_dead]
    trivial

/-- Further text behind a text that was cut off, or behind a whole one. -/
theorem again (h : Enclosed text) (hq : q <+: text) (hne : q ≠ []) {t : Scan} (ht : t.Open ∨ t = .done) :
    (t.run q).Open := by
  obtain ⟨more, rfl⟩ := h.starts_of_prefix hq hne
  have hscan : (Scan.plain 0).run ('\x7b' :: more) ≠ .dead := by
    obtain ⟨r, hr⟩ := hq
    intro hdead
    have := h.scan
    rw [← hr, Scan.run_append, hdead, Scan.run_dead] at this
    cases this
  obtain ht | rfl := ht
  · cases t with
    | done => cases ht
    | dead =>
      rw [Scan.run_dead]
      trivial
    | plain depth =>
      have hdeeper : Scan.Deeper depth (.plain 0) (.plain depth) := by
        show Scan.plain depth = .plain (0 + depth)
        rw [Nat.zero_add]
      exact (hdeeper.run ht _).open ht hscan
    | string depth => exact h.in_string hq ht
    | escaped depth => exact h.in_string hq ht
    | closed depth =>
      show (Scan.dead.run more).Open
      rw [Scan.run_dead]
      trivial
  · show (Scan.dead.run more).Open
    rw [Scan.run_dead]
    trivial

end Enclosed

/-- Behind an object that was read, all brackets are closed. -/
theorem done_of_parse {text inner : List Char} {v : Json} (hparse : parseChars text = some v) (hstarts : text = '\x7b' :: inner) :
    (Scan.plain 0).run text = .done := by
  have hbehind := accepts_of_parse hparse
  rw [hstarts] at hbehind ⊢
  obtain hopen | hdone := Scan.run_open (.inl (show (Scan.plain 1).Open from Nat.one_pos)) inner
  · exact absurd hbehind (Scan.not_behind_of_open hopen)
  · exact hdone

/-- What is read of an object, if its first name begins with a letter. -/
theorem enclosed_of_parse {text more front : List Char} {c : Char} {v : Json} (hparse : parseChars text = some v)
    (hstarts : text = '\x7b' :: '"' :: c :: more) (hc : c.isAlpha = true) (hends : text = front ++ ['\x7d']) :
    Enclosed text where
  starts := ⟨c, more, hstarts, hc⟩
  ends := ⟨front, hends⟩
  scan := done_of_parse hparse hstarts

end RtcPlugin.Json
