import Mathlib.Logic.Relation
import RtcPlugin.Node.Guarded

/-! `ClosePeer` closes once.

Whoever deletes an entry under the mutex is the only one to close it, and what is
deleted again was stored again. `closes_once` says this of every run, whoever calls
`ClosePeer` and whatever comes between. -/
namespace RtcPlugin.Node.Locked

open PeerManager (Later)

variable {s s' : Locked} {e : Event} {es : List Event}

/-! ### Who closed what -/

/-- What a history tells of the entries that are being closed. -/
structure Closes (es : List Event) (pm : PeerManager) : Prop where
  held : ∀ k cl entry, pm.closers k = some cl → cl.phase.entry? = some entry →
    .lookup k cl.callId (some entry.pc) ∈ es ∧ entry.pc ∉ closed es
  nodup : (closed es).Nodup
  took : ∀ k p, .close k p ∈ es → ∃ callId, [.lookup k callId (some p), .close k p].Sublist es

theorem Closes.other {pm pm' : PeerManager} (hC : Closes es pm) (hlater : Later pm pm') (he : e.closed = none) :
    Closes (es ++ [e]) pm' := by
  have hclosed : closed (es ++ [e]) = closed es := filterMap_snoc_none he
  refine ⟨fun k cl' entry hk hen => ?_, by rw [hclosed]; exact hC.nodup, fun k p h => ?_⟩
  · rw [hclosed]
    obtain ⟨cl, hcl, hid, hen'⟩ | ⟨-, hnone⟩ := hlater.closers k cl' hk
    · obtain ⟨hlook, hnew⟩ := hC.held k cl entry hcl (hen'.trans hen)
      exact ⟨List.mem_append_left _ (hid ▸ hlook), hnew⟩
    · rw [hnone] at hen
      cases hen
  · obtain h | rfl := mem_snoc.mp h
    · obtain ⟨callId, hlook⟩ := hC.took k p h
      exact ⟨callId, sublist_mono hlook _⟩
    · cases he

theorem Closes.lookup {pm : PeerManager} (hE : Entries es pm) (hC : Closes es pm) (k : Nat) (cl : Closer) :
    Closes (es ++ [.lookup k cl.callId (pm.storedPc cl.callId)]) (pm.lookup k cl) := by
  have hclosed : closed (es ++ [.lookup k cl.callId (pm.storedPc cl.callId)]) = closed es := filterMap_snoc_none rfl
  refine ⟨fun k' cl' entry hk' hen => ?_, by rw [hclosed]; exact hC.nodup, fun k' p h => ?_⟩
  · rw [hclosed]
    obtain ⟨rfl, hid, hpeers⟩ | ⟨-, hold⟩ := PeerManager.lookup_entry hk' hen
    · have hfound : pm.storedPc cl.callId = some entry.pc := by rw [PeerManager.storedPc, hpeers, Option.map_some]
      rw [hid, hfound]
      refine ⟨mem_snoc.mpr (.inr rfl), fun hp => (hE.map cl.callId entry.pc hfound).2 ?_⟩
      obtain ⟨k'', hk''⟩ := mem_closed.mp hp
      obtain ⟨callId, htook⟩ := hC.took k'' entry.pc hk''
      exact mem_taken.mpr ⟨k'', callId, htook.subset List.mem_cons_self⟩
    · obtain ⟨hlook, hnew⟩ := hC.held k' cl' entry hold hen
      exact ⟨List.mem_append_left _ hlook, hnew⟩
  · obtain hold | hnew := mem_snoc.mp h
    · obtain ⟨callId, hlook⟩ := hC.took k' p hold
      exact ⟨callId, sublist_mono hlook _⟩
    · cases hnew

theorem Closes.close {pm : PeerManager} (hE : Entries es pm) (hC : Closes es pm) {k : Nat} {cl : Closer}
    {entry : PeerEntry} (hk : pm.closers k = some cl) (hph : cl.phase = .close entry) :
    Closes (es ++ [.close k entry.pc]) ((pm.closePc entry.pc).setCloser k none) := by
  obtain ⟨hlook, hnew⟩ := hC.held k cl entry hk (by rw [hph]; rfl)
  have hclosed : closed (es ++ [.close k entry.pc]) = closed es ++ [entry.pc] := filterMap_snoc_some rfl
  refine ⟨fun k' cl' entry' hk' hen => ?_, ?_, fun k' p h => ?_⟩
  · obtain ⟨hne, hk'⟩ := update_drop hk'
    obtain ⟨cl₀, hcl₀, hid, hen₀⟩ | ⟨-, hnone⟩ := (PeerManager.later_closePc pm entry.pc).closers k' cl' hk'
    · obtain ⟨hlook', hnew'⟩ := hC.held k' cl₀ entry' hcl₀ (hen₀.trans hen)
      refine ⟨List.mem_append_left _ (hid ▸ hlook'), fun hp => ?_⟩
      rw [hclosed] at hp
      obtain hp | hp := mem_snoc.mp hp
      · exact hnew' hp
      · rw [hp] at hlook'
        exact hne (hE.owner k' k _ _ entry.pc hlook' hlook)
    · rw [hnone] at hen
      cases hen
  · rw [hclosed]
    exact nodup_snoc hC.nodup hnew
  · obtain h | h := mem_snoc.mp h
    · obtain ⟨callId, hlook'⟩ := hC.took k' p h
      exact ⟨callId, sublist_mono hlook' _⟩
    · cases h
      exact ⟨cl.callId, sublist_snoc_self (List.singleton_sublist.mpr hlook) _⟩

theorem step_closes (hW : s.pm.WellFormed) (hE : Entries es s.pm) (hC : Closes es s.pm) (h : Step s e s') :
    Closes (es ++ [e]) s'.pm := by
  have hother (hl : ∀ k callId found, e ≠ .lookup k callId found) (he : e.closed = none) : Closes (es ++ [e]) s'.pm :=
    hC.other (step_later hW h hl) he
  cases h with
  | lookup => exact hC.lookup hE _ _
  | close _ _ hk hph => exact hC.close hE hk hph
  | free | lock | store | track | read | unlock | stop | returned => exact hother nofun rfl

/-! ### Channels -/

/-- What a history tells of the loopbacks. -/
structure Channels (es : List Event) (pm : PeerManager) : Prop where
  known : ∀ lb b, pm.loopbacks lb = some b → lb < pm.tracks
  map : ∀ callId entry lb, pm.peers.get? callId = some entry → entry.loopback = some lb → lb < pm.tracks
  held : ∀ k cl entry lb, pm.closers k = some cl → cl.phase.entry? = some entry → entry.loopback = some lb →
    lb < pm.tracks
  stopped : ∀ lb ∈ channels es, pm.loopbacks lb = some true
  nodup : (channels es).Nodup

theorem Channels.refl {pm : PeerManager} (hC : Channels es pm) (he : e.channel = none) : Channels (es ++ [e]) pm := by
  have hchannels : channels (es ++ [e]) = channels es := filterMap_snoc_none he
  exact ⟨hC.known, hC.map, hC.held, by rw [hchannels]; exact hC.stopped, by rw [hchannels]; exact hC.nodup⟩

theorem Channels.step {pm pm' : PeerManager} {l : PeerManager.Label} (hW : pm.WellFormed) (hC : Channels es pm)
    (h : PeerManager.Step pm l pm') (hl : ∀ p, l ≠ .track p) (hl' : ∀ k, l ≠ .stop k) : Channels es pm' := by
  obtain ⟨hloopbacks, htracks, hpeers⟩ := PeerManager.step_loopbacks h hl hl'
  constructor
  · intro lb b hlb
    rw [hloopbacks] at hlb
    rw [htracks]
    exact hC.known lb b hlb
  · intro callId entry lb hentry hlb
    rw [htracks]
    exact hC.map callId entry lb (hpeers callId entry lb hentry hlb) hlb
  · intro k cl entry lb hk hen hlb
    rw [htracks]
    obtain ⟨cl', hk', hen'⟩ | ⟨callId, hentry⟩ := PeerManager.step_entry hW h hk hen
    · exact hC.held k cl' entry lb hk' hen' hlb
    · exact hC.map callId entry lb hentry hlb
  · rw [hloopbacks]
    exact hC.stopped
  · exact hC.nodup

theorem Channels.track {pm : PeerManager} (hC : Channels es pm) (callId : String) : Channels es (pm.onTrack callId) := by
  rw [PeerManager.onTrack]
  split
  · exact hC
  · constructor
    · intro lb b hlb
      obtain ⟨rfl, -⟩ | ⟨-, hold⟩ := update_put hlb
      · exact Nat.lt_succ_self _
      · exact Nat.lt_succ_of_lt (hC.known lb b hold)
    · intro id entry lb hentry hlb
      by_cases hid : id = callId
      · rw [hid, KeyMap.get?_modify_self] at hentry
        obtain ⟨_, -, rfl⟩ := Option.map_eq_some_iff.mp hentry
        cases hlb
        exact Nat.lt_succ_self _
      · rw [KeyMap.get?_modify_ne _ _ hid] at hentry
        exact Nat.lt_succ_of_lt (hC.map id entry lb hentry hlb)
    · intro k cl entry lb hk hen hlb
      exact Nat.lt_succ_of_lt (hC.held k cl entry lb hk hen hlb)
    · intro lb hlb
      have hold := hC.stopped lb hlb
      have hne : lb ≠ pm.tracks := Nat.ne_of_lt (hC.known lb true hold)
      exact (Function.update_of_ne hne _ _).trans hold
    · exact hC.nodup

theorem Channels.stop {pm : PeerManager} (hC : Channels es pm) {k : Nat} {cl : Closer} {entry : PeerEntry}
    (hk : pm.closers k = some cl) (hph : cl.phase = .stop entry) : Channels (es ++ [.stop k (pm.stopCh entry)])
      ((pm.stopLoopback entry).setCloser k (some {cl with phase := .close entry})) := by
  have hentry : cl.phase.entry? = some entry := by rw [hph]; rfl
  have hheld (pm' : PeerManager) (hcl : pm'.closers = pm.closers) (k' : Nat) (cl' : Closer) (entry' : PeerEntry)
      (lb : Nat) (hk' : (pm'.setCloser k (some {cl with phase := .close entry})).closers k' = some cl')
      (hen : cl'.phase.entry? = some entry') (hlb : entry'.loopback = some lb) : lb < pm.tracks := by
    obtain ⟨rfl, rfl⟩ | ⟨-, hold⟩ := update_put hk'
    · exact hC.held _ cl entry' lb hk (hentry.trans hen) hlb
    · exact hC.held k' cl' entry' lb (hcl ▸ hold) hen hlb
  cases hlb : entry.loopback with
  | none =>
    have hch : pm.stopCh entry = none := by rw [PeerManager.stopCh, hlb, Option.filter_none]
    have hstop : pm.stopLoopback entry = pm := by rw [PeerManager.stopLoopback, hlb]
    have hrefl := hC.refl (show (Event.stop k none).channel = none from rfl)
    rw [hch, hstop]
    exact ⟨hrefl.known, hrefl.map, hheld pm rfl, hrefl.stopped, hrefl.nodup⟩
  | some lb =>
    have hlt : lb < pm.tracks := hC.held k cl entry lb hk hentry hlb
    have hstop : pm.stopLoopback entry = {pm with loopbacks := Function.update pm.loopbacks lb (some true)} := by
      rw [PeerManager.stopLoopback, hlb]
    rw [hstop]
    constructor
    · intro lb' b h
      obtain ⟨rfl, -⟩ | ⟨-, hold⟩ := update_put h
      · exact hlt
      · exact hC.known lb' b hold
    · exact hC.map
    · exact hheld {pm with loopbacks := Function.update pm.loopbacks lb (some true)} rfl
    · intro lb' h
      show Function.update pm.loopbacks lb (some true) lb' = some true
      by_cases hne : lb' = lb
      · rw [hne, Function.update_self]
      · rw [Function.update_of_ne hne]
        obtain ⟨e, he, hch⟩ := List.mem_filterMap.mp h
        obtain he | rfl := mem_snoc.mp he
        · exact hC.stopped lb' (List.mem_filterMap.mpr ⟨e, he, hch⟩)
        · have hsome : entry.loopback = some lb' := (Option.filter_eq_some_iff.mp hch).1
          rw [hlb] at hsome
          exact absurd (Option.some.inj hsome).symm hne
    · refine nodup_filterMap_snoc hC.nodup fun lb' hch hmem => ?_
      have hfalse := (Option.filter_eq_some_iff.mp hch).2
      rw [hC.stopped lb' hmem] at hfalse
      exact absurd hfalse (by decide)

theorem step_channels (hW : s.pm.WellFormed) (hC : Channels es s.pm) (h : Step s e s') :
    Channels (es ++ [e]) s'.pm := by
  cases h with
  | free hl hfree =>
    apply (hC.step hW hl ?_ ?_).refl rfl
    · intro p hp
      rw [hp] at hfree
      cases hfree
    · intro k hk
      rw [hk] at hfree
      cases hfree
  | lock => exact lock_pm s _ ▸ hC.refl rfl
  | store _ hc hst => exact (hC.step hW (.store hc hst) nofun nofun).refl rfl
  | track => exact (hC.track _).refl rfl
  | lookup _ hk hph => exact (hC.step hW (.lookup hk hph) nofun nofun).refl rfl
  | stop _ hk hph => exact hC.stop hk hph
  | close _ _ hk hph => exact (hC.step hW (.close hk hph) nofun nofun).refl rfl
  | read | unlock | returned => exact hC.refl rfl

/-! ### Calls made by calls -/

/-- The call `n` was made by `k`, when that closed the connection `p` of its call. -/
structure MadeBy (es : List Event) (pm : PeerManager) (n k : Nat) (callId : String) (p : Nat) : Prop where
  looked : .lookup k callId (some p) ∈ es
  closed : .close k p ∈ es
  running : ∀ cl, pm.closers n = some cl → cl.callId = callId
  finds : ∀ callId' found, .lookup n callId' found ∈ es → callId' = callId ∧ ∀ q, found = some q →
    [.lookup k callId (some p), .store callId q, .lookup n callId (some q)].Sublist es

/-- What a history tells of the calls that calls made. -/
structure Nested (es : List Event) (s : Locked) : Prop where
  made : ∀ n k, s.parent n = some k → ∃ callId p, MadeBy es s.pm n k callId p
  single : ∀ n n' k, s.parent n = some k → s.parent n' = some k → n = n'

theorem MadeBy.other {pm pm' : PeerManager} {n k p : Nat} {callId : String} (hM : MadeBy es pm n k callId p)
    (hlater : Later pm pm') (hn : n < pm.spawned) (he : ∀ k callId found, e ≠ .lookup k callId found) :
    MadeBy (es ++ [e]) pm' n k callId p := by
  refine ⟨List.mem_append_left _ hM.looked, List.mem_append_left _ hM.closed, fun cl' hk => ?_, fun id found h => ?_⟩
  · obtain ⟨cl, hcl, hid, -⟩ | ⟨hge, -⟩ := hlater.closers n cl' hk
    · exact hid.symm.trans (hM.running cl hcl)
    · omega
  · obtain ⟨hid, hfound⟩ := hM.finds id found ((mem_snoc.mp h).resolve_right fun he' => he _ _ _ he'.symm)
    exact ⟨hid, fun q hq => sublist_mono (hfound q hq) e⟩

/-- What it finds was stored since: when `k` had looked, nothing was left. -/
theorem MadeBy.lookup {pm : PeerManager} (hE : Entries es pm) {n k p j : Nat} {callId : String} {cl : Closer}
    (hM : MadeBy es pm n k callId p) (hj : pm.closers j = some cl) :
    MadeBy (es ++ [.lookup j cl.callId (pm.storedPc cl.callId)]) (pm.lookup j cl) n k callId p := by
  refine ⟨List.mem_append_left _ hM.looked, List.mem_append_left _ hM.closed, fun cl' hk => ?_, fun id found h => ?_⟩
  · rw [PeerManager.lookup_closers] at hk
    obtain ⟨rfl, hcl⟩ | ⟨-, hold⟩ := update_some hk
    · obtain ⟨entry, -, rfl⟩ := Option.map_eq_some_iff.mp hcl
      exact hM.running cl hj
    · exact hM.running cl' hold
  · obtain hold | hnew := mem_snoc.mp h
    · obtain ⟨hid, hfound⟩ := hM.finds id found hold
      exact ⟨hid, fun q hq => sublist_mono (hfound q hq) _⟩
    · cases hnew
      have hid := hM.running cl hj
      refine ⟨hid, fun q hq => ?_⟩
      rw [hq, hid]
      rw [hid] at hq
      exact sublist_snoc_self (hE.order k callId (some p) q hM.looked hq) _

theorem Nested.close (hW : s.pm.WellFormed) (hE : Entries es s.pm) (hC : Closes es s.pm) (hG : Guarded s)
    (hN : Nested es s) {k : Nat} {cl : Closer} {entry : PeerEntry} (hk : s.pm.closers k = some cl)
    (hph : cl.phase = .close entry) (waits : Bool) :
    Nested (es ++ [.close k entry.pc]) (s.close k entry.pc waits) := by
  have hlater := PeerManager.step_later hW (.close hk hph) fun _ hl => by cases hl
  obtain ⟨hlook, hnew⟩ := hC.held k cl entry hk (by rw [hph]; rfl)
  -- It has closed nothing yet, so it has made no call.
  have hchildless (n : Nat) : s.parent n ≠ some k := by
    intro h
    obtain ⟨callId, p, hM⟩ := hN.made n k h
    obtain ⟨-, hp⟩ := hE.once k callId cl.callId _ _ hM.looked hlook
    cases hp
    exact hnew (mem_closed.mpr ⟨k, hM.closed⟩)
  constructor
  · intro n j h
    obtain hold | ⟨rfl, hcb⟩ := close_parent h
    · obtain ⟨callId, p, hM⟩ := hN.made n j hold
      exact ⟨callId, p, hM.other hlater (hG.child_lt hold) fun _ _ _ he => by cases he⟩
    · obtain ⟨rfl, c, hc, hclose, hreg⟩ := callback_eq hcb
      refine ⟨cl.callId, entry.pc, List.mem_append_left _ hlook, mem_snoc.mpr (.inr rfl), fun cl' h' => ?_, ?_⟩
      · obtain ⟨-, h'⟩ := update_drop h'
        rw [hclose, PeerManager.changeState, if_pos hreg] at h'
        obtain ⟨-, rfl⟩ | ⟨hne, -⟩ := update_put h'
        · obtain ⟨c', hc', hid, -⟩ := hE.conn j cl.callId entry.pc hlook
          rw [hc] at hc'
          cases hc'
          exact hid
        · exact absurd rfl hne
      · intro id found h'
        obtain hold | hnew := mem_snoc.mp h'
        · exact absurd (hE.looked _ id found hold).1 (Nat.lt_irrefl _)
        · cases hnew
  · intro n n' j h h'
    obtain hold | ⟨rfl, hcb⟩ := close_parent h
    · obtain hold' | ⟨rfl, -⟩ := close_parent h'
      · exact hN.single n n' j hold hold'
      · exact absurd hold (hchildless n)
    · obtain hold' | ⟨-, hcb'⟩ := close_parent h'
      · exact absurd hold' (hchildless n')
      · exact Option.some.inj (hcb.symm.trans hcb')

theorem step_nested (hW : s.pm.WellFormed) (hE : Entries es s.pm) (hC : Closes es s.pm) (hG : Guarded s)
    (hN : Nested es s) (h : Step s e s') : Nested (es ++ [e]) s' := by
  have hother (hl : ∀ k callId found, e ≠ .lookup k callId found) (hparent : s'.parent = s.parent) :
      Nested (es ++ [e]) s' := by
    refine ⟨fun n k hn => ?_, hparent ▸ hN.single⟩
    rw [hparent] at hn
    obtain ⟨callId, p, hM⟩ := hN.made n k hn
    exact ⟨callId, p, hM.other (step_later hW h hl) (hG.child_lt hn) hl⟩
  cases h with
  | lookup _ hk =>
    refine ⟨fun n k hn => ?_, hN.single⟩
    obtain ⟨callId, p, hM⟩ := hN.made n k hn
    exact ⟨callId, p, hM.lookup hE hk⟩
  | close waits _ hk hph => exact hN.close hW hE hC hG hk hph waits
  | @lock holder =>
    apply hother nofun
    cases holder <;> rfl
  | free | store | track | read | unlock | stop | returned => exact hother nofun rfl

/-! ### Closing once -/

/-- The call `n` is `k`, or runs inside of it. -/
def Within (s : Locked) : Nat → Nat → Prop := Relation.ReflTransGen fun n k => s.parent n = some k

structure ClosesOnce (es : List Event) (s : Locked) : Prop where
  /-- No entry is taken out twice. -/
  taken_once : (taken es).Nodup
  /-- A stored entry was taken out once when a call has looked for it, unless another
  one was stored in its place before. -/
  taken_stored : ∀ callId p k found, [.store callId p, .lookup k callId found].Sublist es → (taken es).count p = 1 ∨
    ∃ q, [.store callId p, .store callId q, .lookup k callId found].Sublist es
  /-- No connection of an entry is closed twice. -/
  closed_once : (closed es).Nodup
  /-- It is closed by the call that took the entry out. -/
  closed_taken : ∀ k p, .close k p ∈ es → ∃ callId, [.lookup k callId (some p), .close k p].Sublist es
  /-- No channel is closed twice. -/
  channel_once : (channels es).Nodup
  /-- Outside of its critical section — before `Lock`, at `Stop`, at and in `pc.Close` —
  neither a call nor one that it runs inside of has the mutex. -/
  mutex_free : ∀ k, (s.points k).inside = false → ∀ j, Within s k j → s.mutex ≠ some (.closePeer j)
  /-- While a call is running, a call or who has the mutex can go on. -/
  goes_on : ∀ k < s.pm.spawned, s.points k ≠ .done → GoesOn s
  /-- A call makes one other at most. -/
  nested_once : ∀ n n' k, s.parent n = some k → s.parent n' = some k → n = n'
  /-- One that finds nothing makes none. -/
  missing_last : ∀ n k callId, .lookup k callId none ∈ es → s.parent n ≠ some k
  /-- What a call made by another one finds was stored after that one looked. -/
  nested_found : ∀ n k callId q, s.parent n = some k → .lookup n callId (some q) ∈ es →
    ∃ p, [.lookup k callId (some p), .store callId q, .lookup n callId (some q)].Sublist es
  /-- So a call is nested in a nested one only if its identifier was stored in between. -/
  nested_twice : ∀ m n k, s.parent m = some n → s.parent n = some k → ∃ callId p q,
    [.lookup k callId (some p), .store callId q, .lookup n callId (some q)].Sublist es

/-- What every history tells. -/
structure Recorded (es : List Event) (s : Locked) : Prop where
  entries : Entries es s.pm
  closes : Closes es s.pm
  channels : Channels es s.pm
  guarded : Guarded s
  lively : Lively s
  nested : Nested es s

theorem run_recorded {loopbackSec : Nat} (h : (system loopbackSec).Run es s) : Recorded es s := by
  refine h.invariant (I := Recorded) ?_ fun es s e s' hrun hR hstep => ?_
  · intro s hs
    obtain rfl : s = new loopbackSec := hs
    constructor <;> constructor <;> intros <;> simp_all [taken, closed, Locked.channels, new, PeerManager.new,
      PeerManager.storedPc, Point.inside]
  · have hW := run_wellFormed hrun
    exact
      { entries := step_entries hW hR.entries hstep
        closes := step_closes hW hR.entries hR.closes hstep
        channels := step_channels hW hR.channels hstep
        guarded := step_guarded hW hR.guarded hstep
        lively := step_lively hW hR.guarded hR.lively hstep
        nested := step_nested hW hR.entries hR.closes hR.guarded hR.nested hstep }

/-- A call that others run inside of is past its critical section. -/
theorem within_mutex (hG : Guarded s) {k j : Nat} (hk : (s.points k).inside = false) (h : Within s k j) :
    s.mutex ≠ some (.closePeer j) := by
  rw [ne_eq, hG.holds]
  cases h with
  | refl =>
    rw [hk]
    exact nofun
  | tail _ hj =>
    have hclosed := hG.outer _ _ hj
    cases hp : s.points j with
    | lock | unlocked | closing | done => exact nofun
    | locked | unlock =>
      rw [hp] at hclosed
      cases hclosed

/-- **`ClosePeer` closes once**, in every run of the manager, and the chain of the calls
that its own closing makes ends with the first that finds nothing. -/
theorem closes_once {loopbackSec : Nat} (h : (system loopbackSec).Run es s) : ClosesOnce es s := by
  obtain ⟨hE, hC, hCh, hG, hL, hN⟩ := run_recorded h
  have hfound {n k q : Nat} {callId : String} (hn : s.parent n = some k) (hq : .lookup n callId (some q) ∈ es) :
      ∃ p, [.lookup k callId (some p), .store callId q, .lookup n callId (some q)].Sublist es := by
    obtain ⟨id, p, hM⟩ := hN.made n k hn
    obtain ⟨rfl, hsub⟩ := hM.finds callId (some q) hq
    exact ⟨p, hsub q rfl⟩
  exact
    { taken_once := hE.nodup
      taken_stored := fun callId p k found h => (hE.found callId p k found h).imp_left (List.count_eq_one_of_mem hE.nodup)
      closed_once := hC.nodup
      closed_taken := hC.took
      channel_once := hCh.nodup
      mutex_free := fun k hk j hj => within_mutex hG hk hj
      goes_on := fun k hk hdone => Locked.goes_on hG hL hk hdone
      nested_once := hN.single
      missing_last := by
        intro n k callId hnone hn
        obtain ⟨id, p, hM⟩ := hN.made n k hn
        obtain ⟨-, hp⟩ := hE.once k callId id _ _ hnone hM.looked
        cases hp
      nested_found := fun n k callId q => hfound
      nested_twice := by
        intro m n k hm hn
        obtain ⟨callId, q, hM⟩ := hN.made m n hm
        obtain ⟨p, hsub⟩ := hfound hn hM.looked
        exact ⟨callId, p, q, hsub⟩ }

/-- A call with a loopback is hung up, and the callback runs inside of `pc.Close`. -/
theorem closes_once_hangup : ∃ s, (system 5).Run
    [.free (.accept "call-0001"), .free (.register 0), .lock (.acceptCall 0), .store "call-0001" 0, .lock (.onTrack 0),
      .track 0, .free (.hangup "call-0001"), .lock (.closePeer 0), .lookup 0 "call-0001" (some 0),
      .unlock (.closePeer 0), .stop 0 (some 0), .close 0 0, .lock (.closePeer 1), .lookup 1 "call-0001" none,
      .unlock (.closePeer 1), .returned 0] s ∧ s.parent 1 = some 0 ∧ ClosesOnce
    [.free (.accept "call-0001"), .free (.register 0), .lock (.acceptCall 0), .store "call-0001" 0, .lock (.onTrack 0),
      .track 0, .free (.hangup "call-0001"), .lock (.closePeer 0), .lookup 0 "call-0001" (some 0),
      .unlock (.closePeer 0), .stop 0 (some 0), .close 0 0, .lock (.closePeer 1), .lookup 1 "call-0001" none,
      .unlock (.closePeer 1), .returned 0] s := by
  have h₀ : (system 5).Run [] (new 5) := .nil rfl
  have h₁ := h₀.snoc (show Step _ (.free (.accept "call-0001")) _ from .free (.accept (by decide)) rfl nofun)
  have h₂ := h₁.snoc (show Step _ (.free (.register 0)) _ from .free (.register rfl rfl) rfl nofun)
  have h₃ := h₂.snoc (show Step _ (.lock (.acceptCall 0)) _ from .lock rfl ⟨_, rfl, rfl⟩)
  have h₄ := h₃.snoc (show Step _ (.store "call-0001" 0) _ from
    @Step.store _ 0 {callId := "call-0001", stage := .negotiating, registered := true} rfl rfl rfl)
  have h₅ := h₄.snoc (show Step _ (.lock (.onTrack 0)) _ from .lock rfl ⟨by decide, _, rfl, rfl⟩)
  have h₆ := h₅.snoc (show Step _ (.track 0) _ from .track rfl rfl rfl)
  have h₇ := h₆.snoc (show Step _ (.free (.hangup "call-0001")) _ from .free .hangup rfl nofun)
  have h₈ := h₇.snoc (show Step _ (.lock (.closePeer 0)) _ from .lock rfl ⟨rfl, _, rfl⟩)
  have h₉ := h₈.snoc (show Step _ (.lookup 0 "call-0001" (some 0)) _ from
    @Step.lookup _ 0 ⟨"call-0001", none, .lookup⟩ rfl rfl rfl)
  have h₁₀ := h₉.snoc (show Step _ (.unlock (.closePeer 0)) _ from .unlock rfl)
  have h₁₁ := h₁₀.snoc (show Step _ (.stop 0 (some 0)) _ from
    @Step.stop _ 0 ⟨"call-0001", none, .stop ⟨0, some 0⟩⟩ ⟨0, some 0⟩ rfl rfl rfl)
  have h₁₂ := h₁₁.snoc (show Step _ (.close 0 0) _ from
    @Step.close _ 0 ⟨"call-0001", none, .close ⟨0, some 0⟩⟩ ⟨0, some 0⟩ true rfl rfl rfl)
  have h₁₃ := h₁₂.snoc (show Step _ (.lock (.closePeer 1)) _ from .lock rfl ⟨rfl, _, rfl⟩)
  have h₁₄ := h₁₃.snoc (show Step _ (.lookup 1 "call-0001" none) _ from
    @Step.lookup _ 1 ⟨"call-0001", some 0, .lookup⟩ rfl rfl rfl)
  have h₁₅ := h₁₄.snoc (show Step _ (.unlock (.closePeer 1)) _ from .unlock rfl)
  have h₁₆ := h₁₅.snoc (show Step _ (.returned 0) _ from .returned rfl fun n hn => Option.some.inj hn ▸ rfl)
  exact ⟨_, h₁₆, rfl, closes_once h₁₆⟩

end RtcPlugin.Node.Locked
