import RtcPlugin.Node.Locked
import RtcPlugin.System.History

/-! Which entries were stored in the manager's map and taken out of it.

A history is the list of what was done. What a step leaves as it is is said once
(`step_later`), and from it what every history tells of the map: an entry is taken
out once, and what is found there was stored since somebody looked last (`Entries`). -/
namespace RtcPlugin.Node
namespace PeerManager

/-! ### What a step leaves as it is -/

/-- The same manager later: connections move on, a call keeps its entry while it runs,
and a new one has none. -/
structure Later (pm pm' : PeerManager) : Prop where
  conns : Grown pm.conns pm'.conns
  spawned : pm.spawned ≤ pm'.spawned
  closers : ∀ k cl', pm'.closers k = some cl' →
    (∃ cl, pm.closers k = some cl ∧ cl.callId = cl'.callId ∧ cl.phase.entry? = cl'.phase.entry?) ∨
      pm.spawned ≤ k ∧ cl'.phase.entry? = none

variable {pm pm' pm'' : PeerManager}

theorem Grown.refl (conns : Nat → Option Conn) : Grown conns conns := fun _ c hc => ⟨c, hc, rfl, id⟩

theorem Grown.trans {a b c : Nat → Option Conn} (h : Grown a b) (h' : Grown b c) : Grown a c := by
  intro p x hx
  obtain ⟨y, hy, hxy⟩ := h p x hx
  obtain ⟨z, hz, hyz⟩ := h' p y hy
  exact ⟨z, hz, hyz.callId.trans hxy.callId, fun hs => hyz.stored (hxy.stored hs)⟩

/-- The calls are the same, with other connections. -/
theorem Later.ofConns (hc : Grown pm.conns pm'.conns) (hs : pm'.spawned = pm.spawned) (hk : pm'.closers = pm.closers) :
    Later pm pm' :=
  ⟨hc, Nat.le_of_eq hs.symm, fun _ cl' h => .inl ⟨cl', hk ▸ h, rfl, rfl⟩⟩

theorem Later.refl (pm : PeerManager) : Later pm pm := .ofConns (.refl _) rfl rfl

theorem Later.trans (h : Later pm pm') (h' : Later pm' pm'') : Later pm pm'' := by
  refine ⟨h.conns.trans h'.conns, Nat.le_trans h.spawned h'.spawned, fun k cl'' hk => ?_⟩
  obtain ⟨cl', hk', hid', hen'⟩ | ⟨hnew, hen⟩ := h'.closers k cl'' hk
  · obtain ⟨cl, hcl, hid, hen⟩ | ⟨hnew, hen⟩ := h.closers k cl' hk'
    · exact .inl ⟨cl, hcl, hid.trans hid', hen.trans hen'⟩
    · exact .inr ⟨hnew, hen'.symm.trans hen⟩
  · exact .inr ⟨Nat.le_trans h.spawned hnew, hen⟩

theorem later_spawn (pm : PeerManager) (callId : String) (cause : Option Nat) : Later pm (pm.spawn callId cause) := by
  refine ⟨.refl _, Nat.le_succ _, fun k cl' hk => ?_⟩
  obtain ⟨rfl, rfl⟩ | ⟨-, hk⟩ := update_put hk
  · exact .inr ⟨Nat.le_refl _, rfl⟩
  · exact .inl ⟨cl', hk, rfl, rfl⟩

theorem later_changeState {p : Nat} {c : Conn} (hc : pm.conns p = some c) (st : PcState) :
    Later pm (pm.changeState p c st) := by
  have hconns : Later pm {pm with conns := Function.update pm.conns p (some {c with state := st})} :=
    .ofConns (grown_update hc ⟨rfl, id⟩) rfl rfl
  rw [changeState]
  split
  · exact hconns.trans (later_spawn _ _ _)
  · exact hconns

theorem later_closePc (pm : PeerManager) (p : Nat) : Later pm (pm.closePc p) := by
  rw [closePc]
  split
  · next c hc =>
    split
    · exact .refl pm
    · exact later_changeState hc .closed
  · exact .refl pm

/-- A call ends, or goes on with the entry it has. -/
theorem later_setCloser {k : Nat} {v : Option Closer} (hv : ∀ cl', v = some cl' → ∃ cl, pm.closers k = some cl ∧
    cl.callId = cl'.callId ∧ cl.phase.entry? = cl'.phase.entry?) : Later pm (pm.setCloser k v) := by
  refine ⟨.refl _, Nat.le_refl _, fun k' cl' hk' => ?_⟩
  obtain ⟨rfl, hv'⟩ | ⟨-, hk'⟩ := update_some hk'
  · exact .inl (hv cl' hv')
  · exact .inl ⟨cl', hk', rfl, rfl⟩

theorem later_stopLoopback (pm : PeerManager) (entry : PeerEntry) : Later pm (pm.stopLoopback entry) := by
  obtain ⟨hconns, hspawned, hclosers, -, -⟩ := stopLoopback_same pm entry
  exact .ofConns (hconns ▸ .refl _) hspawned hclosers

theorem step_later {l : Label} (hW : WellFormed pm) (h : Step pm l pm') (hl : ∀ k, l ≠ .lookup k) : Later pm pm' := by
  cases h with
  | @accept callId =>
    refine .ofConns (fun p c hc => ⟨c, ?_, rfl, id⟩) rfl rfl
    exact (Function.update_of_ne (Nat.ne_of_lt (hW.created p c hc)) _ _).trans hc
  | @register p c hc hst => exact .ofConns (grown_update hc ⟨rfl, fun hs => by rw [hst] at hs; cases hs⟩) rfl rfl
  | @acceptFails p c hc hfin =>
    have hc' := closePc_conns hc
    have hstage : Later (pm.closePc p) ((pm.closePc p).setStage p .failed) := by
      rw [setStage_eq hc']
      exact .ofConns (grown_update hc' ⟨rfl, fun hs => by rw [show c.stage = .stored from hs] at hfin; cases hfin⟩) rfl rfl
    exact (later_closePc pm p).trans hstage
  | @store p c hc hst =>
    refine .ofConns ?_ rfl rfl
    show Grown pm.conns (pm.setStage p .stored).conns
    rw [setStage_eq hc]
    exact grown_update hc ⟨rfl, fun _ => rfl⟩
  | stateChange hc _ => exact later_changeState hc _
  | track =>
    obtain ⟨hconns, -, hclosers, hspawned⟩ := onTrack_same pm _
    exact .ofConns (hconns ▸ .refl _) hspawned hclosers
  | hangup => exact later_spawn _ _ _
  | lookup => exact absurd rfl (hl _)
  | @stop k cl entry hk hph =>
    refine (later_stopLoopback pm entry).trans (later_setCloser fun cl' h => ?_)
    cases h
    exact ⟨cl, by rw [(stopLoopback_same pm entry).2.2.1, hk], rfl, by rw [hph]; rfl⟩
  | close => exact (later_closePc pm _).trans (later_setCloser nofun)

/-- Only a store and a lookup change which connection is in the map for a call. -/
theorem step_storedPc {l : Label} (h : Step pm l pm') (hl : ∀ k, l ≠ .lookup k) (hl' : ∀ p, l ≠ .store p) (id : String) :
    pm'.storedPc id = pm.storedPc id := by
  cases h with
  | accept | register | hangup => rfl
  | stateChange => rw [storedPc, (changeState_same pm _ _ _).2.2, storedPc]
  | acceptFails | close =>
    show ((pm.closePc _).peers.get? id).map _ = _
    rw [(closePc_same pm _).2.2, storedPc]
  | store => exact absurd rfl (hl' _)
  | lookup => exact absurd rfl (hl _)
  | track => exact storedPc_onTrack _ _ _
  | stop =>
    show ((stopLoopback pm _).peers.get? id).map _ = _
    rw [(stopLoopback_same pm _).2.2.2.1, storedPc]

/-- A call that has an entry after a lookup had it before, or has just found it. -/
theorem lookup_entry {k k' : Nat} {cl cl' : Closer} {entry : PeerEntry}
    (h : (pm.lookup k cl).closers k' = some cl') (hen : cl'.phase.entry? = some entry) :
    k' = k ∧ cl'.callId = cl.callId ∧ pm.peers.get? cl.callId = some entry ∨ k' ≠ k ∧ pm.closers k' = some cl' := by
  rw [lookup_closers] at h
  obtain ⟨rfl, hcl⟩ | hold := update_some h
  · obtain ⟨entry', hpeers, rfl⟩ := Option.map_eq_some_iff.mp hcl
    cases hen
    exact .inl ⟨rfl, rfl, hpeers⟩
  · exact .inr hold

/-- The entry of a call was its entry before, or is one from the map. -/
theorem step_entry {l : Label} (hW : WellFormed pm) (h : Step pm l pm') {k : Nat} {cl' : Closer} {entry : PeerEntry}
    (hk : pm'.closers k = some cl') (hen : cl'.phase.entry? = some entry) :
    (∃ cl, pm.closers k = some cl ∧ cl.phase.entry? = some entry) ∨ ∃ callId, pm.peers.get? callId = some entry := by
  have hother (hl : ∀ k, l ≠ .lookup k) : ∃ cl, pm.closers k = some cl ∧ cl.phase.entry? = some entry := by
    obtain ⟨cl, hcl, -, hen'⟩ | ⟨-, hnone⟩ := (step_later hW h hl).closers k cl' hk
    · exact ⟨cl, hcl, hen'.trans hen⟩
    · rw [hnone] at hen
      cases hen
  cases h with
  | lookup hk' hph =>
    obtain ⟨-, -, hpeers⟩ | ⟨-, hold⟩ := lookup_entry hk hen
    · exact .inr ⟨_, hpeers⟩
    · exact .inl ⟨cl', hold, hen⟩
  | accept | register | acceptFails | store | stateChange | track | hangup | stop | close => exact .inl (hother nofun)

/-- Loopbacks appear with tracks and change by `Stop`. -/
theorem step_loopbacks {l : Label} (h : Step pm l pm') (hl : ∀ p, l ≠ .track p) (hl' : ∀ k, l ≠ .stop k) :
    pm'.loopbacks = pm.loopbacks ∧ pm'.tracks = pm.tracks ∧ ∀ callId entry lb, pm'.peers.get? callId = some entry →
      entry.loopback = some lb → pm.peers.get? callId = some entry := by
  cases h with
  | accept | register | hangup => exact ⟨rfl, rfl, fun _ _ _ h _ => h⟩
  | stateChange =>
    obtain ⟨hlb, htr, hpeers⟩ := changeState_same pm _ _ _
    exact ⟨hlb, htr, fun _ _ _ h _ => hpeers ▸ h⟩
  | acceptFails | close =>
    obtain ⟨hlb, htr, hpeers⟩ := closePc_same pm _
    exact ⟨hlb, htr, fun _ _ _ h _ => hpeers ▸ h⟩
  | store =>
    refine ⟨rfl, rfl, fun callId entry lb h hlb => ?_⟩
    obtain ⟨-, rfl⟩ | ⟨-, hold⟩ := KeyMap.get?_set_some h
    · cases hlb
    · exact hold
  | track => exact absurd rfl (hl _)
  | @lookup k cl =>
    obtain ⟨-, -, hlb, htr⟩ := lookup_same pm k cl
    refine ⟨hlb, htr, fun callId entry _ h _ => ?_⟩
    rw [lookup] at h
    split at h
    · exact (KeyMap.get?_delete_some h).2
    · exact h
  | stop => exact absurd rfl (hl' _)

end PeerManager

namespace Locked

open PeerManager (Later)

/-! ### What a history says -/

/-- The connection of the entry that was taken out. -/
def Event.taken : Event → Option Nat
  | .lookup _ _ found => found
  | .free _ | .lock _ | .unlock _ | .store _ _ | .track _ | .stop _ _ | .close _ _ | .returned _ => none

/-- The connection that was closed. -/
def Event.closed : Event → Option Nat
  | .close _ p => some p
  | .free _ | .lock _ | .unlock _ | .store _ _ | .track _ | .lookup _ _ _ | .stop _ _ | .returned _ => none

/-- The channel that was closed. -/
def Event.channel : Event → Option Nat
  | .stop _ channel => channel
  | .free _ | .lock _ | .unlock _ | .store _ _ | .track _ | .lookup _ _ _ | .close _ _ | .returned _ => none

/-- Whether it puts an entry into the map or takes one out. -/
def Event.entries : Event → Bool
  | .store _ _ | .lookup _ _ _ => true
  | .free _ | .lock _ | .unlock _ | .track _ | .stop _ _ | .close _ _ | .returned _ => false

def taken (es : List Event) : List Nat := es.filterMap Event.taken

def closed (es : List Event) : List Nat := es.filterMap Event.closed

def channels (es : List Event) : List Nat := es.filterMap Event.channel

variable {s s' : Locked} {e : Event} {es : List Event}

theorem mem_taken {p : Nat} : p ∈ taken es ↔ ∃ k callId, Event.lookup k callId (some p) ∈ es := by
  rw [taken, List.mem_filterMap]
  constructor
  · intro ⟨e, he, hp⟩
    cases e with
    | lookup k callId found =>
      obtain rfl : found = some p := hp
      exact ⟨k, callId, he⟩
    | _ => cases hp
  · intro ⟨k, callId, he⟩
    exact ⟨_, he, rfl⟩

theorem mem_closed {p : Nat} : p ∈ closed es ↔ ∃ k, Event.close k p ∈ es := by
  rw [closed, List.mem_filterMap]
  constructor
  · intro ⟨e, he, hp⟩
    cases e with
    | close k q =>
      obtain rfl : q = p := Option.some.inj hp
      exact ⟨k, he⟩
    | _ => cases hp
  · intro ⟨k, he⟩
    exact ⟨_, he, rfl⟩

theorem taken_mono {p : Nat} (h : p ∈ taken es) (e : Event) : p ∈ taken (es ++ [e]) := by
  obtain ⟨k, callId, hp⟩ := mem_taken.mp h
  exact mem_taken.mpr ⟨k, callId, List.mem_append_left _ hp⟩

/-- A lookup of the manager is the lookup of a call, not a step outside of the mutex. -/
theorem coarse_lookup {k : Nat} (h : Step s e s') (he : e.coarse = some (.lookup k)) :
    ∃ callId found, e = .lookup k callId found := by
  cases h with
  | free _ hfree =>
    cases he
    cases hfree
  | lookup =>
    cases he
    exact ⟨_, _, rfl⟩
  | lock | store | track | read | unlock | stop | close | returned => cases he

theorem coarse_store {p : Nat} (h : Step s e s') (he : e.coarse = some (.store p)) : ∃ callId, e = .store callId p := by
  cases h with
  | free _ hfree =>
    cases he
    cases hfree
  | store =>
    cases he
    exact ⟨_, rfl⟩
  | lock | lookup | track | read | unlock | stop | close | returned => cases he

theorem step_later (hW : s.pm.WellFormed) (h : Step s e s') (he : ∀ k callId found, e ≠ .lookup k callId found) :
    Later s.pm s'.pm := by
  have hcoarse := step_coarse h
  cases hl : e.coarse with
  | none =>
    rw [hl] at hcoarse
    exact (show s'.pm = s.pm from hcoarse) ▸ Later.refl s.pm
  | some l =>
    rw [hl] at hcoarse
    refine PeerManager.step_later hW hcoarse fun k hk => ?_
    obtain ⟨callId, found, hlookup⟩ := coarse_lookup h (hk ▸ hl)
    exact he k callId found hlookup

theorem step_storedPc (h : Step s e s') (he : e.entries = false) (id : String) :
    s'.pm.storedPc id = s.pm.storedPc id := by
  have hcoarse := step_coarse h
  cases hl : e.coarse with
  | none =>
    rw [hl] at hcoarse
    rw [show s'.pm = s.pm from hcoarse]
  | some l =>
    rw [hl] at hcoarse
    apply PeerManager.step_storedPc hcoarse
    · intro k hk
      obtain ⟨callId, found, rfl⟩ := coarse_lookup h (hk ▸ hl)
      cases he
    · intro p hp
      obtain ⟨callId, rfl⟩ := coarse_store h (hp ▸ hl)
      cases he

/-! ### Who took out what -/

/-- What a history tells of the map and of those that looked into it. -/
structure Entries (es : List Event) (pm : PeerManager) : Prop where
  looked : ∀ k callId found, .lookup k callId found ∈ es →
    k < pm.spawned ∧ ∀ cl, pm.closers k = some cl → cl.phase.entry? ≠ none
  once : ∀ k callId callId' found found', .lookup k callId found ∈ es → .lookup k callId' found' ∈ es →
    callId = callId' ∧ found = found'
  owner : ∀ k k' callId callId' p, .lookup k callId (some p) ∈ es → .lookup k' callId' (some p) ∈ es → k = k'
  nodup : (taken es).Nodup
  conn : ∀ k callId p, .lookup k callId (some p) ∈ es →
    ∃ c, pm.conns p = some c ∧ c.callId = callId ∧ c.stage = .stored
  map : ∀ callId p, pm.storedPc callId = some p → .store callId p ∈ es ∧ p ∉ taken es
  order : ∀ k callId found p, .lookup k callId found ∈ es → pm.storedPc callId = some p →
    [.lookup k callId found, .store callId p].Sublist es
  stored : ∀ callId p, .store callId p ∈ es → p ∈ taken es ∨ pm.storedPc callId = some p ∨
    ∃ q, [.store callId p, .store callId q].Sublist es
  found : ∀ callId p k found, [.store callId p, .lookup k callId found].Sublist es → p ∈ taken es ∨
    ∃ q, [.store callId p, .store callId q, .lookup k callId found].Sublist es

theorem Entries.other {pm pm' : PeerManager} (hE : Entries es pm) (hlater : Later pm pm')
    (hmap : ∀ callId, pm'.storedPc callId = pm.storedPc callId) (he : e.entries = false) : Entries (es ++ [e]) pm' := by
  have hlookup {k callId found} (h : .lookup k callId found ∈ es ++ [e]) : .lookup k callId found ∈ es := by
    obtain h | rfl := mem_snoc.mp h
    · exact h
    · cases he
  have hstore {callId p} (h : .store callId p ∈ es ++ [e]) : .store callId p ∈ es := by
    obtain h | rfl := mem_snoc.mp h
    · exact h
    · cases he
  have htaken : taken (es ++ [e]) = taken es := filterMap_snoc_none (by cases e <;> first | rfl | cases he)
  constructor
  · intro k callId found h
    obtain ⟨hlt, hcl⟩ := hE.looked k callId found (hlookup h)
    refine ⟨Nat.lt_of_lt_of_le hlt hlater.spawned, fun cl' hk hnone => ?_⟩
    obtain ⟨cl, hk', -, hen⟩ | ⟨hge, -⟩ := hlater.closers k cl' hk
    · exact hcl cl hk' (hen.trans hnone)
    · omega
  · intro k callId callId' found found' h h'
    exact hE.once k callId callId' found found' (hlookup h) (hlookup h')
  · intro k k' callId callId' p h h'
    exact hE.owner k k' callId callId' p (hlookup h) (hlookup h')
  · rw [htaken]
    exact hE.nodup
  · intro k callId p h
    obtain ⟨c, hc, hid, hst⟩ := hE.conn k callId p (hlookup h)
    obtain ⟨c', hc', hgrows⟩ := hlater.conns p c hc
    exact ⟨c', hc', hgrows.callId.trans hid, hgrows.stored hst⟩
  · intro callId p h
    rw [hmap] at h
    rw [htaken]
    exact ⟨List.mem_append_left _ (hE.map callId p h).1, (hE.map callId p h).2⟩
  · intro k callId found p h hp
    rw [hmap] at hp
    exact sublist_mono (hE.order k callId found p (hlookup h) hp) e
  · intro callId p h
    rw [htaken, hmap]
    obtain h | h | ⟨q, h⟩ := hE.stored callId p (hstore h)
    · exact .inl h
    · exact .inr (.inl h)
    · exact .inr (.inr ⟨q, sublist_mono h e⟩)
  · intro callId p k found h
    rw [htaken]
    obtain h | ⟨rfl, -⟩ := @sublist_snoc _ _ [_] _ _ |>.mp h
    · obtain h | ⟨q, h⟩ := hE.found callId p k found h
      · exact .inl h
      · exact .inr ⟨q, sublist_mono h e⟩
    · cases he

theorem Entries.store {pm : PeerManager} (hW : pm.WellFormed) (hE : Entries es pm) {p : Nat} {c : Conn}
    (hc : pm.conns p = some c) (hst : c.stage = .negotiating) :
    Entries (es ++ [.store c.callId p]) (pm.store p c.callId) := by
  have hlater := PeerManager.step_later hW (.store hc hst) nofun
  have hmap := PeerManager.storedPc_store pm p c.callId
  have hlookup {k callId found} (h : .lookup k callId found ∈ es ++ [.store c.callId p]) :
      .lookup k callId found ∈ es := (mem_snoc.mp h).resolve_right nofun
  have htaken : taken (es ++ [.store c.callId p]) = taken es := filterMap_snoc_none rfl
  -- Its connection is new to the map, so nobody took it out before.
  have hnew : p ∉ taken es := by
    intro h
    obtain ⟨k, callId, hk⟩ := mem_taken.mp h
    obtain ⟨c', hc', -, hst'⟩ := hE.conn k callId p hk
    rw [hc] at hc'
    cases hc'
    rw [hst] at hst'
    cases hst'
  constructor
  · intro k callId found h
    exact hE.looked k callId found (hlookup h)
  · intro k callId callId' found found' h h'
    exact hE.once k callId callId' found found' (hlookup h) (hlookup h')
  · intro k k' callId callId' q h h'
    exact hE.owner k k' callId callId' q (hlookup h) (hlookup h')
  · rw [htaken]
    exact hE.nodup
  · intro k callId q h
    obtain ⟨d, hd, hid, hst'⟩ := hE.conn k callId q (hlookup h)
    obtain ⟨d', hd', hgrows⟩ := hlater.conns q d hd
    exact ⟨d', hd', hgrows.callId.trans hid, hgrows.stored hst'⟩
  · intro callId q h
    rw [hmap] at h
    rw [htaken]
    split at h
    · next hid =>
      cases h
      exact ⟨mem_snoc.mpr (.inr (by rw [hid])), hnew⟩
    · exact ⟨List.mem_append_left _ (hE.map callId q h).1, (hE.map callId q h).2⟩
  · intro k callId found q h hq
    rw [hmap] at hq
    split at hq
    · next hid =>
      cases hq
      rw [← hid]
      exact sublist_snoc_self (List.singleton_sublist.mpr (hlookup h)) _
    · exact sublist_mono (hE.order k callId found q (hlookup h) hq) _
  · intro callId q h
    rw [htaken, hmap]
    obtain h | h := mem_snoc.mp h
    · obtain hq | hq | ⟨r, hr⟩ := hE.stored callId q h
      · exact .inl hq
      · split
        · next hid =>
          rw [← hid]
          exact .inr (.inr ⟨p, sublist_snoc_self (List.singleton_sublist.mpr h) _⟩)
        · exact .inr (.inl hq)
      · exact .inr (.inr ⟨r, sublist_mono hr _⟩)
    · cases h
      exact .inr (.inl (if_pos rfl))
  · intro callId q k found h
    rw [htaken]
    obtain h | ⟨h, -⟩ := @sublist_snoc _ _ [_] _ _ |>.mp h
    · obtain h | ⟨r, h⟩ := hE.found callId q k found h
      · exact .inl h
      · exact .inr ⟨r, sublist_mono h _⟩
    · cases h

theorem Entries.lookup {pm : PeerManager} (hW : pm.WellFormed) (hE : Entries es pm) {k : Nat} {cl : Closer}
    (hk : pm.closers k = some cl) (hph : cl.phase = .lookup) :
    Entries (es ++ [.lookup k cl.callId (pm.storedPc cl.callId)]) (pm.lookup k cl) := by
  have hmap := PeerManager.storedPc_lookup pm k cl
  obtain ⟨hconns, hspawned, -, -⟩ := PeerManager.lookup_same pm k cl
  -- This call has not looked before.
  have hfirst (callId : String) (found : Option Nat) : .lookup k callId found ∉ es := by
    intro h
    have hen := (hE.looked k callId found h).2 cl hk
    rw [hph] at hen
    exact hen rfl
  have htaken {p : Nat} (h : pm.storedPc cl.callId = some p) :
      p ∈ taken (es ++ [.lookup k cl.callId (pm.storedPc cl.callId)]) :=
    mem_taken.mpr ⟨k, cl.callId, mem_snoc.mpr (.inr (by rw [h]))⟩
  constructor
  · intro k' callId found h
    rw [hspawned]
    obtain hlook | h := mem_snoc.mp h
    · obtain ⟨hlt, hcl⟩ := hE.looked k' callId found hlook
      refine ⟨hlt, fun cl' hk' => ?_⟩
      rw [PeerManager.lookup_closers] at hk'
      obtain ⟨rfl, -⟩ | ⟨-, hold⟩ := update_some hk'
      · exact absurd hlook (hfirst callId found)
      · exact hcl cl' hold
    · cases h
      refine ⟨hW.spawned k cl hk, fun cl' hk' => ?_⟩
      rw [PeerManager.lookup_closers, Function.update_self] at hk'
      obtain ⟨entry, -, rfl⟩ := Option.map_eq_some_iff.mp hk'
      exact nofun
  · intro k' callId callId' found found' h h'
    obtain h | h := mem_snoc.mp h
    · obtain h' | h' := mem_snoc.mp h'
      · exact hE.once k' callId callId' found found' h h'
      · cases h'
        exact absurd h (hfirst _ _)
    · cases h
      obtain h' | h' := mem_snoc.mp h'
      · exact absurd h' (hfirst _ _)
      · cases h'
        exact ⟨rfl, rfl⟩
  · intro k₁ k₂ callId callId' p h h'
    have hold {k' callId'} (h : Event.lookup k' callId' (some p) ∈ es) : pm.storedPc cl.callId ≠ some p :=
      fun hp => (hE.map _ _ hp).2 (mem_taken.mpr ⟨k', callId', h⟩)
    obtain h | h := mem_snoc.mp h
    · obtain h' | h' := mem_snoc.mp h'
      · exact hE.owner k₁ k₂ callId callId' p h h'
      · injection h' with _ _ hp
        exact absurd hp.symm (hold h)
    · injection h with hk₁ _ hp
      obtain h' | h' := mem_snoc.mp h'
      · exact absurd hp.symm (hold h')
      · injection h' with hk₂
        exact hk₁.trans hk₂.symm
  · exact nodup_filterMap_snoc hE.nodup fun p hp => (hE.map cl.callId p hp).2
  · intro k' callId p h
    rw [hconns]
    obtain h | h := mem_snoc.mp h
    · exact hE.conn k' callId p h
    · injection h with _ hid hp
      rw [hid]
      exact hW.entry cl.callId p hp.symm
  · intro callId p h
    rw [hmap] at h
    split at h
    · cases h
    · next hid =>
      obtain ⟨hstore, hold⟩ := hE.map callId p h
      refine ⟨List.mem_append_left _ hstore, fun hp => ?_⟩
      obtain ⟨k', callId', hk'⟩ := mem_taken.mp hp
      obtain hk' | hk' := mem_snoc.mp hk'
      · exact hold (mem_taken.mpr ⟨k', callId', hk'⟩)
      · injection hk' with _ _ hp'
        obtain ⟨c, hc, hcid, -⟩ := hW.entry callId p h
        obtain ⟨c', hc', hcid', -⟩ := hW.entry cl.callId p hp'.symm
        rw [hc] at hc'
        cases hc'
        exact hid (hcid.symm.trans hcid')
  · intro k' callId found p h hp
    rw [hmap] at hp
    split at hp
    · cases hp
    · next hid =>
      obtain h | h := mem_snoc.mp h
      · exact sublist_mono (hE.order k' callId found p h hp) _
      · cases h
        exact absurd rfl hid
  · intro callId p h
    have h := (mem_snoc.mp h).resolve_right nofun
    obtain hp | hp | ⟨q, hq⟩ := hE.stored callId p h
    · exact .inl (taken_mono hp _)
    · rw [hmap]
      split
      · next hid =>
        rw [hid] at hp
        exact .inl (htaken hp)
      · exact .inr (.inl hp)
    · exact .inr (.inr ⟨q, sublist_mono hq _⟩)
  · intro callId p k' found h
    obtain h | ⟨h, hstore⟩ := @sublist_snoc _ _ [_] _ _ |>.mp h
    · obtain h | ⟨q, h⟩ := hE.found callId p k' found h
      · exact .inl (taken_mono h _)
      · exact .inr ⟨q, sublist_mono h _⟩
    · cases h
      obtain hp | hp | ⟨q, hq⟩ := hE.stored cl.callId p (List.singleton_sublist.mp hstore)
      · exact .inl (taken_mono hp _)
      · exact .inl (htaken hp)
      · exact .inr ⟨q, sublist_snoc_self hq _⟩

theorem step_entries (hW : s.pm.WellFormed) (hE : Entries es s.pm) (h : Step s e s') : Entries (es ++ [e]) s'.pm := by
  have hother (he : e.entries = false) : Entries (es ++ [e]) s'.pm := by
    refine hE.other (step_later hW h fun k callId found hl => ?_) (step_storedPc h he) he
    rw [hl] at he
    cases he
  cases h with
  | store _ hc hst => exact hE.store hW hc hst
  | lookup _ hk hph => exact hE.lookup hW hk hph
  | free | lock | track | read | unlock | stop | close | returned => exact hother rfl
end Locked
end RtcPlugin.Node
