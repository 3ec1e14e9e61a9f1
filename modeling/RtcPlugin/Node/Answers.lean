import RtcPlugin.Node.CrashFree
import RtcPlugin.System.History
import RtcPlugin.System.Tallies

/-! The answers to the gateway's invokes.

Every invoke runs in a goroutine of its own, so the results go out in any order. Each is the
result of a request that came over the connection, made of what that request's command
returned, and no request has two (`invokes_answered`): as long as the process runs, what came
is what was answered and what still waits. -/
namespace RtcPlugin.Node
open RtcPlugin.Go

/-- `params` of an invoke: an empty text is none. -/
def InvokeRequest.params (req : InvokeRequest) : Option String := if req.paramsJSON ≠ "" then some req.paramsJSON else none

/-- A request, what the libraries answered while it ran, and the result that was sent. -/
structure Exchange where
  request : InvokeRequest
  outcome : Outcome
  result : InvokeResult

/-- The result is that of the request's own command. -/
def Exchange.Answers (deviceId : String) (x : Exchange) : Prop :=
  ∃ returned, handleCommand x.request.command x.request.params x.outcome = .ok returned ∧
    x.result = invokeResult deviceId x.request.id returned

theorem Exchange.Answers.id {deviceId : String} {x : Exchange} (h : x.Answers deviceId) : x.result.id = x.request.id := by
  obtain ⟨returned, -, hresult⟩ := h
  rw [hresult]
  cases returned <;> rfl

/-- What a goroutine that does not panic sends: nothing where there is nothing to answer. -/
theorem handleInvokeRequest_ok {deviceId : String} {raw : Json} {o : Outcome} {result : Option InvokeResult}
    (h : handleInvokeRequest deviceId raw o = .ok result) : ∃ xs : List Exchange,
      result.toList = xs.map (·.result) ∧ (invokeRequest raw).toList = xs.map (·.request) ∧
        (xs.map (·.outcome)).Sublist [o] ∧ ∀ x ∈ xs, x.Answers deviceId := by
  unfold handleInvokeRequest at h
  cases hreq : invokeRequest raw with
  | none =>
    rw [hreq] at h
    cases h
    exact ⟨[], rfl, rfl, List.nil_sublist _, List.forall_mem_nil _⟩
  | some req =>
    rw [hreq] at h
    cases hcommand : handleCommand req.command req.params o with
    | error panic =>
      rw [InvokeRequest.params] at hcommand
      simp only [hcommand] at h
      cases h
    | ok returned =>
      have hanswers : Exchange.Answers deviceId ⟨req, o, invokeResult deviceId req.id returned⟩ := ⟨returned, hcommand, rfl⟩
      rw [InvokeRequest.params] at hcommand
      simp only [hcommand] at h
      cases h
      refine ⟨[⟨req, o, invokeResult deviceId req.id returned⟩], rfl, rfl, .refl _, ?_⟩
      exact List.forall_mem_singleton.mpr hanswers

namespace Process

/-! ### What came over the connection -/

/-- The process as it would be if no goroutine ran. -/
def arriving (n : Process) : Label → Process
  | .message data => n.receive data
  | .readError => n.readFails
  | .handle .. => n

/-- The invokes that the read loop started, in order. -/
def arrived (deviceId : String) (ls : List Label) : List Json := (ls.foldl arriving (start deviceId)).invokes

/-- Those that are to be answered. -/
def requests (deviceId : String) (ls : List Label) : List InvokeRequest := (arrived deviceId ls).filterMap invokeRequest

/-- What the libraries answered, goroutine after goroutine. -/
def outcomes (ls : List Label) : List Outcome :=
  ls.filterMap fun
    | .handle _ o => some o
    | .message _ | .readError => none

/-- A message does the same to processes in one phase, and only adds to the invokes. -/
theorem receive_alike {n m : Process} (hphase : n.phase = m.phase) (data : List UInt8) : ∃ new,
    (n.receive data).invokes = n.invokes ++ new ∧ (m.receive data).invokes = m.invokes ++ new ∧
      (n.receive data).phase = (m.receive data).phase ∧ (n.receive data).sent = n.sent ∧
      (n.receive data).deviceId = n.deviceId := by
  have hquiet (l : List Json) : l = l ++ [] := (List.append_nil l).symm
  unfold receive
  rw [← hphase]
  cases hn : n.phase with
  | challenge =>
    cases readChallenge data with
    | error panic => exact ⟨[], hquiet _, hquiet _, rfl, rfl, rfl⟩
    | ok read => cases read <;> exact ⟨[], hquiet _, hquiet _, rfl, rfl, rfl⟩
  | response => cases readConnectResponse data <;> exact ⟨[], hquiet _, hquiet _, rfl, rfl, rfl⟩
  | reading => exact ⟨(readFrame data).toList, rfl, rfl, rfl, rfl, rfl⟩
  | ended e => exact ⟨[], hquiet _, hquiet _, hphase, rfl, rfl⟩

theorem readFails_alike {n m : Process} (hphase : n.phase = m.phase) :
    n.readFails.invokes = n.invokes ∧ m.readFails.invokes = m.invokes ∧ n.readFails.phase = m.readFails.phase ∧
      n.readFails.sent = n.sent ∧ n.readFails.deviceId = n.deviceId := by
  unfold readFails
  rw [← hphase]
  cases n.phase <;> exact ⟨rfl, rfl, rfl, rfl, rfl⟩

/-! ### Runs -/

/-- How the invokes stand: `handled` ran to their end and gave the exchanges, `lost` is the
one whose goroutine ended the process. -/
structure Standing (deviceId : String) (ls : List Label) (n : Process) (handled lost : List Json) (xs : List Exchange) :
    Prop where
  device : n.deviceId = deviceId
  phase : n.phase = (ls.foldl arriving (start deviceId)).phase
  invokes : Tallied (arrived deviceId ls) (handled ++ lost) n.invokes
  running : n.crashed = none → lost = []
  sent : n.sent = xs.map (·.result)
  asked : handled.filterMap invokeRequest = xs.map (·.request)
  chosen : (xs.map (·.outcome)).Sublist (outcomes ls)
  answers : ∀ x ∈ xs, x.Answers deviceId

section
variable {deviceId : String} {ls : List Label} {n n' : Process} {handled lost : List Json} {xs : List Exchange}

theorem standing_start : Standing deviceId [] (start deviceId) [] [] [] where
  device := rfl
  phase := rfl
  invokes := .nil
  running := fun _ => rfl
  sent := rfl
  asked := rfl
  chosen := .slnil
  answers := List.forall_mem_nil _

theorem arrived_snoc (deviceId : String) (ls : List Label) (l : Label) :
    arrived deviceId (ls ++ [l]) = ((ls.foldl arriving (start deviceId)).arriving l).invokes := by
  rw [arrived, List.foldl_append, List.foldl_cons, List.foldl_nil]

theorem outcomes_snoc_handle (ls : List Label) (k : Nat) (o : Outcome) : outcomes (ls ++ [.handle k o]) = outcomes ls ++ [o] := by
  rw [outcomes, List.filterMap_append]
  rfl

/-- Reading starts invokes and answers none. -/
theorem Standing.read (h : Standing deviceId ls n handled lost xs) (hrun : n.crashed = none) {l : Label} {new : List Json}
    (hold : (n.arriving l).invokes = n.invokes ++ new)
    (harrived : ((ls.foldl arriving (start deviceId)).arriving l).invokes = arrived deviceId ls ++ new)
    (hphase : (n.arriving l).phase = ((ls.foldl arriving (start deviceId)).arriving l).phase)
    (hsent : (n.arriving l).sent = n.sent) (hdevice : (n.arriving l).deviceId = n.deviceId)
    (hquiet : outcomes (ls ++ [l]) = outcomes ls) : Standing deviceId (ls ++ [l]) (n.arriving l) handled lost xs where
  device := hdevice.trans h.device
  phase := by
    rw [hphase, List.foldl_append, List.foldl_cons, List.foldl_nil]
  invokes := by
    rw [arrived_snoc, harrived, hold]
    exact h.invokes.arrive new
  running := fun _ => h.running hrun
  sent := hsent.trans h.sent
  asked := h.asked
  chosen := hquiet ▸ h.chosen
  answers := h.answers

/-- A goroutine takes its own invoke. -/
theorem Standing.handle (h : Standing deviceId ls n handled lost xs) (hrun : n.crashed = none) {k : Nat} {raw : Json}
    (hk : n.invokes[k]? = some raw) (o : Outcome) :
    ∃ handled' lost' xs', Standing deviceId (ls ++ [.handle k o]) (n.handle k raw o) handled' lost' xs' := by
  have harrived : arrived deviceId (ls ++ [.handle k o]) = arrived deviceId ls := arrived_snoc ..
  have hphase : (ls ++ [Label.handle k o]).foldl arriving (start deviceId) = ls.foldl arriving (start deviceId) := by
    rw [List.foldl_append]
    rfl
  have hnone : lost = [] := h.running hrun
  have htaken := h.invokes.take hk
  rw [hnone, List.append_nil] at htaken
  unfold Process.handle
  cases hresult : handleInvokeRequest n.deviceId raw o with
  | error panic =>
    refine ⟨handled, [raw], xs, h.device, ?_, ?_, nofun, h.sent, h.asked, ?_, h.answers⟩
    · rw [hphase]
      exact h.phase
    · rw [harrived]
      exact htaken
    · rw [outcomes_snoc_handle]
      exact h.chosen.trans (List.sublist_append_left _ _)
  | ok result =>
    rw [h.device] at hresult
    obtain ⟨new, hsent, hrequests, houtcomes, hnew⟩ := handleInvokeRequest_ok hresult
    refine ⟨handled ++ [raw], [], xs ++ new, h.device, ?_, ?_, fun _ => rfl, ?_, ?_, ?_, ?_⟩
    · rw [hphase]
      exact h.phase
    · rw [harrived, List.append_nil]
      exact htaken
    · show n.sent ++ result.toList = _
      rw [h.sent, hsent, List.map_append]
    · rw [List.filterMap_append, h.asked, List.map_append, ← hrequests]
      cases hreq : invokeRequest raw <;> simp [hreq]
    · rw [outcomes_snoc_handle, List.map_append]
      exact h.chosen.append houtcomes
    · intro x hx
      exact (List.mem_append.mp hx).elim (h.answers x) (hnew x)

theorem run_standing (h : (system deviceId).Run ls n) : ∃ handled lost xs, Standing deviceId ls n handled lost xs := by
  refine h.invariant (I := fun ls n => ∃ handled lost xs, Standing deviceId ls n handled lost xs) ?_ ?_
  · intro n hn
    obtain rfl : n = start deviceId := hn
    exact ⟨[], [], [], standing_start⟩
  · rintro ls n l n' _ ⟨handled, lost, xs, hI⟩ hstep
    cases hstep with
    | @message data hrun =>
      obtain ⟨new, hold, harrived, hphase, hsent, hdevice⟩ := receive_alike hI.phase data
      refine ⟨handled, lost, xs, hI.read hrun hold harrived hphase hsent hdevice ?_⟩
      exact filterMap_snoc_none rfl
    | readError hrun =>
      obtain ⟨hold, harrived, hphase, hsent, hdevice⟩ := readFails_alike hI.phase
      have hold' : (n.arriving .readError).invokes = n.invokes ++ [] := hold.trans (List.append_nil _).symm
      have harrived' := harrived.trans (List.append_nil _).symm
      refine ⟨handled, lost, xs, hI.read hrun hold' harrived' hphase hsent hdevice ?_⟩
      exact filterMap_snoc_none rfl
    | handle hrun hk => exact hI.handle hrun hk _

end

/-- **No invoke is answered twice, and none with the result of another.** In every run the
results sent are those of exchanges, each for a request that came over the connection and of
what its own command returned. While the process runs, the requests that came are those of
the exchanges and those that wait; requests of different identifiers get results of
different identifiers even where the process ended. -/
theorem invokes_answered {deviceId : String} {ls : List Label} {n : Process} (hrun : (system deviceId).Run ls n) :
    ∃ xs : List Exchange, n.sent = xs.map (·.result) ∧ (∀ x ∈ xs, x.Answers deviceId ∧ x.result.id = x.request.id) ∧
      (xs.map (·.outcome)).Sublist (outcomes ls) ∧
      (xs.map (·.request)).Subperm (requests deviceId ls) ∧
      (n.crashed = none → Tallied (requests deviceId ls) (xs.map (·.request)) (n.invokes.filterMap invokeRequest)) ∧
      (((requests deviceId ls).map (·.id)).Nodup → (n.sent.map (·.id)).Nodup) := by
  obtain ⟨handled, lost, xs, h⟩ := run_standing hrun
  have htally : Tallied (requests deviceId ls) (xs.map (·.request) ++ lost.filterMap invokeRequest)
      (n.invokes.filterMap invokeRequest) := by
    rw [← h.asked, ← List.filterMap_append]
    exact h.invokes.filterMap invokeRequest
  have hids : n.sent.map (·.id) = (xs.map (·.request)).map (·.id) := by
    rw [h.sent, List.map_map, List.map_map]
    exact List.map_congr_left fun x hx => (h.answers x hx).id
  refine ⟨xs, h.sent, fun x hx => ⟨h.answers x hx, (h.answers x hx).id⟩, h.chosen, ?_, ?_, ?_⟩
  · exact (List.sublist_append_left _ _).subperm.trans htally.taken_subperm
  · intro hcrashed
    rwa [h.running hcrashed, List.filterMap_nil, List.append_nil] at htally
  · intro hnodup
    have hboth := htally.taken_nodup (·.id) hnodup
    rw [List.map_append] at hboth
    rw [hids]
    exact (List.nodup_append.mp hboth).1

/-- The one accept is answered. -/
theorem invokes_answered_accept : ∃ n, (system "node").Run (acceptLabels longParams) n ∧ n.sent.length = 1 ∧
    ∃ xs : List Exchange, n.sent = xs.map (·.result) ∧
      Tallied (requests "node" (acceptLabels longParams)) (xs.map (·.request)) (n.invokes.filterMap invokeRequest) := by
  have hrun := accepting_run longParams (by decide +kernel) (by decide +kernel)
  obtain ⟨xs, hsent, -, -, -, htally, -⟩ := invokes_answered hrun
  exact ⟨_, hrun, by decide +kernel, xs, hsent, htally (by decide +kernel)⟩

end Process
end RtcPlugin.Node
