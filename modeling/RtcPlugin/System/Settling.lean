import RtcPlugin.System.Promises
import RtcPlugin.System.Run

/-! How promises settle along runs.

In a system whose events each mean at most one outcome for a key, a promise is settled by
the first event after it was issued that means one for its key (`Settles.outcomes`), and
the map holds the promises that are not settled (`Settles.accounted`). -/
namespace RtcPlugin.System

variable {S L K V O : Type}

/-- How a promise stands after some events: the first that has an outcome settles it. -/
def verdict (outcome : L → Option O) (ls : List L) : Standing O :=
  match ls.findSome? outcome with
  | some o => .settled o
  | none => .waiting

theorem verdict_snoc (outcome : L → Option O) (ls : List L) (l : L) :
    verdict outcome (ls ++ [l]) = (verdict outcome ls).next (outcome l) := by
  unfold verdict
  rw [List.findSome?_append]
  cases ls.findSome? outcome with
  | some o => rfl
  | none =>
    rw [Option.none_or, List.findSome?_singleton]
    cases outcome l <;> rfl

variable [DecidableEq K]

/-- Steps in a run do to the promises what their labels mean, and issue no key again. -/
structure Settles (M : System S L) (promises : S → Promises K V O) (issued : S → List K)
    (outcome : K → L → Option O) : Prop where
  init : ∀ s, M.init s → issued s = [] ∧ ∀ k, (promises s).Stands k .unissued
  grows : ∀ s l t, M.step s l t → issued s ⊆ issued t
  old : ∀ ls s l t k st, M.Run ls s → M.step s l t → k ∈ issued s → (promises s).Stands k st →
    (promises t).Stands k (st.next (outcome k l))
  new : ∀ ls s l t k, M.Run ls s → M.step s l t → k ∉ issued s → (promises s).Stands k .unissued →
    (promises t).Stands k (if k ∈ issued t then .waiting else .unissued)

variable {M : System S L} {promises : S → Promises K V O} {issued : S → List K} {outcome : K → L → Option O}

/-- A key that was issued waits or is settled, another is unknown. -/
theorem Settles.stands (h : Settles M promises issued outcome) {s : S} {ls : List L} (hs : M.Run ls s) (k : K) :
    ∃ st, (promises s).Stands k st ∧ (st ≠ .unissued ↔ k ∈ issued s) := by
  refine hs.invariant (I := fun _ s => ∃ st, (promises s).Stands k st ∧ (st ≠ .unissued ↔ k ∈ issued s)) ?_ ?_
  · intro s hinit
    obtain ⟨hissued, hstands⟩ := h.init s hinit
    exact ⟨.unissued, hstands k, by simp [hissued]⟩
  · rintro ls s l t hrun ⟨st, hst, hiff⟩ hl
    by_cases hk : k ∈ issued s
    · refine ⟨_, h.old ls s l t k st hrun hl hk hst, ?_⟩
      have hne := hiff.mpr hk
      have hnext : st.next (outcome k l) ≠ .unissued := by
        cases st with
        | unissued => exact absurd rfl hne
        | waiting => cases outcome k l <;> simp [Standing.next]
        | settled o => simp [Standing.next]
      exact ⟨fun _ => h.grows s l t hl hk, fun _ => hnext⟩
    · have hun : st = .unissued := by
        by_contra hne
        exact hk (hiff.mp hne)
      refine ⟨_, h.new ls s l t k hrun hl hk (hun ▸ hst), ?_⟩
      split
      · next ht => exact ⟨fun _ => ht, fun _ => by simp⟩
      · next ht => exact ⟨fun hne => absurd rfl hne, fun hmem => absurd hmem ht⟩

theorem Settles.steps (h : Settles M promises issued outcome) {s t : S} {ls after : List L} (hrun : M.Run ls s)
    (hs : M.Steps s after t) {k : K} (hk : k ∈ issued s) (hwait : (promises s).Stands k .waiting) :
    (promises t).Stands k (verdict (outcome k) after) ∧ k ∈ issued t := by
  induction hs with
  | nil => exact ⟨hwait, hk⟩
  | @snoc after l u v hafter hl ih =>
    rw [verdict_snoc]
    exact ⟨h.old (ls ++ after) u l v k _ (hrun.append hafter) hl ih.2 ih.1, h.grows u l v hl ih.2⟩

/-- A promise that a step issues is settled by the first event after it that has an
outcome for it. -/
theorem Settles.outcomes (h : Settles M promises issued outcome) {s t u : S} {ls after : List L} {l : L}
    (hs : M.Run ls s) (hl : M.step s l t) (hafter : M.Steps t after u) {k : K} (hk : k ∉ issued s) (hk' : k ∈ issued t) :
    (promises u).outcomes k = (after.findSome? (outcome k)).toList := by
  obtain ⟨st, hst, hiff⟩ := h.stands hs k
  have hun : st = .unissued := by
    by_contra hne
    exact hk (hiff.mp hne)
  have hwait := h.new ls s l t k hs hl hk (hun ▸ hst)
  rw [if_pos hk'] at hwait
  have hstands := (h.steps (hs.snoc hl) hafter hk' hwait).1
  unfold verdict at hstands
  cases hv : after.findSome? (outcome k) with
  | none =>
    rw [hv] at hstands
    exact hstands.2
  | some o =>
    rw [hv] at hstands
    exact hstands.2

/-- What waits is what was issued and is not settled; nothing is settled twice. -/
theorem Settles.accounted (h : Settles M promises issued outcome) {s : S} {ls : List L} (hs : M.Run ls s) (k : K) :
    ((∃ v, (promises s).pending.get? k = some v) ↔ k ∈ issued s ∧ (promises s).outcomes k = []) ∧
      ((promises s).outcomes k).length ≤ 1 := by
  obtain ⟨st, hst, hiff⟩ := h.stands hs k
  cases st with
  | unissued =>
    have hk : k ∉ issued s := fun hk => hiff.mpr hk rfl
    rw [hst.1, hst.2]
    simp [hk]
  | waiting =>
    have hk := hiff.mp (by simp)
    rw [hst.2]
    exact ⟨⟨fun _ => ⟨hk, rfl⟩, fun _ => hst.1⟩, Nat.zero_le 1⟩
  | settled o =>
    rw [hst.1, hst.2]
    simp

end RtcPlugin.System
