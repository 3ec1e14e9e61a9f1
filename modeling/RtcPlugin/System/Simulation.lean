import Mathlib.Data.List.Forall2
import RtcPlugin.System.Run

/-! Simulations between labelled transition systems.

A step of the lower system is some steps of the upper one, or none, between states that
a relation ties together; a second relation says under which labels. What holds of one
step holds of every run (`Simulation.run`). -/
namespace RtcPlugin.System

variable {S T L K : Type} {M : System S L} {N : System T K}

/-- Every step of `M` is done by `N` in states that `R` relates, under labels that `A` relates. -/
structure Simulation (M : System S L) (N : System T K) (R : S → T → Prop) (A : L → List K → Prop) : Prop where
  init : ∀ s, M.init s → ∃ t, N.init t ∧ R s t
  step : ∀ s l s' t, R s t → M.step s l s' → ∃ ks t', A l ks ∧ N.Steps t ks t' ∧ R s' t'

variable {R : S → T → Prop} {A : L → List K → Prop}

theorem Simulation.steps (h : Simulation M N R A) {s s' : S} {t : T} {ls : List L} (hs : M.Steps s ls s')
    (ht : R s t) : ∃ kss t', List.Forall₂ A ls kss ∧ N.Steps t kss.flatten t' ∧ R s' t' := by
  induction hs with
  | nil => exact ⟨[], t, .nil, .nil, ht⟩
  | @snoc ls l u u' _ hl ih =>
    obtain ⟨kss, v, hA, hsteps, hR⟩ := ih
    obtain ⟨ks, v', hAl, hlast, hR'⟩ := h.step u l u' v hR hl
    refine ⟨kss ++ [ks], v', List.rel_append hA (.cons hAl .nil), ?_, hR'⟩
    rw [List.flatten_append, List.flatten_singleton]
    exact hsteps.append hlast

/-- A run of the lower system is a run of the upper one. -/
theorem Simulation.run (h : Simulation M N R A) {s : S} {ls : List L} (hs : M.Run ls s) :
    ∃ kss t, List.Forall₂ A ls kss ∧ N.Run kss.flatten t ∧ R s t := by
  obtain ⟨s₀, h₀, hsteps⟩ := hs
  obtain ⟨t₀, ht₀, hR₀⟩ := h.init s₀ h₀
  obtain ⟨kss, t, hA, hrun, hR⟩ := h.steps hsteps hR₀
  exact ⟨kss, t, hA, ⟨t₀, ht₀, hrun⟩, hR⟩

end RtcPlugin.System
