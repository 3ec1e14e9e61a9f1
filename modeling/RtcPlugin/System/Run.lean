/-! Labelled transition systems and what holds along their runs.

A system is an initial condition and a step relation whose labels say who moved
and what the environment chose. A `Run` keeps its labels, so that a property of
the history is a property of the label list. Invariants are proved once by
`Run.invariant`; an invariant that only survives steps meeting a condition is an
unconditional invariant of the system `restrict`ed to those steps. -/
namespace RtcPlugin

structure System (S L : Type) where
  init : S → Prop
  step : S → L → S → Prop

namespace System

variable {S L : Type}

/-- The states reached from `s` by the labels of the list, in order. -/
inductive Steps (M : System S L) (s : S) : List L → S → Prop where
  | nil : Steps M s [] s
  | snoc {ls l t u} : Steps M s ls t → M.step t l u → Steps M s (ls ++ [l]) u

/-- A run starts in an initial state. -/
def Run (M : System S L) (ls : List L) (s : S) : Prop := ∃ s₀, M.init s₀ ∧ Steps M s₀ ls s

/-- The same system where only the steps that meet `C` are taken. -/
def restrict (M : System S L) (C : S → L → Prop) : System S L where
  init := M.init
  step := fun s l t => M.step s l t ∧ C s l

variable {M : System S L}

theorem Steps.append {s t u : S} {a b : List L} (h : Steps M s a t) (h' : Steps M t b u) :
    Steps M s (a ++ b) u := by
  induction h' with
  | nil => rwa [List.append_nil]
  | snoc _ hl ih =>
    rw [← List.append_assoc]
    exact .snoc ih hl

theorem Steps.single {s t : S} {l : L} (h : M.step s l t) : Steps M s [l] t :=
  List.nil_append [l] ▸ Steps.snoc .nil h

theorem Steps.cons {s t u : S} {l : L} {ls : List L} (h : M.step s l t) (h' : Steps M t ls u) :
    Steps M s (l :: ls) u :=
  (Steps.single h).append h'

theorem Run.nil {s : S} (h : M.init s) : Run M [] s := ⟨s, h, .nil⟩

theorem Run.append {s t : S} {a b : List L} (h : Run M a s) (h' : Steps M s b t) : Run M (a ++ b) t :=
  let ⟨s₀, h₀, hs⟩ := h
  ⟨s₀, h₀, hs.append h'⟩

theorem Run.snoc {s t : S} {l : L} {ls : List L} (h : Run M ls s) (h' : M.step s l t) :
    Run M (ls ++ [l]) t :=
  h.append (.single h')

/-- A property kept by every step is kept by any number of steps. -/
theorem Steps.invariant {I : S → Prop} (hstep : ∀ s l t, I s → M.step s l t → I t) {s t : S}
    {ls : List L} (h : Steps M s ls t) (hs : I s) : I t := by
  induction h with
  | nil => exact hs
  | snoc _ hl ih => exact hstep _ _ _ ih hl

/-- A relation between the two ends of a step that composes holds between the
two ends of any number of steps. -/
theorem Steps.related {R : S → S → Prop} (hrefl : ∀ s, R s s)
    (htrans : ∀ s t u, R s t → R t u → R s u) (hstep : ∀ s l t, M.step s l t → R s t) {s t : S}
    {ls : List L} (h : Steps M s ls t) : R s t := by
  induction h with
  | nil => exact hrefl _
  | snoc _ hl ih => exact htrans _ _ _ ih (hstep _ _ _ hl)

/-- What holds initially and survives a step holds after every run. The property
may mention the labels so far. -/
theorem Run.invariant {I : List L → S → Prop} (hinit : ∀ s, M.init s → I [] s)
    (hstep : ∀ ls s l t, Run M ls s → I ls s → M.step s l t → I (ls ++ [l]) t) {s : S} {ls : List L}
    (h : Run M ls s) : I ls s := by
  obtain ⟨s₀, h₀, hs⟩ := h
  induction hs with
  | nil => exact hinit _ h₀
  | snoc hs hl ih => exact hstep _ _ _ _ ⟨s₀, h₀, hs⟩ ih hl

theorem Steps.of_restrict {C : S → L → Prop} {s t : S} {ls : List L}
    (h : Steps (M.restrict C) s ls t) : Steps M s ls t := by
  induction h with
  | nil => exact .nil
  | snoc _ hl ih => exact .snoc ih hl.1

theorem Run.of_restrict {C : S → L → Prop} {s : S} {ls : List L} (h : Run (M.restrict C) ls s) :
    Run M ls s :=
  let ⟨s₀, h₀, hs⟩ := h
  ⟨s₀, h₀, hs.of_restrict⟩

end System
end RtcPlugin
