import Mathlib.Data.List.Basic

/-! A list of items of which one grows.

Pieces that come one after another make one item until it is closed; it stands where its
first piece came, and whole items may come in between. `shown` reads the items off what
happened; a `Thread` keeps them as it happens, with the place of the open one, and comes
to the same list (`Thread.run_shown`). -/
namespace RtcPlugin

inductive Action (α β : Type) where
  | whole (a : α)
  | piece (b : β)
  | close
  deriving Repr

variable {α β : Type}

namespace Action

/-- The pieces up to the next close. -/
def pieces : List (Action α β) → List β
  | [] => []
  | .whole _ :: rest => pieces rest
  | .piece b :: rest => b :: pieces rest
  | .close :: _ => []

/-- The items, inside of an open one or not. -/
def shownFrom (join : List β → α) : Bool → List (Action α β) → List α
  | _, [] => []
  | isOpen, .whole a :: rest => a :: shownFrom join isOpen rest
  | true, .piece _ :: rest => shownFrom join true rest
  | false, .piece b :: rest => join (b :: pieces rest) :: shownFrom join true rest
  | _, .close :: rest => shownFrom join false rest

def shown (join : List β → α) (actions : List (Action α β)) : List α := shownFrom join false actions

end Action

/-- The items so far, and the place of the open one with its pieces. -/
structure Thread (α β : Type) where
  items : List α
  current : Option (Nat × List β)

namespace Thread

def new : Thread α β := ⟨[], none⟩

def step (join : List β → α) (t : Thread α β) : Action α β → Thread α β
  | .whole a => {t with items := t.items ++ [a]}
  | .piece b =>
    match t.current with
    | none => ⟨t.items ++ [join [b]], some (t.items.length, [b])⟩
    | some (i, bs) => ⟨t.items.set i (join (bs ++ [b])), some (i, bs ++ [b])⟩
  | .close => {t with current := none}

def run (join : List β → α) (t : Thread α β) (actions : List (Action α β)) : Thread α β := actions.foldl (step join) t

variable {join : List β → α}

theorem run_append (t : Thread α β) (a b : List (Action α β)) : t.run join (a ++ b) = (t.run join a).run join b :=
  List.foldl_append

/-- What is still to come: the rest of the open item, and the items behind it. -/
theorem run_items (actions : List (Action α β)) :
    (∀ items, (run join ⟨items, none⟩ actions).items = items ++ Action.shownFrom join false actions) ∧
    ∀ items i bs, items[i]? = some (join bs) → (run join ⟨items, some (i, bs)⟩ actions).items =
      items.set i (join (bs ++ Action.pieces actions)) ++ Action.shownFrom join true actions := by
  induction actions with
  | nil =>
    refine ⟨fun items => (List.append_nil _).symm, fun items i bs hi => ?_⟩
    obtain ⟨hlt, hget⟩ := List.getElem?_eq_some_iff.mp hi
    show items = items.set i (join (bs ++ [])) ++ []
    rw [List.append_nil, List.append_nil, ← hget, List.set_getElem_self]
  | cons action actions ih =>
    obtain ⟨ihclosed, ihopen⟩ := ih
    cases action with
    | whole a =>
      refine ⟨fun items => ?_, fun items i bs hi => ?_⟩
      · exact (ihclosed _).trans (List.append_assoc items [a] _)
      · have hlt := (List.getElem?_eq_some_iff.mp hi).1
        refine (ihopen _ i bs (by rw [List.getElem?_append_left hlt, hi])).trans ?_
        rw [List.set_append_left _ _ hlt, List.append_assoc]
        rfl
    | piece b =>
      refine ⟨fun items => ?_, fun items i bs hi => ?_⟩
      · refine (ihopen _ items.length [b] List.getElem?_concat_length).trans ?_
        rw [List.set_append_right _ _ (Nat.le_refl _), Nat.sub_self, List.append_assoc]
        rfl
      · have hlt := (List.getElem?_eq_some_iff.mp hi).1
        refine (ihopen _ i (bs ++ [b]) (List.getElem?_set_self hlt)).trans ?_
        rw [List.set_set, List.append_assoc]
        rfl
    | close =>
      refine ⟨ihclosed, fun items i bs hi => ?_⟩
      obtain ⟨hlt, hget⟩ := List.getElem?_eq_some_iff.mp hi
      show (run join ⟨items, none⟩ actions).items = items.set i (join (bs ++ [])) ++ _
      rw [List.append_nil, ← hget, List.set_getElem_self]
      exact ihclosed items

/-- **What is kept is what is shown.** -/
theorem run_shown (actions : List (Action α β)) : (new.run join actions).items = Action.shown join actions :=
  (run_items actions).1 []

end Thread

/-! ### Pieces that repeat what came before -/

namespace Action

/-- Each piece with those of its item before it. -/
def cumulate : List β → List (Action α (List β)) → List (Action α (List β))
  | _, [] => []
  | sofar, .whole a :: rest => .whole a :: cumulate sofar rest
  | sofar, .piece b :: rest => .piece (sofar ++ b) :: cumulate (sofar ++ b) rest
  | _, .close :: rest => .close :: cumulate [] rest

/-- The last piece. -/
def latest (pieces : List (List β)) : List β := pieces.getLastD []

/-- What is not empty. -/
def told (whole : α → Bool) : Action α (List β) → Bool
  | .whole a => whole a
  | .piece b => !b.isEmpty
  | .close => true

variable (whole : α → Bool)

theorem latest_cumulate (actions : List (Action α (List β))) (sofar : List β) :
    latest (sofar :: pieces ((cumulate sofar actions).filter (told whole))) =
      sofar ++ (pieces (actions.filter (told whole))).flatten := by
  induction actions generalizing sofar with
  | nil => exact (List.append_nil sofar).symm
  | cons action actions ih =>
    cases action with
    | whole a =>
      by_cases ha : told whole (.whole a : Action α (List β)) = true
      · rw [cumulate, List.filter_cons_of_pos ha, List.filter_cons_of_pos ha]
        exact ih sofar
      · rw [cumulate, List.filter_cons_of_neg ha, List.filter_cons_of_neg ha]
        exact ih sofar
    | piece b =>
      have hpieces : (pieces ((Action.piece b :: actions).filter (told whole))).flatten =
          b ++ (pieces (actions.filter (told whole))).flatten := by
        cases b <;> simp [told, pieces]
      rw [hpieces, ← List.append_assoc, ← ih (sofar ++ b)]
      by_cases hb : sofar ++ b = []
      · obtain ⟨rfl, rfl⟩ := List.append_eq_nil_iff.mp hb
        rfl
      · rw [cumulate, List.filter_cons_of_pos (by simpa [told] using hb)]
        rfl
    | close => exact (List.append_nil sofar).symm

/-- **The last of the repeated pieces is all pieces together**, where an empty piece makes no item. -/
theorem shown_cumulate (item : List β → α) (actions : List (Action α (List β))) :
    shown (item ∘ latest) ((cumulate [] actions).filter (told whole)) =
      shown (item ∘ List.flatten) (actions.filter (told whole)) := by
  suffices h : ∀ isOpen sofar, (isOpen = false ↔ sofar = []) →
      shownFrom (item ∘ latest) isOpen ((cumulate sofar actions).filter (told whole)) =
        shownFrom (item ∘ List.flatten) isOpen (actions.filter (told whole)) from
    h false [] (iff_of_true rfl rfl)
  induction actions with
  | nil => intros; rfl
  | cons action actions ih =>
    intro isOpen sofar hsofar
    cases action with
    | whole a =>
      by_cases ha : told whole (.whole a : Action α (List β)) = true
      · rw [cumulate, List.filter_cons_of_pos ha, List.filter_cons_of_pos ha]
        exact congrArg (a :: ·) (ih isOpen sofar hsofar)
      · rw [cumulate, List.filter_cons_of_neg ha, List.filter_cons_of_neg ha]
        exact ih isOpen sofar hsofar
    | piece b =>
      cases isOpen with
      | true =>
        have hne : sofar ≠ [] := fun h => Bool.noConfusion (hsofar.mpr h)
        have hrest := ih true (sofar ++ b) (iff_of_false Bool.noConfusion (List.append_ne_nil_of_left_ne_nil hne b))
        rw [cumulate, List.filter_cons_of_pos (by simp [told, hne])]
        cases b with
        | nil => exact hrest
        | cons => exact hrest
      | false =>
        obtain rfl := hsofar.mp rfl
        cases b with
        | nil => exact ih false [] (iff_of_true rfl rfl)
        | cons x xs =>
          have hitem := latest_cumulate whole actions (x :: xs)
          exact congrArg₂ List.cons (congrArg item hitem) (ih true (x :: xs) (iff_of_false Bool.noConfusion nofun))
    | close =>
      cases isOpen <;> exact ih false [] (iff_of_true rfl rfl)

end Action
end RtcPlugin
