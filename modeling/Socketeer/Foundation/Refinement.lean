import Socketeer.Foundation.Machine

/-! # Refinement

A machine refines another along a map of its states when each of its steps
stands for a run of the other, of no step, one or several. What its runs stand
for are then runs of the other, so that what holds of the events of every run of
the abstract machine holds of the events of every run of the concrete one.
-/

namespace Foundation

namespace Machine

variable {S L T K : Type*}

/-- Some run goes from a state to another on the given labels. -/
def Follows (N : Machine T K) (source : T) (labels : List K) (target : T) : Prop :=
  ∃ trace, N.Run source trace target ∧ trace.map Prod.snd = labels

/-- The steps of a machine stand for runs of another. -/
structure Refines (M : Machine S L) (N : Machine T K) (image : S → T)
    (stands : S → L → List K) : Prop where
  init : image M.init = N.init
  step : ∀ {state label target}, M.Reachable state → M.step state label = some target →
    N.Follows (image state) (stands state label) (image target)

/-- What a trace stands for. -/
def events (stands : S → L → List K) (trace : List (S × L)) : List K :=
  trace.flatMap fun entry => stands entry.1 entry.2

/-- One trace after the other stands for its events after the other's. -/
theorem events_append (stands : S → L → List K) (front back : List (S × L)) :
    events stands (front ++ back) = events stands front ++ events stands back :=
  List.flatMap_append

variable {M : Machine S L} {N : Machine T K} {image : S → T} {stands : S → L → List K}

namespace Follows

theorem nil (state : T) : N.Follows state [] state :=
  ⟨[], .nil state, rfl⟩

theorem single {source target : T} {label : K} (step : N.step source label = some target) :
    N.Follows source [label] target :=
  ⟨_, (Run.nil source).snoc step, rfl⟩

/-- Events are followed one after the other. -/
theorem append {source middle target : T} {first second : List K}
    (left : N.Follows source first middle) (right : N.Follows middle second target) :
    N.Follows source (first ++ second) target := by
  obtain ⟨front, before, rfl⟩ := left
  obtain ⟨back, after, rfl⟩ := right
  exact ⟨front ++ back, before.append after, List.map_append⟩

end Follows

namespace Refines

/-- What a run stands for is a run of the abstract machine. -/
theorem run (refines : M.Refines N image stands) {trace : List (S × L)} {final : S}
    (run : M.Run M.init trace final) :
    N.Follows N.init (events stands trace) (image final) := by
  induction run with
  | nil =>
      rw [refines.init]
      exact .nil _
  | @snoc middle target front label earlier step ih =>
      rw [events_append]
      have here := refines.step ⟨front, earlier⟩ step
      refine ih.append ?_
      rwa [events, List.flatMap_singleton]

end Refines

/-- A ledger to which each step adds what it stands for holds, after a run, what
the run stands for. -/
theorem Run.ledger {α : Type*} {trace : List (S × L)} {final : S}
    (run : M.Run M.init trace final) (ledger : S → List α) (reading : K → Option α)
    (start : ledger M.init = [])
    (adds : ∀ {state label target}, M.step state label = some target →
      ledger target = ledger state ++ (stands state label).filterMap reading) :
    (events stands trace).filterMap reading = ledger final := by
  induction run with
  | nil => exact start.symm
  | @snoc middle target front label earlier step ih =>
      have here : events stands [(middle, label)] = stands middle label :=
        List.flatMap_singleton ..
      rw [events_append, List.filterMap_append, ih, here, adds step]

/-- What holds at the start with no event, and is kept by each step with its
event, holds at the end of every run with its events. -/
theorem Follows.invariant {labels : List K} {target : T}
    (follows : N.Follows N.init labels target) (predicate : List K → T → Prop)
    (start : predicate [] N.init)
    (keeps : ∀ labels state label next, predicate labels state →
      N.step state label = some next → predicate (labels ++ [label]) next) :
    predicate labels target := by
  obtain ⟨trace, run, rfl⟩ := follows
  induction run with
  | nil => exact start
  | snoc _ step ih =>
      rw [List.map_append]
      exact keeps _ _ _ _ ih step

end Machine

end Foundation
