import Mathlib.Algebra.GroupWithZero.Nat
import Mathlib.Data.List.Basic

/-! # Executable transition systems

A machine is a start state and a partial step function: a label is enabled at a
state when the step function returns a successor there. The trace of a run
records the state and the label of each of its steps, so that a condition on
the steps of a run is a condition on the members of its trace
(`Foundation.Machine.Run.invariant_of`), and the states a run visits are those
of its trace together with its last state (`Foundation.Machine.Visited`).
-/

namespace Foundation

/-- A start state and a step function that is partial in the label. -/
structure Machine (State Label : Type*) where
  init : State
  step : State → Label → Option State

namespace Machine

variable {State Label : Type*}

/-- A finite run, with the state and the label of each step in order. -/
inductive Run (M : Machine State Label) : State → List (State × Label) → State → Prop where
  | nil (state : State) : Run M state [] state
  | snoc {source middle target : State} {trace : List (State × Label)} {label : Label} :
      Run M source trace middle → M.step middle label = some target →
        Run M source (trace ++ [(middle, label)]) target

/-- The states reached by the runs from the start state. -/
def Reachable (M : Machine State Label) (state : State) : Prop :=
  ∃ trace, M.Run M.init trace state

/-- The states of a run: where its steps start, and where it ends. -/
def Visited (trace : List (State × Label)) (final state : State) : Prop :=
  state = final ∨ ∃ label, (state, label) ∈ trace

/-- The steps taken when the labels of a list are tried in order, up to the
first one that is not enabled. -/
def steps (M : Machine State Label) : State → List Label → List (State × Label)
  | _, [] => []
  | state, label :: rest =>
      match M.step state label with
      | some next => (state, label) :: M.steps next rest
      | none => []

/-- The state in which these steps end. -/
def follow (M : Machine State Label) : State → List Label → State
  | state, [] => state
  | state, label :: rest =>
      match M.step state label with
      | some next => M.follow next rest
      | none => state

variable {M : Machine State Label}

theorem Reachable.initial : M.Reachable M.init :=
  ⟨[], .nil M.init⟩

/-- A step from a reachable state leads to one. -/
theorem Reachable.next {state target : State} {label : Label} (reached : M.Reachable state)
    (step : M.step state label = some target) : M.Reachable target := by
  obtain ⟨trace, run⟩ := reached
  exact ⟨trace ++ [(state, label)], run.snoc step⟩

/-- What a run has visited, it has visited after a further step. -/
theorem Visited.snoc {trace : List (State × Label)} {final state : State} {label : Label}
    (seen : Visited trace final state) (target : State) :
    Visited (trace ++ [(final, label)]) target state := by
  right
  rcases seen with rfl | ⟨before, member⟩
  · exact ⟨label, List.mem_append_right _ (List.mem_singleton_self _)⟩
  · exact ⟨before, List.mem_append_left _ member⟩

/-- What the end of a run has visited, the whole run has visited. -/
theorem Visited.append_left {front back : List (State × Label)} {final state : State}
    (seen : Visited back final state) : Visited (front ++ back) final state :=
  seen.imp id fun ⟨label, member⟩ => ⟨label, List.mem_append_right _ member⟩

namespace Run

/-- One run goes on with another. -/
theorem append {source middle target : State} {first second : List (State × Label)}
    (left : M.Run source first middle) (right : M.Run middle second target) :
    M.Run source (first ++ second) target := by
  induction right with
  | nil => simpa using left
  | snoc _ step ih =>
      rw [← List.append_assoc]
      exact ih.snoc step

/-- The start of a step of a run is the end of the run before it, and its label
is enabled there. -/
theorem parts {source final state : State} {front back : List (State × Label)} {label : Label}
    (run : M.Run source (front ++ (state, label) :: back) final) :
    ∃ target, M.Run source front state ∧ M.step state label = some target ∧
      M.Run target back final := by
  generalize whole : front ++ (state, label) :: back = trace at run
  induction run generalizing back with
  | nil => simp at whole
  | @snoc middle target earlier last before step ih =>
      rcases List.eq_nil_or_concat back with rfl | ⟨rest, entry, rfl⟩
      · obtain ⟨rfl, same⟩ := List.append_inj' whole rfl
        obtain ⟨rfl, rfl⟩ := Prod.mk.inj (List.singleton_inj.mp same)
        exact ⟨target, before, step, .nil target⟩
      · rw [List.concat_eq_append, ← List.cons_append, ← List.append_assoc] at whole
        obtain ⟨inside, same⟩ := List.append_inj' whole rfl
        obtain rfl := List.singleton_inj.mp same
        obtain ⟨next, reached, enabled, rest⟩ := ih inside
        rw [List.concat_eq_append]
        exact ⟨next, reached, enabled, rest.snoc step⟩

/-- A run falls apart at any of its steps. -/
theorem split {source final state : State} {trace : List (State × Label)} {label : Label}
    (run : M.Run source trace final) (member : (state, label) ∈ trace) :
    ∃ front back target, trace = front ++ (state, label) :: back ∧
      M.Run source front state ∧ M.step state label = some target ∧
      M.Run target back final := by
  obtain ⟨front, back, rfl⟩ := List.append_of_mem member
  obtain ⟨target, reached, enabled, rest⟩ := run.parts
  exact ⟨front, back, target, rfl, reached, enabled, rest⟩

/-- A map that carries the steps of a machine to steps of another carries its
runs to runs. -/
theorem map {Other : Type*} {N : Machine Other Label} {image : State → Other}
    (carries : ∀ {state label next}, M.step state label = some next →
      N.step (image state) label = some (image next))
    {source final : State} {trace : List (State × Label)} (run : M.Run source trace final) :
    N.Run (image source) (trace.map (Prod.map image id)) (image final) := by
  induction run with
  | nil => exact .nil _
  | snoc _ step ih =>
      rw [List.map_append]
      exact ih.snoc (carries step)

/-- A visited state is the end of an initial part of the run. -/
theorem visited {source final state : State} {trace : List (State × Label)}
    (run : M.Run source trace final) (seen : Visited trace final state) :
    ∃ front back, trace = front ++ back ∧ M.Run source front state ∧
      M.Run state back final := by
  rcases seen with rfl | ⟨label, member⟩
  · exact ⟨trace, [], (List.append_nil trace).symm, run, .nil state⟩
  · obtain ⟨front, back, target, parts, reached, enabled, rest⟩ := run.split member
    refine ⟨front, (state, label) :: back, parts, reached, ?_⟩
    simpa using (Run.snoc (.nil state) enabled).append rest

/-- What holds at the start and is kept by every step that meets a condition
holds at the end of every run all of whose steps meet it. -/
theorem invariant_of {source final : State} {trace : List (State × Label)}
    {condition : State → Label → Prop} {predicate : State → Prop}
    (run : M.Run source trace final)
    (meets : ∀ state label, (state, label) ∈ trace → condition state label)
    (start : predicate source)
    (keeps : ∀ state label target, predicate state → condition state label →
      M.step state label = some target → predicate target) : predicate final := by
  induction run with
  | nil => exact start
  | @snoc middle target front last _ step ih =>
      have earlier : ∀ state label, (state, label) ∈ front → condition state label :=
        fun state label member => meets state label (List.mem_append_left _ member)
      have here : condition middle last :=
        meets middle last (List.mem_append_right _ (List.mem_singleton_self _))
      exact keeps middle last target (ih earlier) here step

/-- What every step keeps holds from any state of a run on. -/
theorem invariant {source final : State} {trace : List (State × Label)}
    {predicate : State → Prop} (run : M.Run source trace final) (start : predicate source)
    (keeps : ∀ state label target, predicate state → M.step state label = some target →
      predicate target) : predicate final :=
  run.invariant_of (fun _ _ _ => trivial) start
    fun state label target holds (_ : True) step => keeps state label target holds step

/-- The end of a step of a run is visited. -/
theorem visited_next {source final state : State} {trace : List (State × Label)} {label : Label}
    (run : M.Run source trace final) (member : (state, label) ∈ trace) :
    ∃ target, M.step state label = some target ∧ Visited trace final target := by
  induction run with
  | nil => exact absurd member List.not_mem_nil
  | @snoc middle final front last earlier step ih =>
      rcases List.mem_append.mp member with inside | here
      · obtain ⟨target, enabled, seen⟩ := ih inside
        exact ⟨target, enabled, seen.snoc final⟩
      · obtain ⟨rfl, rfl⟩ := Prod.mk.inj (List.mem_singleton.mp here)
        exact ⟨final, step, .inl rfl⟩

/-- When every step pays for what it spends out of a potential and of what it is
granted, so does a run. -/
theorem amortized {source final : State} {trace : List (State × Label)}
    {predicate : State → Prop} (run : M.Run source trace final) (start : predicate source)
    (keeps : ∀ state label target, predicate state → M.step state label = some target →
      predicate target) (potential : State → Nat) (spent granted : Label → Nat)
    (pays : ∀ state label target, predicate state → M.step state label = some target →
      potential target + spent label ≤ potential state + granted label) :
    potential final + (trace.map fun entry => spent entry.2).sum ≤
      potential source + (trace.map fun entry => granted entry.2).sum := by
  induction run with
  | nil => exact Nat.le_refl _
  | @snoc middle target front last earlier step ih =>
      have here := pays middle last target (earlier.invariant start keeps) step
      simp only [List.map_append, List.map_cons, List.map_nil, List.sum_append_nat, List.sum_cons,
        List.sum_nil]
      omega

/-- Every state that a run from the start visits is reachable. -/
theorem reachable {final state : State} {trace : List (State × Label)}
    (run : M.Run M.init trace final) (seen : Visited trace final state) : M.Reachable state := by
  obtain ⟨front, _, _, reached, _⟩ := run.visited seen
  exact ⟨front, reached⟩

end Run

/-- What holds at the start and is kept by every step from a reachable state
holds at every reachable state. -/
theorem Reachable.invariant {state : State} (reached : M.Reachable state)
    (predicate : State → Prop) (start : predicate M.init)
    (keeps : ∀ state label target, M.Reachable state → predicate state →
      M.step state label = some target → predicate target) : predicate state := by
  obtain ⟨trace, run⟩ := reached
  have both : M.Reachable state ∧ predicate state := by
    have next : ∀ middle label target, M.Reachable middle ∧ predicate middle →
        M.step middle label = some target → M.Reachable target ∧ predicate target := by
      rintro middle label target ⟨reached, holds⟩ step
      exact ⟨reached.next step, keeps middle label target reached holds step⟩
    exact run.invariant ⟨.initial, start⟩ next
  exact both.2

/-- Trying labels in order takes the steps of a run. -/
theorem run_steps (M : Machine State Label) (source : State) (labels : List Label) :
    M.Run source (M.steps source labels) (M.follow source labels) := by
  induction labels generalizing source with
  | nil => exact .nil source
  | cons label rest ih =>
      cases step : M.step source label with
      | none =>
          simp only [steps, follow, step]
          exact .nil source
      | some next =>
          simp only [steps, follow, step]
          exact (Run.snoc (.nil source) step).append (ih next)

theorem follow_reachable (M : Machine State Label) (labels : List Label) :
    M.Reachable (M.follow M.init labels) :=
  ⟨_, M.run_steps M.init labels⟩

end Machine

end Foundation
