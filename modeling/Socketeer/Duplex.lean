import Mathlib.Data.List.Infix
import Socketeer.Foundation.Refinement

/-! # What a connection is for

Two queues without a bound, and the cause of the end. Messages that were
accepted are passed on in order, and frames that were read are received in
order. The connection stops once, and loses at most the last frame it has read
then; the cause, if there is one, is recorded once and told once.
-/

namespace Socketeer

open Foundation

variable {α ε : Type*}

/-- How far the end of a connection has come. -/
inductive DuplexPhase where
  | running
  | stopped
  | recorded
  deriving DecidableEq, Repr

/-- The messages accepted and not passed on yet, whether more are accepted, the
frames read and not received yet, whether there is somebody to receive them, and
the cause of the end that nobody was told yet. -/
structure Duplex (α ε : Type*) where
  outbound : List α
  accepting : Bool
  inbound : List α
  listening : Bool
  phase : DuplexPhase
  cause : Option ε

/-- What the users of a connection, its peer, and the task in between can tell of
each other. -/
inductive DuplexEvent (α ε : Type*) where
  | accept (message : α)
  | pass (message : α)
  | read (frame : α)
  | receive (frame : α)
  | stop (lost : Option α)
  | record (cause : Option ε)
  | discard
  | tell (cause : Option ε)
  | hangUp

namespace Duplex

def create (α ε : Type*) : Duplex α ε where
  outbound := []
  accepting := true
  inbound := []
  listening := true
  phase := .running
  cause := none

open Classical in
/-- What an event needs, and what it changes. -/
noncomputable def step (d : Duplex α ε) : DuplexEvent α ε → Option (Duplex α ε)
  | .accept message =>
      if d.accepting then some { d with outbound := d.outbound ++ [message] } else none
  | .pass message =>
      if d.phase = .running ∧ d.outbound.head? = some message then
        some { d with outbound := d.outbound.tail }
      else none
  | .read frame =>
      if d.phase = .running then
        some { d with inbound := if d.listening then d.inbound ++ [frame] else d.inbound }
      else none
  | .receive frame =>
      if d.inbound.head? = some frame then some { d with inbound := d.inbound.tail } else none
  | .stop lost =>
      if d.phase = .running ∧ lost.toList <:+ d.inbound then
        some { d with
          inbound := d.inbound.take (d.inbound.length - lost.toList.length)
          phase := .stopped }
      else none
  | .record cause =>
      if d.phase = .stopped then some { d with phase := .recorded, cause := cause } else none
  | .discard =>
      if d.phase = .recorded then some { d with outbound := [], accepting := false } else none
  | .tell cause =>
      if d.phase = .recorded ∧ d.cause = cause then some { d with cause := none } else none
  | .hangUp => some { d with inbound := [], listening := false }

end Duplex

/-- Every connection that there can be. -/
noncomputable def duplex (α ε : Type*) : Machine (Duplex α ε) (DuplexEvent α ε) where
  init := .create α ε
  step := Duplex.step

namespace DuplexEvent

/-- The message of an event, for the events of one kind. -/
def accepted? : DuplexEvent α ε → Option α
  | .accept message => some message
  | _ => none

def passed? : DuplexEvent α ε → Option α
  | .pass message => some message
  | _ => none

def read? : DuplexEvent α ε → Option α
  | .read frame => some frame
  | _ => none

def received? : DuplexEvent α ε → Option α
  | .receive frame => some frame
  | _ => none

/-- The cause that is recorded, if the end has one. -/
def recorded? : DuplexEvent α ε → Option ε
  | .record cause => cause
  | _ => none

/-- The cause that somebody is told. -/
def told? : DuplexEvent α ε → Option ε
  | .tell cause => cause
  | _ => none

end DuplexEvent

namespace Duplex

open DuplexEvent

/-- Messages are passed on in the order in which they were accepted. -/
structure Outbound (events : List (DuplexEvent α ε)) (d : Duplex α ε) : Prop where
  inOrder : events.filterMap passed? ++ d.outbound <+: events.filterMap accepted?
  kept : d.accepting → events.filterMap passed? ++ d.outbound = events.filterMap accepted?

/-- Frames are received in the order in which they were read. -/
structure Inbound (events : List (DuplexEvent α ε)) (d : Duplex α ε) : Prop where
  inOrder : events.filterMap received? ++ d.inbound <+: events.filterMap read?
  kept : d.phase = .running → d.listening →
    events.filterMap received? ++ d.inbound = events.filterMap read?
  unheard : d.listening = false → d.inbound = []

/-- The cause is told once, after it was recorded. -/
structure Told (events : List (DuplexEvent α ε)) (d : Duplex α ε) : Prop where
  once : events.filterMap told? ++ d.cause.toList = events.filterMap recorded?
  early : d.phase ≠ .recorded → events.filterMap recorded? = []
  single : (events.filterMap recorded?).length ≤ 1

/-- Whatever happens to a connection happens in order. -/
structure Ordered (events : List (DuplexEvent α ε)) (d : Duplex α ε) : Prop where
  outbound : Outbound events d
  inbound : Inbound events d
  told : Told events d

variable {events : List (DuplexEvent α ε)} {d next : Duplex α ε} {event : DuplexEvent α ε}

/-- What one more event adds. -/
private theorem filterMap_concat {β γ : Type*} (f : β → Option γ) (list : List β) (last : β) :
    (list ++ [last]).filterMap f = list.filterMap f ++ (f last).toList := by
  rw [List.filterMap_append]
  cases here : f last <;> simp [here]

/-- An event that is none of the outbound side. -/
theorem Outbound.frame (ordered : Outbound events d) (passed : event.passed? = none)
    (accepted : event.accepted? = none) (outbound : next.outbound = d.outbound)
    (accepting : next.accepting = d.accepting) : Outbound (events ++ [event]) next := by
  constructor
  · rw [filterMap_concat, filterMap_concat, passed, accepted, outbound]
    simpa using ordered.inOrder
  · rw [filterMap_concat, filterMap_concat, passed, accepted, outbound, accepting]
    simpa using ordered.kept

/-- An event that is none of the inbound side, and no end of it. -/
theorem Inbound.frame (ordered : Inbound events d) (received : event.received? = none)
    (read : event.read? = none) (inbound : next.inbound = d.inbound)
    (listening : next.listening = d.listening)
    (phase : next.phase = .running → d.phase = .running) : Inbound (events ++ [event]) next := by
  constructor
  · rw [filterMap_concat, filterMap_concat, received, read, inbound]
    simpa using ordered.inOrder
  · rw [filterMap_concat, filterMap_concat, received, read, inbound, listening]
    simpa using fun running => ordered.kept (phase running)
  · rw [listening, inbound]
    exact ordered.unheard

/-- An event that has nothing to do with the cause. -/
theorem Told.frame (ordered : Told events d) (told : event.told? = none)
    (recorded : event.recorded? = none) (cause : next.cause = d.cause)
    (phase : d.phase = .recorded → next.phase = .recorded) : Told (events ++ [event]) next := by
  constructor
  · rw [filterMap_concat, filterMap_concat, told, recorded, cause]
    simpa using ordered.once
  · rw [filterMap_concat, recorded]
    simpa using fun before => ordered.early (mt phase before)
  · rw [filterMap_concat, recorded]
    simpa using ordered.single

/-- An event of another kind adds nothing. -/
private theorem filterMap_silent {β γ : Type*} {f : β → Option γ} (list : List β) {last : β}
    (silent : f last = none) : (list ++ [last]).filterMap f = list.filterMap f := by
  rw [filterMap_concat, silent]
  exact List.append_nil _

/-- The head of a queue and what is behind it. -/
private theorem cons_tail {list : List α} {first : α} (head : list.head? = some first) :
    [first] ++ list.tail = list := by
  obtain ⟨rest, rfl⟩ := List.head?_eq_some_iff.mp head
  rfl

/-- A message that is accepted waits behind the others. -/
theorem Outbound.accept (ordered : Outbound events d) (accepting : d.accepting = true)
    {message : α} (outbound : next.outbound = d.outbound ++ [message]) :
    Outbound (events ++ [.accept message]) next := by
  have whole : (events ++ [DuplexEvent.accept message]).filterMap passed? ++ next.outbound =
      (events ++ [DuplexEvent.accept message]).filterMap accepted? := by
    rw [filterMap_silent events rfl, filterMap_concat, ← ordered.kept accepting, outbound,
      List.append_assoc]
    rfl
  exact ⟨whole ▸ List.prefix_refl _, fun _ => whole⟩

/-- The first message that waits is passed on. -/
theorem Outbound.pass (ordered : Outbound events d) {message : α}
    (first : d.outbound.head? = some message) (outbound : next.outbound = d.outbound.tail)
    (accepting : next.accepting = d.accepting) : Outbound (events ++ [.pass message]) next := by
  have moved : (events ++ [DuplexEvent.pass message]).filterMap passed? ++ next.outbound =
      events.filterMap passed? ++ d.outbound := by
    rw [filterMap_concat, outbound, List.append_assoc]
    exact congrArg _ (cons_tail first)
  constructor
  · rw [moved, filterMap_silent events rfl]
    exact ordered.inOrder
  · rw [moved, filterMap_silent events rfl, accepting]
    exact ordered.kept

/-- What still waits at the end is not passed on. -/
theorem Outbound.discard (ordered : Outbound events d) (outbound : next.outbound = [])
    (accepting : next.accepting = false) : Outbound (events ++ [.discard]) next := by
  constructor
  · rw [filterMap_silent events rfl, filterMap_silent events rfl, outbound, List.append_nil]
    exact (List.prefix_append _ _).trans ordered.inOrder
  · rw [accepting]
    nofun

/-- A frame that is read waits behind the others, if somebody listens. -/
theorem Inbound.read (ordered : Inbound events d) (running : d.phase = .running) {frame : α}
    (inbound : next.inbound = if d.listening then d.inbound ++ [frame] else d.inbound)
    (listening : next.listening = d.listening) : Inbound (events ++ [.read frame]) next := by
  have received : (events ++ [DuplexEvent.read frame]).filterMap received? =
      events.filterMap received? := filterMap_silent events rfl
  have read : (events ++ [DuplexEvent.read frame]).filterMap read? =
      events.filterMap read? ++ [frame] := filterMap_concat ..
  cases heard : d.listening with
  | true =>
      rw [heard, if_pos rfl] at inbound
      have whole := ordered.kept running heard
      constructor
      · rw [received, read, inbound, ← List.append_assoc, whole]
      · rw [received, read, inbound, ← List.append_assoc, whole]
        exact fun _ _ => rfl
      · rw [listening, heard]
        nofun
  | false =>
      rw [heard, if_neg Bool.false_ne_true] at inbound
      constructor
      · rw [received, read, inbound]
        exact ordered.inOrder.trans (List.prefix_append _ _)
      · rw [listening, heard]
        nofun
      · rw [inbound]
        exact fun _ => ordered.unheard heard

/-- The first frame that waits is received. -/
theorem Inbound.receive (ordered : Inbound events d) {frame : α}
    (first : d.inbound.head? = some frame) (inbound : next.inbound = d.inbound.tail)
    (listening : next.listening = d.listening) (phase : next.phase = d.phase) :
    Inbound (events ++ [.receive frame]) next := by
  have moved : (events ++ [DuplexEvent.receive frame]).filterMap received? ++ next.inbound =
      events.filterMap received? ++ d.inbound := by
    rw [filterMap_concat, inbound, List.append_assoc]
    exact congrArg _ (cons_tail first)
  constructor
  · rw [moved, filterMap_silent events rfl]
    exact ordered.inOrder
  · rw [moved, filterMap_silent events rfl, listening, phase]
    exact ordered.kept
  · intro gone
    rw [ordered.unheard (listening ▸ gone)] at first
    cases first

/-- What was read is cut off at its end, and nothing more is read. -/
theorem Inbound.cut (ordered : Inbound events d) (received : event.received? = none)
    (read : event.read? = none) (inbound : next.inbound <+: d.inbound)
    (ends : next.phase = .running → next.listening = false)
    (unheard : next.listening = false → next.inbound = []) :
    Inbound (events ++ [event]) next := by
  constructor
  · rw [filterMap_silent events received, filterMap_silent events read]
    exact ((List.prefix_append_right_inj _).mpr inbound).trans ordered.inOrder
  · intro running heard
    rw [ends running] at heard
    cases heard
  · exact unheard

/-- The cause is recorded where none was recorded before. -/
theorem Told.record (ordered : Told events d) (stopped : d.phase = .stopped) {cause : Option ε}
    (holds : next.cause = cause) (phase : next.phase = .recorded) :
    Told (events ++ [.record cause]) next := by
  have none := ordered.early (by rw [stopped]; nofun)
  have once := ordered.once
  rw [none, List.append_eq_nil_iff] at once
  have recorded : (events ++ [DuplexEvent.record cause]).filterMap recorded? = cause.toList := by
    rw [filterMap_concat, none]
    rfl
  constructor
  · rw [recorded, filterMap_silent events rfl, once.1, holds]
    rfl
  · exact fun before => absurd phase before
  · rw [recorded]
    exact Option.length_toList_le

/-- Whoever asks is told the cause that is there, which is gone then. -/
theorem Told.tell (ordered : Told events d) (recorded : next.phase = .recorded)
    (empty : next.cause = none) : Told (events ++ [.tell d.cause]) next := by
  constructor
  · rw [filterMap_silent (f := recorded?) events rfl, filterMap_concat, ← ordered.once, empty]
    exact List.append_nil _
  · exact fun before => absurd recorded before
  · rw [filterMap_silent events rfl]
    exact ordered.single

/-- What one event does to the account. -/
theorem Ordered.step (ordered : Ordered events d) (step : d.step event = some next) :
    Ordered (events ++ [event]) next := by
  obtain ⟨outbound, inbound, told⟩ := ordered
  cases event with
  | accept message =>
      simp only [Duplex.step, Option.ite_none_right_eq_some] at step
      obtain ⟨accepting, same⟩ := step
      obtain rfl := Option.some.inj same
      exact ⟨outbound.accept accepting rfl, inbound.frame rfl rfl rfl rfl id,
        told.frame rfl rfl rfl id⟩
  | pass message =>
      simp only [Duplex.step, Option.ite_none_right_eq_some] at step
      obtain ⟨⟨_, first⟩, same⟩ := step
      obtain rfl := Option.some.inj same
      exact ⟨outbound.pass first rfl rfl, inbound.frame rfl rfl rfl rfl id,
        told.frame rfl rfl rfl id⟩
  | read frame =>
      simp only [Duplex.step, Option.ite_none_right_eq_some] at step
      obtain ⟨running, same⟩ := step
      obtain rfl := Option.some.inj same
      exact ⟨outbound.frame rfl rfl rfl rfl, inbound.read running rfl rfl,
        told.frame rfl rfl rfl id⟩
  | receive frame =>
      simp only [Duplex.step, Option.ite_none_right_eq_some] at step
      obtain ⟨first, same⟩ := step
      obtain rfl := Option.some.inj same
      exact ⟨outbound.frame rfl rfl rfl rfl, inbound.receive first rfl rfl rfl,
        told.frame rfl rfl rfl id⟩
  | stop lost =>
      simp only [Duplex.step, Option.ite_none_right_eq_some] at step
      obtain ⟨⟨running, _⟩, same⟩ := step
      obtain rfl := Option.some.inj same
      refine ⟨outbound.frame rfl rfl rfl rfl,
        inbound.cut rfl rfl (List.take_prefix _ _) nofun fun gone => ?_,
        told.frame rfl rfl rfl fun recorded => ?_⟩
      · have empty := inbound.unheard gone
        change d.inbound.take _ = []
        rw [empty, List.take_nil]
      · rw [running] at recorded
        cases recorded
  | record cause =>
      simp only [Duplex.step, Option.ite_none_right_eq_some] at step
      obtain ⟨stopped, same⟩ := step
      obtain rfl := Option.some.inj same
      exact ⟨outbound.frame rfl rfl rfl rfl, inbound.frame rfl rfl rfl rfl nofun,
        told.record stopped rfl rfl⟩
  | discard =>
      simp only [Duplex.step, Option.ite_none_right_eq_some] at step
      obtain ⟨_, same⟩ := step
      obtain rfl := Option.some.inj same
      exact ⟨outbound.discard rfl rfl, inbound.frame rfl rfl rfl rfl id,
        told.frame rfl rfl rfl id⟩
  | tell cause =>
      simp only [Duplex.step, Option.ite_none_right_eq_some] at step
      obtain ⟨⟨recorded, rfl⟩, same⟩ := step
      obtain rfl := Option.some.inj same
      exact ⟨outbound.frame rfl rfl rfl rfl, inbound.frame rfl rfl rfl rfl id,
        told.tell recorded rfl⟩
  | hangUp =>
      obtain rfl := Option.some.inj step
      exact ⟨outbound.frame rfl rfl rfl rfl,
        inbound.cut rfl rfl List.nil_prefix (fun _ => rfl) fun _ => rfl,
        told.frame rfl rfl rfl id⟩

/-- Whatever a connection does is in order. -/
theorem ordered (follows : (duplex α ε).Follows (.create α ε) events d) : Ordered events d := by
  refine Machine.Follows.invariant (N := duplex α ε) follows Ordered ?_ ?_
  · constructor
    case outbound => exact ⟨List.prefix_refl _, fun _ => rfl⟩
    case inbound => exact ⟨List.prefix_refl _, fun _ _ => rfl, nofun⟩
    case told => exact ⟨rfl, fun _ => rfl, Nat.zero_le _⟩
  · exact fun _ _ _ _ ordered step => ordered.step step

end Duplex

end Socketeer
