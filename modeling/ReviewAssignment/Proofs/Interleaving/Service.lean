import ReviewAssignment.Operation.Request
import ReviewAssignment.Proofs.Store.AllOrNothing
import Mathlib.Data.List.Induction

/-!
# Clients side by side

The service answers any number of clients at once.  A client runs the program of its request, and in
one step does one thing: it calls the store, draws, reads the clock or writes to the log.  Between
two steps of one client come any steps of the others; only a call of the store is carried out as a
whole.

`Service.run` is what a list of actions leads to, from the service without data and without clients.
An action lets a client enter, under settings of its own, or lets one take its next step, with a given
number for its draw and a given moment on its clock.  So a statement about every list of actions is
one about every interleaving, every outcome of the draws and every reading of the clocks; a client who
is cut off is one who is not let on any more.  The service keeps the history of all moves; a call
stands in it together with the store that it found.

`Service.run_induction` is the way to show what holds of every run, and `Service.exists_run_alone`
says that what `Program.run` does for one client is among the runs.
-/

namespace ReviewAssignment

open Time (Instant)

inductive Move where
  /-- A call of the store, and the store as the call found it. -/
  | asked (call : Store.Call) (found : Store)
  | drew (drawn : Drawn)
  | read (moment : Instant)
  | noted (entry : Log.Entry)
deriving DecidableEq, Repr

namespace Move

def after (store : Store) : Move → Store
  | .asked call _ => (store.perform call).2
  | _ => store

def isWrite : Move → Bool
  | .asked call _ => call.isWrite
  | _ => false

def applied : Move → Bool
  | .asked call found => call.applied (found.perform call).1
  | _ => false

def reading? : Move → Option Instant
  | .read moment => some moment
  | _ => none

def isDraw : Move → Bool
  | .drew _ => true
  | _ => false

theorem isWrite_of_applied {move : Move} (h : move.applied = true) : move.isWrite = true := by
  cases move with
  | asked call found => exact Store.Call.isWrite_of_applied h
  | _ => cases h

end Move

namespace Program

variable {α : Type}

/-- The next step of a program: the move, and what is left of the program after it. -/
def next? (store : Store) (raw : Nat) (moment : Instant) : Program α → Option (Move × Program α)
  | .done _ | .fail _ => none
  | .call asked next => some (.asked asked store, next (store.perform asked).1)
  | .draw others next =>
    let choice := Draws.alternative raw others
    some (.drew ⟨others + 1, choice⟩, next choice)
  | .clock next => some (.read moment, next moment)
  | .note entry rest => some (.noted entry, rest)

def outcome? : Program α → Option (Except Failure α)
  | .done result => some (.ok result)
  | .fail cause => some (.error cause)
  | _ => none

/-- A program has ended exactly when it has no next step. -/
theorem next?_eq_none_iff {program : Program α} {store : Store} {raw : Nat} {moment : Instant} :
    program.next? store raw moment = none ↔ program.outcome?.isSome = true := by
  cases program <;> simp [next?, outcome?]

end Program

/-- A client: what it asked, under which settings, and what is left of its program. -/
structure Client where
  settings : Settings
  request : Request
  rest : Program Reply

structure Event where
  client : Nat
  move : Move
deriving DecidableEq, Repr

inductive Action where
  /-- A client enters. -/
  | enter (settings : Settings) (request : Request)
  /-- A client takes its next step, if it has one. -/
  | advance (client : Nat) (raw : Nat) (moment : Instant)
deriving DecidableEq, Repr

def Action.advances (client : Nat) : Action → Bool
  | .advance other _ _ => other == client
  | .enter _ _ => false

theorem Action.advances_self (client raw : Nat) (moment : Instant) :
    (Action.advance client raw moment).advances client = true :=
  beq_self_eq_true client

/-- The service between two steps. -/
structure Service where
  store : Store
  /-- The clients that have entered, also those who have their answer. -/
  clients : List Client
  /-- All moves so far, in order. -/
  history : List Event

namespace Service

def initial : Service :=
  ⟨.empty, [], []⟩

def entered (service : Service) (settings : Settings) (request : Request) : Service :=
  { service with clients := service.clients ++ [⟨settings, request, request.program settings⟩] }

/-- Lets a client make a move, after which the rest of its program is left. -/
def advance (service : Service) (client : Nat) (actor : Client) (move : Move)
    (rest : Program Reply) : Service :=
  { store := move.after service.store
    clients := service.clients.set client { actor with rest }
    history := service.history ++ [⟨client, move⟩] }

/-- Carries out an action.  Nothing happens when a client is to advance who is not there or has its
answer. -/
def step (service : Service) : Action → Service
  | .enter settings request => service.entered settings request
  | .advance client raw moment =>
    match service.clients[client]? with
    | none => service
    | some actor =>
      match actor.rest.next? service.store raw moment with
      | none => service
      | some (move, rest) => service.advance client actor move rest

def run (actions : List Action) : Service :=
  actions.foldl step initial

def movesOf (service : Service) (client : Nat) : List Move :=
  (service.history.filter fun event => event.client == client).map Event.move

def outcome? (service : Service) (client : Nat) : Option (Except Failure Reply) :=
  service.clients[client]?.bind fun actor => actor.rest.outcome?

theorem run_append (before after : List Action) :
    run (before ++ after) = after.foldl step (run before) :=
  List.foldl_append

theorem run_concat (before : List Action) (action : Action) :
    run (before ++ [action]) = (run before).step action :=
  run_append before [action]

theorem step_of_next? {service : Service} {client raw : Nat} {moment : Instant} {actor : Client}
    {move : Move} {rest : Program Reply} (hActor : service.clients[client]? = some actor)
    (hNext : actor.rest.next? service.store raw moment = some (move, rest)) :
    service.step (.advance client raw moment) = service.advance client actor move rest := by
  rw [step, hActor]
  simp only [hNext]

theorem step_of_ended {service : Service} {client raw : Nat} {moment : Instant} {actor : Client}
    (hActor : service.clients[client]? = some actor)
    (hNext : actor.rest.next? service.store raw moment = none) :
    service.step (.advance client raw moment) = service := by
  rw [step, hActor]
  simp only [hNext]

/-- All that an action can do: nothing, let a client enter, or let one make a move. -/
theorem step_cases (service : Service) (action : Action) :
    service.step action = service ∨
      (∃ settings request, action = .enter settings request ∧
        service.step action = service.entered settings request) ∨
      ∃ client raw moment actor move rest, action = .advance client raw moment ∧
        service.clients[client]? = some actor ∧
        actor.rest.next? service.store raw moment = some (move, rest) ∧
        service.step action = service.advance client actor move rest := by
  cases action with
  | enter settings request => exact Or.inr (Or.inl ⟨settings, request, rfl, rfl⟩)
  | advance client raw moment =>
    cases hActor : service.clients[client]? with
    | none =>
      left
      rw [step, hActor]
    | some actor =>
      cases hNext : actor.rest.next? service.store raw moment with
      | none => exact Or.inl (step_of_ended hActor hNext)
      | some made =>
        right; right
        exact ⟨client, raw, moment, actor, made.1, made.2, rfl, hActor, hNext,
          step_of_next? hActor hNext⟩

/-- **What holds of every run**: it holds at the start, and entering and moving keep it. -/
theorem run_induction (holds : Service → Prop) (hInitial : holds initial)
    (hEntered : ∀ before settings request, holds (run before) →
      holds ((run before).entered settings request))
    (hAdvance : ∀ before client raw moment actor move rest, holds (run before) →
      (run before).clients[client]? = some actor →
      actor.rest.next? (run before).store raw moment = some (move, rest) →
      holds ((run before).advance client actor move rest))
    (actions : List Action) : holds (run actions) := by
  induction actions using List.reverseRecOn with
  | nil => exact hInitial
  | append_singleton before action ih =>
    rw [run_concat]
    rcases (run before).step_cases action with hIdle | hEnter | hMove
    · rw [hIdle]
      exact ih
    · obtain ⟨settings, request, -, hStep⟩ := hEnter
      rw [hStep]
      exact hEntered before settings request ih
    · obtain ⟨client, raw, moment, actor, move, rest, -, hActor, hNext, hStep⟩ := hMove
      rw [hStep]
      exact hAdvance before client raw moment actor move rest ih hActor hNext

/-- A call in the history found the store of its time. -/
theorem found_of_next? {α : Type} {program rest : Program α} {store found : Store} {raw : Nat}
    {moment : Instant} {call : Store.Call}
    (hNext : program.next? store raw moment = some (.asked call found, rest)) : found = store := by
  cases program with
  | call asked next =>
    rw [Program.next?, Option.some.injEq, Prod.mk.injEq] at hNext
    exact (Move.asked.inj hNext.1).2.symm
  | _ => simp [Program.next?] at hNext

/-! ### The clients -/

theorem entered_cases {service : Service} {settings : Settings} {request : Request} {client : Nat}
    {actor : Client} (hActor : (service.entered settings request).clients[client]? = some actor) :
    service.clients[client]? = some actor ∨
      client = service.clients.length ∧ actor = ⟨settings, request, request.program settings⟩ := by
  rw [entered, List.getElem?_append] at hActor
  split at hActor
  · exact Or.inl hActor
  · obtain ⟨hIndex, hEntered⟩ := List.getElem?_eq_some_iff.1 hActor
    rw [List.getElem_singleton] at hEntered
    rw [List.length_singleton] at hIndex
    exact Or.inr ⟨by omega, hEntered.symm⟩

/-! ### The moves of a client -/

@[simp] theorem movesOf_entered (service : Service) (settings : Settings) (request : Request)
    (client : Nat) : (service.entered settings request).movesOf client = service.movesOf client :=
  rfl

theorem movesOf_advance_self (service : Service) (client : Nat) (actor : Client) (move : Move)
    (rest : Program Reply) :
    (service.advance client actor move rest).movesOf client =
      service.movesOf client ++ [move] := by
  simp [movesOf, advance]

theorem movesOf_advance_of_ne (service : Service) {client other : Nat} (actor : Client)
    (move : Move) (rest : Program Reply) (hOther : client ≠ other) :
    (service.advance client actor move rest).movesOf other = service.movesOf other := by
  simp [movesOf, advance, hOther]

theorem mem_movesOf {service : Service} {client : Nat} {move : Move} :
    move ∈ service.movesOf client ↔ (⟨client, move⟩ : Event) ∈ service.history := by
  rw [movesOf, List.mem_map]
  constructor
  · rintro ⟨event, hEvent, rfl⟩
    obtain ⟨hMem, hClient⟩ := List.mem_filter.1 hEvent
    rw [← beq_iff_eq.1 hClient]
    exact hMem
  · intro hMem
    exact ⟨⟨client, move⟩, List.mem_filter.2 ⟨hMem, beq_self_eq_true client⟩, rfl⟩

/-- A client is left alone by the actions of others. -/
theorem untouched_step {service : Service} {client : Nat} {actor : Client} {action : Action}
    (hActor : service.clients[client]? = some actor) (hOther : action.advances client = false) :
    (service.step action).clients[client]? = some actor ∧
      (service.step action).movesOf client = service.movesOf client := by
  have hIndex := (List.getElem?_eq_some_iff.1 hActor).1
  rcases service.step_cases action with hIdle | hEnter | hMove
  · rw [hIdle]
    exact ⟨hActor, rfl⟩
  · obtain ⟨settings, request, -, hStep⟩ := hEnter
    rw [hStep, movesOf_entered, entered, List.getElem?_append_left hIndex]
    exact ⟨hActor, rfl⟩
  · obtain ⟨mover, raw, moment, moved, move, rest, rfl, -, -, hStep⟩ := hMove
    have hMover : mover ≠ client := fun hSame => Bool.eq_false_iff.1 hOther (beq_iff_eq.2 hSame)
    rw [hStep, movesOf_advance_of_ne _ _ _ _ hMover, advance, List.getElem?_set_ne hMover]
    exact ⟨hActor, rfl⟩

theorem client_lt_of_mem_history (actions : List Action) :
    ∀ event ∈ (run actions).history, event.client < (run actions).clients.length := by
  refine run_induction (fun service =>
    ∀ event ∈ service.history, event.client < service.clients.length) ?_ ?_ ?_ actions
  · exact List.forall_mem_nil _
  · intro before settings request ih event hEvent
    rw [entered, List.length_append]
    exact Nat.lt_add_right _ (ih event hEvent)
  · intro before client raw moment actor move rest ih hActor _ event hEvent
    rw [advance, List.length_set]
    rcases List.mem_append.1 hEvent with hOld | hNew
    · exact ih event hOld
    · rw [List.mem_singleton.1 hNew]
      exact (List.getElem?_eq_some_iff.1 hActor).1

theorem movesOf_eq_nil {actions : List Action} {client : Nat}
    (hClient : (run actions).clients.length ≤ client) : (run actions).movesOf client = [] := by
  rw [movesOf, List.map_eq_nil_iff, List.filter_eq_nil_iff]
  intro event hEvent hSame
  have hLess := client_lt_of_mem_history actions event hEvent
  rw [beq_iff_eq.1 hSame] at hLess
  exact Nat.not_lt.2 hClient hLess

/-- Who has not moved has all of its program before it. -/
theorem rest_of_movesOf_eq_nil (actions : List Action) :
    ∀ (client : Nat) (actor : Client), (run actions).clients[client]? = some actor →
      (run actions).movesOf client = [] → actor.rest = actor.request.program actor.settings := by
  refine run_induction (fun service =>
    ∀ (client : Nat) (actor : Client), service.clients[client]? = some actor →
      service.movesOf client = [] → actor.rest = actor.request.program actor.settings)
    ?_ ?_ ?_ actions
  · intro client actor hActor
    cases hActor
  · intro before settings request ih client actor hActor hMoves
    rcases entered_cases hActor with hOld | ⟨-, rfl⟩
    · exact ih client actor hOld hMoves
    · rfl
  · intro before mover raw moment moved move rest ih _ _ client actor hActor hMoves
    by_cases hSame : mover = client
    · subst hSame
      rw [movesOf_advance_self] at hMoves
      exact absurd (List.append_eq_nil_iff.1 hMoves).2 (List.cons_ne_nil _ _)
    · rw [movesOf_advance_of_ne _ _ _ _ hSame] at hMoves
      rw [advance, List.getElem?_set_ne hSame] at hActor
      exact ih client actor hActor hMoves

/-- Every event of the history happened at one point of the run. -/
theorem exists_action_of_mem_history {actions : List Action} {client : Nat} {move : Move}
    (hEvent : ⟨client, move⟩ ∈ (run actions).history) :
    ∃ early raw moment late actor rest,
      actions = early ++ Action.advance client raw moment :: late ∧
      (run early).clients[client]? = some actor ∧
      actor.rest.next? (run early).store raw moment = some (move, rest) ∧
      run (early ++ [.advance client raw moment]) =
        (run early).advance client actor move rest := by
  induction actions using List.reverseRecOn with
  | nil => cases hEvent
  | append_singleton before action ih =>
    by_cases hOld : ⟨client, move⟩ ∈ (run before).history
    · obtain ⟨early, raw, moment, late, actor, rest, rfl, hFacts⟩ := ih hOld
      refine ⟨early, raw, moment, late ++ [action], actor, rest, ?_, hFacts⟩
      rw [List.append_assoc, List.cons_append]
    · rw [run_concat] at hEvent
      rcases (run before).step_cases action with hIdle | hEnter | hMove
      · rw [hIdle] at hEvent
        exact absurd hEvent hOld
      · obtain ⟨settings, request, -, hStep⟩ := hEnter
        rw [hStep] at hEvent
        exact absurd hEvent hOld
      · obtain ⟨mover, raw, moment, actor, made, rest, rfl, hActor, hNext, hStep⟩ := hMove
        rw [hStep] at hEvent
        cases List.mem_singleton.1 ((List.mem_append.1 hEvent).resolve_left hOld)
        exact ⟨before, raw, moment, [], actor, rest, rfl, hActor, hNext,
          (run_concat before _).trans hStep⟩

/-! ### A client without company -/

theorem run_concat_of_next? {before : List Action} {client : Nat} (raw : Nat) (moment : Instant)
    {actor : Client} {move : Move} {rest : Program Reply}
    (hActor : (run before).clients[client]? = some actor)
    (hNext : actor.rest.next? (run before).store raw moment = some (move, rest)) :
    (run (before ++ [.advance client raw moment])).store = move.after (run before).store ∧
      (run (before ++ [.advance client raw moment])).clients[client]? =
        some { actor with rest } := by
  rw [run_concat, step_of_next? hActor hNext]
  exact ⟨rfl, List.getElem?_set_self (List.getElem?_eq_some_iff.1 hActor).1⟩

/-- **A run without company is one of the runs**: if only one client is let on, it comes to what
`Program.run` says, in the store and in the answer. -/
theorem exists_run_alone (outside : Program.Surroundings) (draws readings : Nat)
    {before : List Action} {client : Nat} {actor : Client}
    (hActor : (run before).clients[client]? = some actor) :
    ∃ after, (∀ action ∈ after, action.advances client = true) ∧
      (run (before ++ after)).outcome? client =
        some (actor.rest.run outside ⟨(run before).store, draws, readings⟩).1 ∧
      (run (before ++ after)).store =
        (actor.rest.run outside ⟨(run before).store, draws, readings⟩).2.session.store := by
  obtain ⟨settings, request, program⟩ := actor
  induction program generalizing before draws readings with
  | done result =>
    refine ⟨[], List.forall_mem_nil _, ?_, ?_⟩
    · rw [List.append_nil, outcome?, hActor]
      rfl
    · rw [List.append_nil]
      rfl
  | fail cause =>
    refine ⟨[], List.forall_mem_nil _, ?_, ?_⟩
    · rw [List.append_nil, outcome?, hActor]
      rfl
    · rw [List.append_nil]
      rfl
  | call asked next ih =>
    obtain ⟨hStore, hRest⟩ := run_concat_of_next? 0 default hActor rfl
    obtain ⟨after, hOwn, hOutcome, hAfter⟩ := ih _ draws readings hRest
    rw [hStore, List.append_assoc] at hOutcome hAfter
    exact ⟨_ :: after, List.forall_mem_cons.2 ⟨Action.advances_self .., hOwn⟩, hOutcome, hAfter⟩
  | draw others next ih =>
    obtain ⟨hStore, hRest⟩ :=
      run_concat_of_next? (outside.source draws) default hActor rfl
    obtain ⟨after, hOwn, hOutcome, hAfter⟩ := ih _ (draws + 1) readings hRest
    rw [hStore, List.append_assoc] at hOutcome hAfter
    exact ⟨_ :: after, List.forall_mem_cons.2 ⟨Action.advances_self .., hOwn⟩, hOutcome, hAfter⟩
  | clock next ih =>
    obtain ⟨hStore, hRest⟩ :=
      run_concat_of_next? 0 (outside.clock readings) hActor rfl
    obtain ⟨after, hOwn, hOutcome, hAfter⟩ := ih _ draws (readings + 1) hRest
    rw [hStore, List.append_assoc] at hOutcome hAfter
    exact ⟨_ :: after, List.forall_mem_cons.2 ⟨Action.advances_self .., hOwn⟩, hOutcome, hAfter⟩
  | note entry rest ih =>
    obtain ⟨hStore, hRest⟩ := run_concat_of_next? 0 default hActor rfl
    obtain ⟨after, hOwn, hOutcome, hAfter⟩ := ih draws readings hRest
    rw [hStore, List.append_assoc] at hOutcome hAfter
    exact ⟨_ :: after, List.forall_mem_cons.2 ⟨Action.advances_self .., hOwn⟩, hOutcome, hAfter⟩

end Service

end ReviewAssignment
