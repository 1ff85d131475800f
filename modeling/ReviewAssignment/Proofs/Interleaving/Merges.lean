import ReviewAssignment.Proofs.Interleaving.Records

/-!
# Merges side by side

A merge is a conditional write and a reading afterwards, and others may come in between.  All the same
only one merge of a pull request ever applies, what is merged never changes again, and every merge
that succeeds is answered with the same pull request.  Who starts to reassign a reviewer after that is
turned away after four steps, none of them a draw.

Being turned away is `Program.FailsWithin`: the program reads and logs for a number of steps and then
fails, whatever others write meanwhile.  `TurnsAway.step` says what one action of anybody leaves of these
steps, and `TurnsAway.run` what a run leaves.
-/

namespace ReviewAssignment

open Time (Instant)
open Store (Call)

variable {α : Type}

/-- The steps of a program that is turned away, as long as some are left: it reads the store, or writes to
the log. -/
def Rules.turningAway : Rules (Nat × Store) where
  call account asked rest :=
    match account with
    | (0, _) => False
    | (steps + 1, store) => asked.isWrite = false ∧
      ∀ later, store.Leads later → rest (later.perform asked).1 (steps, later)
  draw _ := False
  clock _ _ := False
  note account rest :=
    match account with
    | (0, _) => False
    | (steps + 1, store) => rest (steps, store)
  call_mono {account} {_} {_} {_} hRest hCall := by
    obtain ⟨_ | steps, store⟩ := account
    · exact hCall
    · exact ⟨hCall.1, fun later hLater => hRest _ _ (hCall.2 later hLater)⟩
  clock_mono _ hClock := hClock
  note_mono {account} {_} {_} hRest hNote := by
    obtain ⟨_ | steps, store⟩ := account
    · exact hNote
    · exact hRest _ hNote

namespace Program

/-- **A program that is turned away**: within the given number of steps, each of which reads the store
or writes to the log, it fails with the given cause. -/
def FailsWithin (cause : Failure) (steps : Nat) (store : Store) (program : Program α) : Prop :=
  program.Obeys .turningAway (fun _ _ => False) (fun given _ => given = cause) (steps, store)

variable {cause : Failure} {steps : Nat} {store later : Store} {program rest : Program α}

theorem FailsWithin.of_leads (h : program.FailsWithin cause steps store)
    (hLater : store.Leads later) : program.FailsWithin cause steps later := by
  induction program generalizing steps store later with
  | done result => exact h
  | fail given => exact h
  | call asked next ih =>
    cases steps with
    | zero => exact h
    | succ steps => exact ⟨h.1, fun last hLast => h.2 last (hLater.trans hLast)⟩
  | draw others next ih => exact absurd h.1 id
  | clock next ih => exact h
  | note entry rest ih =>
    cases steps with
    | zero => exact h
    | succ steps => exact ih h hLater

theorem FailsWithin.next (h : program.FailsWithin cause steps store) (hLater : store.Leads later)
    {raw : Nat} {moment : Instant} {move : Move}
    (hNext : program.next? later raw moment = some (move, rest)) :
    ∃ left, steps = left + 1 ∧ move.isDraw = false ∧
      rest.FailsWithin cause left (move.after later) := by
  cases program with
  | call asked next =>
    cases steps with
    | zero => cases h
    | succ steps =>
      cases hNext
      refine ⟨steps, rfl, rfl, ?_⟩
      rw [Move.after, Store.perform_of_not_isWrite _ h.1]
      exact h.2 later hLater
  | note entry rest =>
    cases steps with
    | zero => cases h
    | succ steps =>
      cases hNext
      exact ⟨steps, rfl, rfl, FailsWithin.of_leads h hLater⟩
  | done result => cases hNext
  | fail given => cases hNext
  | draw others next => cases h.1
  | clock next => cases h

/-- Whoever is turned away is answered with the cause or not at all. -/
theorem FailsWithin.outcome (h : program.FailsWithin cause steps store)
    {outcome : Except Failure α} (hOutcome : program.outcome? = some outcome) :
    outcome = .error cause := by
  cases program with
  | done result => cases h
  | fail given =>
    cases hOutcome
    exact congrArg _ h
  | _ => cases hOutcome

theorem FailsWithin.outcome?_zero (h : program.FailsWithin cause 0 store) :
    program.outcome? = some (.error cause) := by
  cases program with
  | fail given => exact congrArg _ (congrArg _ h)
  | draw others next => cases h.1
  | _ => cases h

end Program

/-- Who starts to reassign a reviewer of a merged pull request is turned away. -/
theorem Request.reassign_failsWithin {store : Store} {id : PullRequestId} {row : PullRequestRow}
    (hRow : store.pullRequestRow? id = some row) (hMerged : row.status = .merged)
    (hId : Text.isBlank id = false) {old : UserId} (hOld : Text.isBlank old = false)
    (settings : Settings) :
    ((Request.reassign id old).program settings).FailsWithin (.alreadyMerged id) 4 store := by
  rw [program, steps, Operation.reassign, Operation.require, Operation.require,
    Operation.blankFault?_eq_none_iff.2 hId, Operation.blankFault?_eq_none_iff.2 hOld]
  refine ⟨rfl, fun first hFirst => ?_⟩
  rw [show (first.perform (.pullRequestRow id)).1 = some row from
    hFirst.evolves.pullRequestRow?_merged hRow hMerged]
  refine ⟨rfl, fun second hSecond => ?_⟩
  rw [show (second.perform (.reviewersOf id)).1 = second.reviewersOf id from rfl]
  simp only [Program.bind, hSecond.consistent.assemble_reviewersOf row id]
  have hFault : Operation.swapFault? id old (row.withSlots
      ⟨second.reviewersOf id, hSecond.consistent.nodup_reviewersOf id⟩) =
        some (.alreadyMerged id) := by
    rw [Operation.swapFault?, if_pos]
    rw [PullRequest.isMerged, PullRequestRow.withSlots, hMerged]
    rfl
  change Program.FailsWithin _ 1 second (Program.reporting _ (Program.bind (Program.bind
    (Program.check (Operation.swapFault? id old (row.withSlots _))) _) _))
  rw [hFault]
  rfl

namespace Service

/-- A client is on the way to being turned away, with so many steps left at most. -/
structure TurnsAway (service : Service) (client : Nat) (cause : Failure) (left : Nat) (actor : Client) :
    Prop where
  present : service.clients[client]? = some actor
  fails : actor.rest.FailsWithin cause left service.store
  noDraw : ∀ move ∈ service.movesOf client, move.isDraw = false

section

variable {before : List Action} {client left : Nat} {cause : Failure} {actor : Client}

/-- What others do changes nothing about it. -/
theorem TurnsAway.of_other (h : (run before).TurnsAway client cause left actor) {action : Action}
    (hOther : action.advances client = false) :
    (run (before ++ [action])).TurnsAway client cause left actor := by
  have hLeads := leads_run before [action]
  rw [run_concat] at *
  obtain ⟨hSame, hSameMoves⟩ := untouched_step h.present hOther
  refine ⟨hSame, h.fails.of_leads hLeads, ?_⟩
  rw [hSameMoves]
  exact h.noDraw

/-- The client's own move is no draw, and takes one of the steps. -/
theorem TurnsAway.of_next (h : (run before).TurnsAway client cause left actor) {raw : Nat}
    {moment : Instant} {move : Move} {rest : Program Reply}
    (hNext : actor.rest.next? (run before).store raw moment = some (move, rest)) :
    ∃ fewer, left = fewer + 1 ∧ (run (before ++ [.advance client raw moment])).TurnsAway client cause
      fewer { actor with rest } := by
  have hSelf := (lawful_run before).sound.toConsistent.leads_refl
  obtain ⟨fewer, hFewer, hNoDraw, hRest⟩ := h.fails.next hSelf hNext
  have hIndex := (List.getElem?_eq_some_iff.1 h.present).1
  refine ⟨fewer, hFewer, ?_⟩
  rw [run_concat, step_of_next? h.present hNext]
  refine ⟨List.getElem?_set_self hIndex, hRest, fun other hOther => ?_⟩
  rw [movesOf_advance_self] at hOther
  rcases List.mem_append.1 hOther with hOld | hNew
  · exact h.noDraw other hOld
  · rw [List.mem_singleton.1 hNew]
    exact hNoDraw

/-- One action: as long as the client has no answer, it takes a step each time it may. -/
theorem TurnsAway.step (h : (run before).TurnsAway client cause left actor) (action : Action) :
    ∃ later fewer, (run (before ++ [action])).TurnsAway client cause fewer later ∧
      (later.rest.outcome? = none → actor.rest.outcome? = none ∧
        fewer + ([action].filter (Action.advances client)).length = left) := by
  cases hAdvances : action.advances client with
  | false =>
    rw [List.filter_cons_of_neg (Bool.eq_false_iff.1 hAdvances)]
    exact ⟨actor, left, h.of_other hAdvances, fun hOpen => ⟨hOpen, rfl⟩⟩
  | true =>
    rw [List.filter_cons_of_pos hAdvances]
    cases action with
    | enter settings request => cases hAdvances
    | advance mover raw moment =>
      obtain rfl : mover = client := beq_iff_eq.1 hAdvances
      cases hNext : actor.rest.next? (run before).store raw moment with
      | none =>
        rw [run_concat, step_of_ended h.present hNext]
        refine ⟨actor, left, h, fun hOpen => ?_⟩
        have hEnded := Program.next?_eq_none_iff.1 hNext
        rw [hOpen] at hEnded
        cases hEnded
      | some made =>
        obtain ⟨move, rest⟩ := made
        obtain ⟨fewer, hFewer, hStep⟩ := h.of_next hNext
        have hOpen : actor.rest.outcome? = none := by
          rw [← Option.not_isSome_iff_eq_none, ← Program.next?_eq_none_iff, hNext]
          intro hNone
          cases hNone
        exact ⟨{ actor with rest }, fewer, hStep, fun _ => ⟨hOpen, hFewer.symm⟩⟩

/-- Whoever is turned away makes no draw and goes on until the answer, one step for each time it
may. -/
theorem TurnsAway.run (h : (run before).TurnsAway client cause left actor) (after : List Action) :
    ∃ later fewer, (Service.run (before ++ after)).TurnsAway client cause fewer later ∧
      (later.rest.outcome? = none →
        fewer + (after.filter (Action.advances client)).length = left) := by
  -- `fewer` goes down exactly when the client is let on.
  induction after using List.reverseRecOn with
  | nil =>
    rw [List.append_nil]
    exact ⟨actor, left, h, fun _ => rfl⟩
  | append_singleton after action ih =>
    obtain ⟨now, soFar, hNow, hCount⟩ := ih
    obtain ⟨later, fewer, hLater, hStep⟩ := hNow.step action
    rw [← List.append_assoc]
    refine ⟨later, fewer, hLater, fun hOpen => ?_⟩
    obtain ⟨hStillOpen, hFewer⟩ := hStep hOpen
    rw [List.filter_append, List.length_append, ← hCount hStillOpen, ← hFewer]
    omega

end

theorem filterMap_reading?_deedsOf (moves : List Move) :
    (Move.deedsOf moves).filterMap Move.reading? = moves.filterMap Move.reading? := by
  rw [Move.deedsOf, List.filterMap_filter]
  refine List.filterMap_congr fun move _ => ?_
  cases move with
  | asked call found => exact ite_self none
  | _ => rfl

variable {id : PullRequestId} {pr : PullRequest}

/-- What is merged was merged once, by a client who asked for it, at the moment this client read
from its clock. -/
theorem exists_merger_of_merged {actions : List Action}
    (hStored : (run actions).store.pullRequest? id = .ok (some pr)) (hMerged : pr.status = .merged) :
    ∃ merger, pr.mergedAt = some merger.moment ∧ (run actions).merges id = [merger] ∧
      ((run actions).movesOf merger.client).filterMap Move.reading? = [merger.moment] ∧
      ∃ winner : Client, (run actions).clients[merger.client]? = some winner ∧
        winner.request = .merge id := by
  have hSound := (lawful_run actions).sound
  obtain ⟨hRow, -⟩ := hSound.toConsistent.pullRequest?_eq_some_iff.1 hStored
  obtain ⟨-, -, -, -, -, -, -, -, hMoments⟩ := (recorded_run actions id).present pr.row hRow
  obtain ⟨moment, hMoment⟩ := Option.isSome_iff_exists.1
    ((hSound.mergedAt pr.row (Store.pullRequestRow?_some hRow).1).1 hMerged)
  rw [hMoment, Option.toList_some, List.map_eq_singleton_iff] at hMoments
  obtain ⟨merger, hMerges, rfl⟩ := hMoments
  have hMem : merger ∈ (run actions).merges id := by
    rw [hMerges]
    exact List.mem_singleton_self merger
  obtain ⟨winner, found, hWinner, hRequest, hDeeds⟩ := exists_merger hMem
  refine ⟨merger, hMoment, hMerges, ?_, winner, hWinner, hRequest⟩
  rw [← filterMap_reading?_deedsOf, hDeeds]
  rfl

/-- What is merged stays as it is. -/
theorem pullRequest?_of_merged {before : List Action} (after : List Action)
    (hStored : (run before).store.pullRequest? id = .ok (some pr)) (hMerged : pr.status = .merged) :
    (run (before ++ after)).store.pullRequest? id = .ok (some pr) := by
  obtain ⟨hRow, -⟩ := (lawful_run before).sound.toConsistent.pullRequest?_eq_some_iff.1 hStored
  rw [(leads_run before after).evolves.pullRequest?_merged hRow hMerged, hStored]

/-- A pull request is merged at most once. -/
theorem length_merges_le_one (actions : List Action) (id : PullRequestId) :
    ((run actions).merges id).length ≤ 1 := by
  have hRecorded := recorded_run actions id
  cases hRow : (run actions).store.pullRequestRow? id with
  | none =>
    rw [(hRecorded.missing hRow).2.2]
    exact Nat.zero_le 1
  | some row =>
    obtain ⟨-, -, -, -, -, -, -, -, hMoments⟩ := hRecorded.present row hRow
    rw [← List.length_map Merger.moment, hMoments]
    cases row.mergedAt with
    | none => exact Nat.zero_le 1
    | some moment => exact Nat.le_refl 1

/-- **Merges agree, and what is merged is frozen.**  At any point of a run, and from it to any later
one:

* at most one merge of a pull request has applied;
* a merged pull request is the same at the later point;
* all merges that are answered with a result are answered with one pull request, whose merge moment is
  the only reading of the clock by the one client whose merge applied;
* a client with a reassignment of a merged pull request before it makes no draw and fails with
  `alreadyMerged`, at the latest when it has been let on four times. -/
theorem merges_run (before after : List Action) (id : PullRequestId) :
    ((run before).merges id).length ≤ 1 ∧
    (∀ pr, (run before).store.pullRequest? id = .ok (some pr) → pr.status = .merged →
      (run (before ++ after)).store.pullRequest? id = .ok (some pr)) ∧
    (∃ pr merger, ∀ client actor reply, (run before).clients[client]? = some actor →
      actor.request = .merge id → (run before).outcome? client = some (.ok reply) →
        reply = .pullRequest pr ∧ pr.status = .merged ∧ pr.mergedAt = some merger.moment ∧
          (run before).merges id = [merger] ∧
          ((run before).movesOf merger.client).filterMap Move.reading? = [merger.moment] ∧
          ∃ winner : Client, (run before).clients[merger.client]? = some winner ∧
            winner.request = .merge id) ∧
    ∀ pr, (run before).store.pullRequest? id = .ok (some pr) → pr.status = .merged →
      ∀ client actor old, (run before).clients[client]? = some actor →
        actor.request = .reassign id old → Text.isBlank id = false → Text.isBlank old = false →
        (run before).movesOf client = [] →
          (∀ move ∈ (run (before ++ after)).movesOf client, move.isDraw = false) ∧
          (∀ outcome, (run (before ++ after)).outcome? client = some outcome →
            outcome = .error (.alreadyMerged id)) ∧
          (4 ≤ (after.filter (Action.advances client)).length →
            (run (before ++ after)).outcome? client = some (.error (.alreadyMerged id))) := by
  refine ⟨length_merges_le_one before id, fun pr => pullRequest?_of_merged after, ?_, ?_⟩
  · by_cases hAny : ∃ pr, (run before).store.pullRequest? id = .ok (some pr) ∧ pr.status = .merged
    · obtain ⟨pr, hStored, hMerged⟩ := hAny
      obtain ⟨merger, hRecord⟩ := exists_merger_of_merged hStored hMerged
      refine ⟨pr, merger, fun client actor reply hActor hRequest hOutcome => ?_⟩
      have hConcludes := concludes_of_outcome? hActor hOutcome
      rw [hRequest] at hConcludes
      obtain ⟨answered, -, -, hReply, -, hAnswered, -⟩ := hConcludes
      rw [hStored, Except.ok.injEq, Option.some.injEq] at hAnswered
      rw [hReply, ← hAnswered]
      exact ⟨rfl, hMerged, hRecord⟩
    · -- No merge has been answered with a result.
      refine ⟨default, ⟨0, default⟩, fun client actor reply hActor hRequest hOutcome => ?_⟩
      have hConcludes := concludes_of_outcome? hActor hOutcome
      rw [hRequest] at hConcludes
      obtain ⟨answered, -, -, -, hMerged, hAnswered, -⟩ := hConcludes
      exact absurd ⟨answered, hAnswered, hMerged⟩ hAny
  · intro pr hStored hMerged client actor old hActor hRequest hId hOld hMoves
    obtain ⟨hRow, -⟩ := (lawful_run before).sound.toConsistent.pullRequest?_eq_some_iff.1 hStored
    have hFails := Request.reassign_failsWithin hRow hMerged hId hOld actor.settings
    rw [← hRequest, ← rest_of_movesOf_eq_nil before client actor hActor hMoves] at hFails
    have hAway : (run before).TurnsAway client (.alreadyMerged id) 4 actor := by
      refine ⟨hActor, hFails, ?_⟩
      rw [hMoves]
      exact List.forall_mem_nil _
    obtain ⟨later, left, ⟨hLater, hLeft, hDraws⟩, hCount⟩ := hAway.run after
    refine ⟨hDraws, fun outcome hOutcome => ?_, fun hEnough => ?_⟩
    · rw [outcome?, hLater, Option.bind_some] at hOutcome
      exact hLeft.outcome hOutcome
    · rw [outcome?, hLater, Option.bind_some]
      cases hOpen : later.rest.outcome? with
      | some outcome => rw [hLeft.outcome hOpen]
      | none =>
        have hNone : left = 0 := by
          have hSteps := hCount hOpen
          omega
        rw [hNone] at hLeft
        exact hOpen.symm.trans hLeft.outcome?_zero

end Service

end ReviewAssignment
