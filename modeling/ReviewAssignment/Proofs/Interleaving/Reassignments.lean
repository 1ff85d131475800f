import ReviewAssignment.Proofs.Interleaving.Records

/-!
# Reassignments side by side

A reassignment reads a pull request and a team, draws, and only then swaps; in between others may
swap, merge and write teams.  No swap is lost and none happens twice all the same.  The reviewers in
the store are at any time those the pull request was created with, replaced by the swaps that took
effect, one after the other, and these are the swaps of the reassignments which are answered with a
result.
-/

namespace ReviewAssignment.Service

open Time (Instant)
open Store (Call)

variable {service : Service} {id : PullRequestId} {client : Nat}

/-- The swaps of one client are found among its deeds. -/
theorem filter_swaps (service : Service) (id : PullRequestId) (client : Nat) :
    (service.swaps id).filter (fun swap => swap.client == client) =
      (Move.deedsOf (service.movesOf client)).filterMap fun move =>
        (⟨client, move⟩ : Event).swap? id := by
  rw [swaps, movesOf, Move.deedsOf, List.filter_filterMap, List.filterMap_filter,
    List.filterMap_map, List.filterMap_filter]
  refine List.filterMap_congr fun event _ => ?_
  obtain ⟨mover, move⟩ := event
  change Option.filter _ (Event.swap? id ⟨mover, move⟩) = if (mover == client) = true then
    if move.isDeed = true then Event.swap? id ⟨client, move⟩ else none else none
  by_cases hMover : mover = client
  · subst hMover
    rw [if_pos (beq_self_eq_true mover)]
    cases hSwap : Event.swap? id ⟨mover, move⟩ with
    | none => rw [Option.filter_none, ite_self]
    | some swap =>
      obtain ⟨hApplied, found, hEvent⟩ := Event.swap?_eq_some_iff.1 hSwap
      cases hEvent
      rw [Option.filter_some, if_pos (beq_self_eq_true _),
        if_pos (Move.isDeed_of_isWrite (Move.isWrite_of_applied hApplied))]
  · rw [if_neg (by simpa using hMover)]
    cases hSwap : Event.swap? id ⟨mover, move⟩ with
    | none => rfl
    | some swap =>
      obtain ⟨-, found, hEvent⟩ := Event.swap?_eq_some_iff.1 hSwap
      cases hEvent
      rw [Option.filter_some, if_neg (by simpa using hMover)]

/-- A swap took place in the step after `early`: the pull request was found with `old` in some slot
and left with `new` in that slot, as the slots in memory are replaced, and the swap was recorded. -/
structure SwappedAfter (early : List Action) (action : Action) (id : PullRequestId) (swap : Swap)
    (left : PullRequest) : Prop where
  found : ∃ found slot, (run early).store.pullRequest? id = .ok (some found) ∧
    found.reviewers.replace id swap.old swap.new = .ok (slot, left.reviewers) ∧
    found.reviewers.reviewers[slot]? = some swap.old ∧
    left.reviewers.reviewers[slot]? = some swap.new
  left : (run (early ++ [action])).store.pullRequest? id = .ok (some left)
  swaps : (run (early ++ [action])).swaps id = (run early).swaps id ++ [swap]

/-- A swap that was answered took place, at the point of the run where the store was asked for it,
and what was answered is the pull request as the swap left it. -/
theorem exists_swappedAfter {actions : List Action} {old new : UserId} {found : Store}
    {left : PullRequest}
    (hDeed : Move.asked (.replaceReviewer id old new) found ∈
      Move.deedsOf ((run actions).movesOf client))
    (hAnswer : (found.perform (.replaceReviewer id old new)).1 = .ok (some left)) :
    ∃ early raw moment late, actions = early ++ .advance client raw moment :: late ∧
      SwappedAfter early (.advance client raw moment) id ⟨client, old, new⟩ left := by
  obtain ⟨early, raw, moment, late, actor, rest, rfl, hActor, hNext, hStep⟩ :=
    exists_action_of_mem_history (mem_deedsOf_movesOf.1 hDeed).1
  obtain rfl := found_of_next? hNext
  have hConsistent := (lawful_run early).sound.toConsistent
  refine ⟨early, raw, moment, late, rfl, ?_⟩
  rcases hConsistent.replaceReviewer_cases id old new with hNone | hError | hSwap
  · rw [Store.perform, hNone] at hAnswer
    cases hAnswer
  · rw [Store.perform, hError] at hAnswer
    cases hAnswer
  · obtain ⟨row, pr, hRow, -, hOld, hNew, hUser, hAfter, hSwapped⟩ := hSwap
    have hStore : (run (early ++ [.advance client raw moment])).store =
        (run early).store.handedOver id old new := by
      rw [hStep, advance, Move.after, Store.perform, hSwapped]
    obtain rfl : pr = left := by
      rw [Store.perform, hSwapped] at hAnswer
      exact Option.some.inj (Except.ok.inj hAnswer)
    have hLeft := ((hConsistent.handedOver old hNew hUser).pullRequest?_eq_some_iff.1 hAfter).2
    rw [hConsistent.reviewersOf_handedOver old hNew hUser] at hLeft
    -- What the swap found is the row together with the reviewers of that moment.
    have hFound : (run early).store.pullRequest? id =
        .ok (some (row.withSlots ⟨_, hConsistent.nodup_reviewersOf id⟩)) :=
      hConsistent.pullRequest?_eq_some_iff.2 ⟨hRow, rfl⟩
    obtain ⟨slot, hReplace⟩ := Slots.exists_replace
      ⟨_, hConsistent.nodup_reviewersOf id⟩ id hOld hNew hLeft
    obtain ⟨hSlot, -, hNext⟩ := Slots.replace_eq_ok_iff.1 hReplace
    refine ⟨⟨_, slot, hFound, hReplace, hSlot, ?_⟩, ?_, ?_⟩
    · rw [hNext, List.getElem?_map, hSlot, Option.map_some, if_pos rfl]
    · rw [hStore, hAfter]
    · have hApplied : (Move.asked (.replaceReviewer id old new) (run early).store).applied =
          true := by
        rw [Move.applied, hAnswer]
        rfl
      have hRecorded : (⟨client, .asked (.replaceReviewer id old new) (run early).store⟩ :
          Event).swap? id = some ⟨client, old, new⟩ :=
        Event.swap?_eq_some_iff.2 ⟨hApplied, (run early).store, rfl⟩
      rw [hStep, swaps_advance, hRecorded]
      rfl

variable {actions : List Action} {actor : Client}

theorem creations_of_mem {creation : Creation} (hCreation : creation ∈ (run actions).creations id) :
    (run actions).creations id = [creation] := by
  have hRecorded := recorded_run actions id
  cases hRow : (run actions).store.pullRequestRow? id with
  | none =>
    rw [(hRecorded.missing hRow).1] at hCreation
    cases hCreation
  | some row =>
    obtain ⟨only, -, hCreations, -⟩ := hRecorded.present row hRow
    rw [hCreations] at hCreation ⊢
    rw [List.mem_singleton.1 hCreation]

/-- A creation that is answered with a pull request is the creation on record. -/
theorem creations_of_answered {name : String} {author : UserId} {reply : Reply}
    (hActor : (run actions).clients[client]? = some actor)
    (hRequest : actor.request = .create id name author)
    (hOutcome : (run actions).outcome? client = some (.ok reply)) :
    ∃ pr, reply = .pullRequest pr ∧ (run actions).creations id = [⟨client, pr⟩] := by
  have hConcludes := concludes_of_outcome? hActor hOutcome
  rw [hRequest] at hConcludes
  obtain ⟨pr, found, hReply, hDeeds, hAnswer⟩ := hConcludes
  refine ⟨pr, hReply, creations_of_mem (mem_creations_iff.2 ?_)⟩
  have hDeed : Move.asked (.insertPullRequest pr) found ∈
      Move.deedsOf ((run actions).movesOf client) := by
    rw [hDeeds]
    exact List.mem_cons_of_mem _ (List.mem_singleton_self _)
  have hEvent := (mem_deedsOf_movesOf.1 hDeed).1
  have hApplied : (Move.asked (.insertPullRequest pr) found).applied = true := by
    rw [Move.applied, hAnswer]
    rfl
  have hId : pr.id = id := by
    obtain ⟨writer, before, hWriter, -, -, hWrites⟩ := exists_writer hEvent rfl
    obtain rfl := Option.some.inj (hActor.symm.trans hWriter)
    rw [hRequest] at hWrites
    obtain ⟨reviewers, createdAt, -, -, hCall⟩ := hWrites
    rw [Call.insertPullRequest.inj hCall]
  exact ⟨hId, found, hEvent, hApplied⟩

theorem client_ne_of_failed {cause : Failure} {creation : Creation}
    (hOutcome : (run actions).outcome? client = some (.error cause))
    (hCreation : creation ∈ (run actions).creations id) : creation.client ≠ client := by
  rintro rfl
  obtain ⟨-, found, hEvent, hApplied⟩ := mem_creations_iff.1 hCreation
  cases hApplied.symm.trans (not_applied_of_failed hEvent hOutcome)

theorem filter_swaps_of_failed {cause : Failure}
    (hOutcome : (run actions).outcome? client = some (.error cause)) :
    ((run actions).swaps id).filter (fun swap => swap.client == client) = [] := by
  rw [List.filter_eq_nil_iff]
  intro swap hSwap hSame
  obtain ⟨found, hEvent, hApplied⟩ := mem_swaps_iff.1 hSwap
  rw [← beq_iff_eq.1 hSame] at hOutcome
  cases hApplied.symm.trans (not_applied_of_failed hEvent hOutcome)

/-- A reassignment swaps once. -/
theorem filter_swaps_of_mem {swap : Swap} (hSwap : swap ∈ (run actions).swaps id) :
    ((run actions).swaps id).filter (fun other => other.client == swap.client) = [swap] := by
  obtain ⟨_, found, -, -, hDeeds⟩ := exists_swapper hSwap
  have hMem : swap ∈ ((run actions).swaps id).filter fun other => other.client == swap.client :=
    List.mem_filter.2 ⟨hSwap, beq_self_eq_true _⟩
  rw [filter_swaps, hDeeds] at hMem ⊢
  obtain ⟨deed, hDeed, hIs⟩ := List.mem_filterMap.1 hMem
  rw [List.mem_singleton.1 hDeed] at hIs
  rw [List.filterMap_cons, hIs, List.filterMap_nil]

/-- A reassignment that is answered with a result swapped `old`, and the result is what its swap
left. -/
theorem swapped_of_answered {old : UserId} {reply : Reply}
    (hActor : (run actions).clients[client]? = some actor)
    (hRequest : actor.request = .reassign id old)
    (hOutcome : (run actions).outcome? client = some (.ok reply)) :
    ∃ made : Reassignment, reply = .reassignment made ∧
      ((run actions).swaps id).filter (fun swap => swap.client == client) =
        [⟨client, old, made.replacedBy.id⟩] ∧
      ∃ early raw moment late, actions = early ++ .advance client raw moment :: late ∧
        SwappedAfter early (.advance client raw moment) id ⟨client, old, made.replacedBy.id⟩
          made.pullRequest := by
  have hConcludes := concludes_of_outcome? hActor hOutcome
  rw [hRequest] at hConcludes
  obtain ⟨made, found, hReply, hDeeds, hAnswer⟩ := hConcludes
  have hDeed : Move.asked (.replaceReviewer id old made.replacedBy.id) found ∈
      Move.deedsOf ((run actions).movesOf client) := by
    rw [hDeeds]
    exact List.mem_singleton_self _
  refine ⟨made, hReply, ?_, exists_swappedAfter hDeed hAnswer⟩
  have hApplied : (Move.asked (.replaceReviewer id old made.replacedBy.id) found).applied = true := by
    rw [Move.applied, hAnswer]
    rfl
  have hIs : (⟨client, .asked (.replaceReviewer id old made.replacedBy.id) found⟩ : Event).swap? id =
      some ⟨client, old, made.replacedBy.id⟩ :=
    Event.swap?_eq_some_iff.2 ⟨hApplied, found, rfl⟩
  rw [filter_swaps, hDeeds, List.filterMap_cons, hIs, List.filterMap_nil]

/-- **No reassignment is lost and none happens twice.**  At any point of a run:

* the reviewers of a pull request are those it was created with, replaced by the recorded swaps in
  their order, and none of these replacements is refused;
* the recorded creation is the one whose client is answered with the pull request as created;
* a recorded swap is the only one of its client, who asked to reassign `old`;
* a reassignment that is answered with a result is recorded with the user who took over, and the
  result is the pull request right after its swap, with that user in the slot that `old` held;
* a reassignment or a creation that fails is not recorded. -/
theorem reviewers_run (actions : List Action) (id : PullRequestId) :
    (∃ stored, (run actions).store.pullRequest? id = .ok stored ∧
      match stored with
      | none => (run actions).creations id = [] ∧ (run actions).swaps id = []
      | some pr => ∃ creation, (run actions).creations id = [creation] ∧
          creation.pr.reviewers.swappedAll id ((run actions).swaps id) = .ok pr.reviewers) ∧
    (∀ client actor name author reply, (run actions).clients[client]? = some actor →
      actor.request = .create id name author →
      (run actions).outcome? client = some (.ok reply) →
        ∃ pr, reply = .pullRequest pr ∧ (run actions).creations id = [⟨client, pr⟩]) ∧
    (∀ swap ∈ (run actions).swaps id,
      ((run actions).swaps id).filter (fun other => other.client == swap.client) = [swap] ∧
      ∃ actor : Client, (run actions).clients[swap.client]? = some actor ∧
        actor.request = .reassign id swap.old) ∧
    (∀ client actor old reply, (run actions).clients[client]? = some actor →
      actor.request = .reassign id old →
      (run actions).outcome? client = some (.ok reply) →
        ∃ made : Reassignment, reply = .reassignment made ∧
          ((run actions).swaps id).filter (fun swap => swap.client == client) =
            [⟨client, old, made.replacedBy.id⟩] ∧
          ∃ early raw moment late, actions = early ++ .advance client raw moment :: late ∧
            SwappedAfter early (.advance client raw moment) id
              ⟨client, old, made.replacedBy.id⟩ made.pullRequest) ∧
    ∀ client cause, (run actions).outcome? client = some (.error cause) →
      ((run actions).swaps id).filter (fun swap => swap.client == client) = [] ∧
        ∀ creation ∈ (run actions).creations id, creation.client ≠ client := by
  refine ⟨?_, ?_, ?_, ?_, ?_⟩
  · have hRecorded := recorded_run actions id
    refine ⟨_, (lawful_run actions).sound.toConsistent.pullRequest?_eq id, ?_⟩
    cases hRow : (run actions).store.pullRequestRow? id with
    | none =>
      obtain ⟨hCreations, hSwaps, -⟩ := hRecorded.missing hRow
      exact ⟨hCreations, hSwaps⟩
    | some row =>
      obtain ⟨creation, slots, hCreations, -, -, -, hSlots, hReviewers, -⟩ :=
        hRecorded.present row hRow
      refine ⟨creation, hCreations, ?_⟩
      rw [hSlots]
      exact congrArg _ (Slots.ext hReviewers)
  · intro client actor name author reply hActor hRequest hOutcome
    exact creations_of_answered hActor hRequest hOutcome
  · intro swap hSwap
    obtain ⟨actor, -, hActor, hRequest, -⟩ := exists_swapper hSwap
    exact ⟨filter_swaps_of_mem hSwap, actor, hActor, hRequest⟩
  · intro client actor old reply hActor hRequest hOutcome
    exact swapped_of_answered hActor hRequest hOutcome
  · intro client cause hOutcome
    exact ⟨filter_swaps_of_failed hOutcome, fun creation => client_ne_of_failed hOutcome⟩

end ReviewAssignment.Service
