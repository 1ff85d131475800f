import ReviewAssignment.Proofs.Interleaving.Lawful

/-!
# The history of a pull request

Of all moves in the history only three kinds change a pull request: its insertion, the swaps of its
reviewers and its merge.  `Service.creations`, `Service.swaps` and `Service.merges` list those that
took effect, in the order in which they did.

`Service.recorded_run` says that the rows of the store are what these lists come to: a pull request
that is there was inserted once, its reviewers are those it was inserted with, replaced one by one as
the swaps say, and it has a merge moment exactly if it was merged, once.
-/

namespace ReviewAssignment

open Time (Instant)
open Store (Call)

structure Creation where
  client : Nat
  pr : PullRequest
deriving DecidableEq, Repr

/-- A slot that went from one reviewer to another, and the client who asked for it. -/
structure Swap where
  client : Nat
  old : UserId
  new : UserId
deriving DecidableEq, Repr

structure Merger where
  client : Nat
  moment : Instant
deriving DecidableEq, Repr

namespace Event

def creation? (id : PullRequestId) (event : Event) : Option Creation :=
  match event.move with
  | .asked (.insertPullRequest pr) _ =>
    if pr.id = id ∧ event.move.applied = true then some ⟨event.client, pr⟩ else none
  | _ => none

def swap? (id : PullRequestId) (event : Event) : Option Swap :=
  match event.move with
  | .asked (.replaceReviewer other old new) _ =>
    if other = id ∧ event.move.applied = true then some ⟨event.client, old, new⟩ else none
  | _ => none

def merger? (id : PullRequestId) (event : Event) : Option Merger :=
  match event.move with
  | .asked (.transition other _ _ moment) _ =>
    if other = id ∧ event.move.applied = true then some ⟨event.client, moment⟩ else none
  | _ => none

variable {id : PullRequestId} {event : Event}

theorem creation?_eq_some_iff {creation : Creation} :
    event.creation? id = some creation ↔ creation.pr.id = id ∧ event.move.applied = true ∧
      ∃ found, event = ⟨creation.client, .asked (.insertPullRequest creation.pr) found⟩ := by
  obtain ⟨client, move⟩ := event
  obtain ⟨actor, pr⟩ := creation
  cases move with
  | asked call found =>
    cases call with
    | insertPullRequest other =>
      simp only [creation?, Option.ite_none_right_eq_some]
      grind
    | _ => simp [creation?]
  | _ => simp [creation?]

theorem swap?_eq_some_iff {swap : Swap} :
    event.swap? id = some swap ↔ event.move.applied = true ∧
      ∃ found, event = ⟨swap.client, .asked (.replaceReviewer id swap.old swap.new) found⟩ := by
  obtain ⟨client, move⟩ := event
  obtain ⟨actor, old, new⟩ := swap
  cases move with
  | asked call found =>
    cases call with
    | replaceReviewer other first second =>
      simp only [swap?, Option.ite_none_right_eq_some]
      grind
    | _ => simp [swap?]
  | _ => simp [swap?]

theorem merger?_eq_some_iff {merger : Merger} :
    event.merger? id = some merger ↔ event.move.applied = true ∧
      ∃ expected next found,
        event = ⟨merger.client, .asked (.transition id expected next merger.moment) found⟩ := by
  obtain ⟨client, move⟩ := event
  obtain ⟨actor, moment⟩ := merger
  cases move with
  | asked call found =>
    cases call with
    | transition other expected next given =>
      simp only [merger?, Option.ite_none_right_eq_some]
      grind
    | _ => simp [merger?]
  | _ => simp [merger?]

end Event

def Slots.swapped (id : PullRequestId) (slots : Slots) (swap : Swap) : Except Failure Slots :=
  (slots.replace id swap.old swap.new).map Prod.snd

/-- The slots after swaps, in order.  They are refused as soon as one of them is. -/
def Slots.swappedAll (id : PullRequestId) (slots : Slots) (swaps : List Swap) :
    Except Failure Slots :=
  swaps.foldlM (swapped id) slots

theorem Slots.swapped_eq_ok_iff {slots next : Slots} {id : PullRequestId} {swap : Swap} :
    slots.swapped id swap = .ok next ↔
      ∃ slot, slots.replace id swap.old swap.new = .ok (slot, next) := by
  rw [swapped]
  cases slots.replace id swap.old swap.new <;> simp [Except.map, Prod.ext_iff]

theorem Slots.swappedAll_concat {slots between next : Slots} {id : PullRequestId}
    {swaps : List Swap} {swap : Swap} (hBetween : slots.swappedAll id swaps = .ok between)
    (hNext : between.swapped id swap = .ok next) :
    slots.swappedAll id (swaps ++ [swap]) = .ok next := by
  rw [swappedAll] at hBetween ⊢
  rw [List.foldlM_append, hBetween]
  change List.foldlM (swapped id) between [swap] = _
  rw [List.foldlM_cons, hNext]
  rfl

/-- Swaps keep the number of slots. -/
theorem Slots.size_swappedAll {slots next : Slots} {id : PullRequestId} {swaps : List Swap}
    (h : slots.swappedAll id swaps = .ok next) : next.size = slots.size := by
  induction swaps generalizing slots with
  | nil =>
    cases h
    rfl
  | cons swap rest ih =>
    rw [swappedAll, List.foldlM_cons] at h
    cases hFirst : slots.swapped id swap with
    | error cause =>
      rw [hFirst] at h
      cases h
    | ok replaced =>
      rw [hFirst] at h
      obtain ⟨slot, hReplaced⟩ := swapped_eq_ok_iff.1 hFirst
      rw [ih h, size, (replace_eq_ok_iff.1 hReplaced).2.2, List.length_map, size]

namespace Service

def creations (service : Service) (id : PullRequestId) : List Creation :=
  service.history.filterMap (Event.creation? id)

def swaps (service : Service) (id : PullRequestId) : List Swap :=
  service.history.filterMap (Event.swap? id)

def merges (service : Service) (id : PullRequestId) : List Merger :=
  service.history.filterMap (Event.merger? id)

theorem mem_creations_iff {service : Service} {id : PullRequestId} {creation : Creation} :
    creation ∈ service.creations id ↔ creation.pr.id = id ∧
      ∃ found, ⟨creation.client, .asked (.insertPullRequest creation.pr) found⟩ ∈ service.history ∧
        (Move.asked (.insertPullRequest creation.pr) found).applied = true := by
  rw [creations, List.mem_filterMap]
  constructor
  · rintro ⟨event, hEvent, hIs⟩
    obtain ⟨hId, hApplied, found, rfl⟩ := Event.creation?_eq_some_iff.1 hIs
    exact ⟨hId, found, hEvent, hApplied⟩
  · rintro ⟨hId, found, hEvent, hApplied⟩
    exact ⟨_, hEvent, Event.creation?_eq_some_iff.2 ⟨hId, hApplied, found, rfl⟩⟩

theorem mem_swaps_iff {service : Service} {id : PullRequestId} {swap : Swap} :
    swap ∈ service.swaps id ↔
      ∃ found, ⟨swap.client, .asked (.replaceReviewer id swap.old swap.new) found⟩ ∈
          service.history ∧
        (Move.asked (.replaceReviewer id swap.old swap.new) found).applied = true := by
  rw [swaps, List.mem_filterMap]
  constructor
  · rintro ⟨event, hEvent, hIs⟩
    obtain ⟨hApplied, found, rfl⟩ := Event.swap?_eq_some_iff.1 hIs
    exact ⟨found, hEvent, hApplied⟩
  · rintro ⟨found, hEvent, hApplied⟩
    exact ⟨_, hEvent, Event.swap?_eq_some_iff.2 ⟨hApplied, found, rfl⟩⟩

theorem mem_merges_iff {service : Service} {id : PullRequestId} {merger : Merger} :
    merger ∈ service.merges id ↔
      ∃ expected next found,
        ⟨merger.client, .asked (.transition id expected next merger.moment) found⟩ ∈
          service.history ∧
        (Move.asked (.transition id expected next merger.moment) found).applied = true := by
  rw [merges, List.mem_filterMap]
  constructor
  · rintro ⟨event, hEvent, hIs⟩
    obtain ⟨hApplied, expected, next, found, rfl⟩ := Event.merger?_eq_some_iff.1 hIs
    exact ⟨expected, next, found, hEvent, hApplied⟩
  · rintro ⟨expected, next, found, hEvent, hApplied⟩
    exact ⟨_, hEvent, Event.merger?_eq_some_iff.2 ⟨hApplied, expected, next, found, rfl⟩⟩

/-- The rows of a pull request are what its history comes to. -/
structure Recorded (service : Service) (id : PullRequestId) : Prop where
  missing : service.store.pullRequestRow? id = none →
    service.creations id = [] ∧ service.swaps id = [] ∧ service.merges id = []
  present : ∀ row, service.store.pullRequestRow? id = some row →
    ∃ creation slots, service.creations id = [creation] ∧
      row.name = creation.pr.name ∧ row.author = creation.pr.author ∧
      row.createdAt = creation.pr.createdAt ∧
      creation.pr.reviewers.swappedAll id (service.swaps id) = .ok slots ∧
      slots.reviewers = service.store.reviewersOf id ∧
      (service.merges id).map Merger.moment = row.mergedAt.toList

theorem recorded_initial (id : PullRequestId) : initial.Recorded id :=
  ⟨fun _ => ⟨rfl, rfl, rfl⟩, fun _ hRow => nomatch hRow⟩

/-- Of a pull request whose rows and whose history stay, nothing is new. -/
theorem Recorded.unchanged {service later : Service} {id : PullRequestId}
    (h : service.Recorded id)
    (hRow : later.store.pullRequestRow? id = service.store.pullRequestRow? id)
    (hReviewers : later.store.reviewersOf id = service.store.reviewersOf id)
    (hCreations : later.creations id = service.creations id)
    (hSwaps : later.swaps id = service.swaps id) (hMerges : later.merges id = service.merges id) :
    later.Recorded id := by
  refine ⟨?_, ?_⟩
  · rw [hRow, hCreations, hSwaps, hMerges]
    exact h.missing
  · rw [hRow, hReviewers, hCreations, hSwaps, hMerges]
    exact h.present

variable {service : Service} {client raw : Nat} {actor : Client} {moment : Instant} {move : Move}
  {rest : Program Reply} {id : PullRequestId}

theorem filterMap_history_advance {β : Type} (f : Event → Option β) :
    (service.advance client actor move rest).history.filterMap f =
      service.history.filterMap f ++ (f ⟨client, move⟩).toList := by
  rw [advance, List.filterMap_append, List.filterMap_cons, List.filterMap_nil]
  cases f ⟨client, move⟩ <;> rfl

theorem creations_advance : (service.advance client actor move rest).creations id =
    service.creations id ++ ((⟨client, move⟩ : Event).creation? id).toList :=
  filterMap_history_advance _

theorem swaps_advance : (service.advance client actor move rest).swaps id =
    service.swaps id ++ ((⟨client, move⟩ : Event).swap? id).toList :=
  filterMap_history_advance _

theorem merges_advance : (service.advance client actor move rest).merges id =
    service.merges id ++ ((⟨client, move⟩ : Event).merger? id).toList :=
  filterMap_history_advance _

theorem Recorded.advance_other (h : service.Recorded id)
    (hRow : (move.after service.store).pullRequestRow? id = service.store.pullRequestRow? id)
    (hReviewers : (move.after service.store).reviewersOf id = service.store.reviewersOf id)
    (hCreation : (⟨client, move⟩ : Event).creation? id = none)
    (hSwap : (⟨client, move⟩ : Event).swap? id = none)
    (hMerger : (⟨client, move⟩ : Event).merger? id = none) :
    (service.advance client actor move rest).Recorded id := by
  refine h.unchanged hRow hReviewers ?_ ?_ ?_
  · rw [creations_advance, hCreation, Option.toList_none, List.append_nil]
  · rw [swaps_advance, hSwap, Option.toList_none, List.append_nil]
  · rw [merges_advance, hMerger, Option.toList_none, List.append_nil]

theorem Recorded.advance_not_applied (h : service.Recorded id)
    (hConsistent : service.store.Consistent)
    (hNext : actor.rest.next? service.store raw moment = some (move, rest))
    (hApplied : move.applied = false) : (service.advance client actor move rest).Recorded id := by
  have hStore : move.after service.store = service.store := by
    cases move with
    | asked call found =>
      obtain rfl := found_of_next? hNext
      exact hConsistent.perform_of_not_applied hApplied
    | _ => rfl
  refine h.advance_other (by rw [hStore]) (by rw [hStore]) ?_ ?_ ?_
  · rw [Option.eq_none_iff_forall_ne_some]
    intro creation hSome
    cases hApplied.symm.trans (Event.creation?_eq_some_iff.1 hSome).2.1
  · rw [Option.eq_none_iff_forall_ne_some]
    intro swap hSome
    cases hApplied.symm.trans (Event.swap?_eq_some_iff.1 hSome).1
  · rw [Option.eq_none_iff_forall_ne_some]
    intro merger hSome
    cases hApplied.symm.trans (Event.merger?_eq_some_iff.1 hSome).1

theorem Recorded.advance_insertPullRequest (h : service.Recorded id)
    (hConsistent : service.store.Consistent) {pr : PullRequest}
    (hProper : (Call.insertPullRequest pr).Proper service.store)
    (hApplied : (Move.asked (.insertPullRequest pr) service.store).applied = true) :
    (service.advance client actor (.asked (.insertPullRequest pr) service.store) rest).Recorded
      id := by
  cases hWritten : service.store.insertPullRequest pr with
  | error cause =>
    rw [Move.applied, Store.perform, hWritten] at hApplied
    cases hApplied
  | ok written =>
    have hStore : (Move.asked (.insertPullRequest pr) service.store).after service.store =
        written := by
      rw [Move.after, Store.perform, hWritten]
      rfl
    have hReviewers := hConsistent.reviewersOf_inserted hWritten
    obtain ⟨hFresh, -, hRows⟩ := Store.insertPullRequest_eq_ok hWritten
    have hRow : written.pullRequestRow? id =
        (service.store.pullRequestRow? id).or (if pr.id = id then some pr.row else none) := by
      rw [hRows]
      exact Store.pullRequestRow?_withPullRequest service.store pr id
    by_cases hId : pr.id = id
    · subst hId
      have hMissing := Store.pullRequestRow?_eq_none_iff.2 hFresh
      obtain ⟨hCreations, hSwaps, hMerges⟩ := h.missing hMissing
      have hCreation : (⟨client, .asked (.insertPullRequest pr) service.store⟩ : Event).creation?
          pr.id = some ⟨client, pr⟩ :=
        Event.creation?_eq_some_iff.2 ⟨rfl, hApplied, service.store, rfl⟩
      rw [hMissing, Option.none_or, if_pos rfl, ← hStore] at hRow
      refine ⟨fun hNone => ?_, fun row hSome => ?_⟩
      · cases hRow.symm.trans hNone
      obtain rfl := Option.some.inj (hRow.symm.trans hSome)
      refine ⟨⟨client, pr⟩, pr.reviewers, ?_, rfl, rfl, rfl, ?_, ?_, ?_⟩
      · rw [creations_advance, hCreations, hCreation]
        rfl
      · rw [swaps_advance, hSwaps]
        rfl
      · rw [← hReviewers, ← hStore]
        rfl
      · rw [merges_advance, hMerges]
        obtain ⟨-, -, -, hMoment, -⟩ := hProper
        rw [PullRequest.row, hMoment]
        rfl
    · have hNone : (⟨client, .asked (.insertPullRequest pr) service.store⟩ : Event).creation? id =
          none := if_neg fun hBoth => hId hBoth.1
      refine h.advance_other ?_ ?_ hNone rfl rfl
      · rw [hStore, hRow, if_neg hId, Option.or_none]
      · rw [hStore, hRows]
        exact Store.reviewersOf_withPullRequest_of_ne service.store hId

/-- A pull request is merged, which it was not before. -/
theorem Recorded.advance_transition (h : service.Recorded id) (hSound : service.store.Sound)
    {other : PullRequestId} {moment : Instant}
    (hApplied : (Move.asked (.transition other .opened .merged moment) service.store).applied =
      true) :
    (service.advance client actor (.asked (.transition other .opened .merged moment) service.store)
      rest).Recorded id := by
  have hStore : (Move.asked (.transition other .opened .merged moment) service.store).after
      service.store = service.store.moved other .opened .merged moment := by
    rw [Move.after, Store.perform, Store.transition_eq]
  by_cases hId : other = id
  · subst hId
    obtain ⟨row, hRow, hOpened⟩ := hSound.toConsistent.transition_applied_iff.1 hApplied
    obtain ⟨creation, slots, hCreations, hName, hAuthor, hCreatedAt, hSlots, hReviewers, hMerges⟩ :=
      h.present row hRow
    have hMoved := Store.pullRequestRow?_moved service.store other other .opened .merged moment
    rw [hRow, Option.map_some, ← hStore] at hMoved
    have hMerger : (⟨client, .asked (.transition other .opened .merged moment) service.store⟩ :
        Event).merger? other = some ⟨client, moment⟩ :=
      Event.merger?_eq_some_iff.2 ⟨hApplied, _, _, service.store, rfl⟩
    -- An open pull request has no merge moment, so it was not merged before.
    have hNotMerged : row.mergedAt = none := by
      rw [← Option.not_isSome_iff_eq_none, ← hSound.mergedAt row (Store.pullRequestRow?_some hRow).1,
        hOpened]
      intro hMerged
      cases hMerged
    refine ⟨fun hNone => ?_, fun later hLater => ?_⟩
    · cases hMoved.symm.trans hNone
    obtain rfl := Option.some.inj (hMoved.symm.trans hLater)
    refine ⟨creation, slots, ?_, ?_, ?_, ?_, ?_, ?_, ?_⟩
    · rw [creations_advance, hCreations]
      rfl
    · rw [Store.moveRow_name, hName]
    · rw [Store.moveRow_author, hAuthor]
    · rw [Store.moveRow_createdAt, hCreatedAt]
    · rw [swaps_advance]
      exact (congrArg _ (List.append_nil _)).trans hSlots
    · rw [hReviewers, advance, hStore]
      rfl
    · rw [merges_advance, List.map_append, hMerges, hMerger, hNotMerged, Store.moveRow,
        if_pos ⟨(Store.pullRequestRow?_some hRow).2, hOpened⟩]
      rfl
  · have hNone : (⟨client, .asked (.transition other .opened .merged moment) service.store⟩ :
        Event).merger? id = none := if_neg fun hBoth => hId hBoth.1
    refine h.advance_other ?_ ?_ rfl rfl hNone
    · rw [hStore, Store.pullRequestRow?_moved_of_ne _ _ _ _ (Ne.symm hId)]
    · rw [hStore]
      rfl

/-- A slot changes hands, as in the slots in memory. -/
theorem Recorded.advance_replaceReviewer (h : service.Recorded id)
    (hConsistent : service.store.Consistent) {other : PullRequestId} {old new : UserId}
    (hApplied : (Move.asked (.replaceReviewer other old new) service.store).applied = true) :
    (service.advance client actor (.asked (.replaceReviewer other old new) service.store)
      rest).Recorded id := by
  rcases hConsistent.replaceReviewer_cases other old new with hNone | hError | hSwap
  · rw [Move.applied, Store.perform, hNone] at hApplied
    cases hApplied
  · rw [Move.applied, Store.perform, hError] at hApplied
    cases hApplied
  · obtain ⟨row, pr, hRow, hOpened, hOld, hNew, hUser, hAfter, hSwapped⟩ := hSwap
    have hStore : (Move.asked (.replaceReviewer other old new) service.store).after
        service.store = service.store.handedOver other old new := by
      rw [Move.after, Store.perform, hSwapped]
    by_cases hId : other = id
    · subst hId
      obtain ⟨creation, slots, hCreations, hName, hAuthor, hCreatedAt, hSlots, hReviewers,
        hMerges⟩ := h.present row hRow
      have hSwap : (⟨client, .asked (.replaceReviewer other old new) service.store⟩ :
          Event).swap? other = some ⟨client, old, new⟩ :=
        Event.swap?_eq_some_iff.2 ⟨hApplied, service.store, rfl⟩
      have hDistinct := (hConsistent.handedOver old hNew hUser).nodup_reviewersOf other
      have hHanded := hConsistent.reviewersOf_handedOver old hNew hUser
      rw [← hReviewers] at hOld hNew hHanded
      have hNext : slots.swapped other ⟨client, old, new⟩ = .ok ⟨_, hDistinct⟩ :=
        Slots.swapped_eq_ok_iff.2 (Slots.exists_replace slots other hOld hNew hHanded)
      have hRowAfter : (service.advance client actor (.asked (.replaceReviewer other old new)
          service.store) rest).store.pullRequestRow? other = some row := by
        rw [advance, hStore]
        exact hRow
      refine ⟨fun hNone => ?_, fun later hLater => ?_⟩
      · cases hRowAfter.symm.trans hNone
      obtain rfl := Option.some.inj (hRowAfter.symm.trans hLater)
      refine ⟨creation, ⟨_, hDistinct⟩, ?_, hName, hAuthor, hCreatedAt, ?_, ?_, ?_⟩
      · rw [creations_advance, hCreations]
        rfl
      · rw [swaps_advance, hSwap]
        exact Slots.swappedAll_concat hSlots hNext
      · rw [advance, hStore]
      · rw [merges_advance, ← hMerges]
        exact congrArg _ (List.append_nil _)
    · have hNone : (⟨client, .asked (.replaceReviewer other old new) service.store⟩ :
          Event).swap? id = none := if_neg fun hBoth => hId hBoth.1
      refine h.advance_other ?_ ?_ rfl hNone rfl
      · rw [hStore]
        rfl
      · rw [hStore]
        exact Store.reviewersOf_handedOver_of_ne service.store old new (Ne.symm hId)

theorem Recorded.advance (h : service.Recorded id) (hLawful : service.Lawful)
    (hActor : service.clients[client]? = some actor)
    (hNext : actor.rest.next? service.store raw moment = some (move, rest)) :
    (service.advance client actor move rest).Recorded id := by
  have hConsistent := hLawful.sound.toConsistent
  cases hApplied : move.applied with
  | false => exact h.advance_not_applied hConsistent hNext hApplied
  | true =>
    cases move with
    | asked call found =>
      obtain rfl := found_of_next? hNext
      have hProper := (((hLawful.abides client actor hActor).next hConsistent.leads_refl hNext).1
        (Call.isWrite_of_applied hApplied)).1
      cases call with
      | upsertTeam team =>
        have hOnly : Store.RosterOnly service.store
            ((Move.asked (.upsertTeam team) service.store).after service.store) := by
          rw [Move.after, Store.perform]
          cases hWritten : service.store.upsertTeam team with
          | ok written => exact Store.rosterOnly_upsertTeam hWritten
          | error cause => exact .refl _
        exact h.advance_other (hOnly.pullRequestRow? id) (hOnly.reviewersOf id) rfl rfl rfl
      | setActive user active =>
        have hOnly := Store.rosterOnly_setActive service.store user active
        exact h.advance_other (hOnly.pullRequestRow? id) (hOnly.reviewersOf id) rfl rfl rfl
      | insertPullRequest pr => exact h.advance_insertPullRequest hConsistent hProper hApplied
      | transition other expected next moment =>
        obtain ⟨rfl, rfl⟩ := hProper
        exact h.advance_transition hLawful.sound hApplied
      | replaceReviewer other old new => exact h.advance_replaceReviewer hConsistent hApplied
      | _ => cases hApplied
    | _ => cases hApplied

/-- **In every run the rows of a pull request are what its history comes to.** -/
theorem recorded_run (actions : List Action) (id : PullRequestId) : (run actions).Recorded id := by
  refine run_induction (fun service => service.Recorded id) (recorded_initial id) ?_ ?_ actions
  · intro before settings request ih
    exact ih.unchanged rfl rfl rfl rfl rfl
  · intro before client raw moment actor move rest ih hActor hNext
    exact ih.advance (lawful_run before) hActor hNext

/-! ### Who made the changes -/

variable {actions : List Action}

/-- Who created a pull request asked for it, and had no more reviewers drawn than the settings
allow. -/
theorem exists_creator {creation : Creation} (hCreation : creation ∈ (run actions).creations id) :
    ∃ actor found, (run actions).clients[creation.client]? = some actor ∧ creation.pr.id = id ∧
      actor.request = .create id creation.pr.name creation.pr.author ∧
      creation.pr.reviewers.size ≤ actor.settings.maxReviewers ∧
      Move.deedsOf ((run actions).movesOf creation.client) =
        [.read creation.pr.createdAt, .asked (.insertPullRequest creation.pr) found] := by
  obtain ⟨hId, found, hEvent, hApplied⟩ := mem_creations_iff.1 hCreation
  obtain ⟨actor, before, hActor, hDeeds, -, hWrites⟩ :=
    exists_writer hEvent (Move.isWrite_of_applied hApplied)
  cases hRequest : actor.request with
  | create asked name author =>
    rw [hRequest] at hWrites
    obtain ⟨reviewers, createdAt, rfl, hLimit, hCall⟩ := hWrites
    obtain ⟨client, pr⟩ := creation
    obtain rfl := Call.insertPullRequest.inj hCall
    obtain rfl : asked = id := hId
    exact ⟨actor, found, hActor, rfl, hRequest, hLimit, hDeeds⟩
  | _ =>
    rw [hRequest] at hWrites
    simp [Request.Writes] at hWrites

/-- Who swapped a reviewer asked for it, and did nothing else. -/
theorem exists_swapper {swap : Swap} (hSwap : swap ∈ (run actions).swaps id) :
    ∃ actor found, (run actions).clients[swap.client]? = some actor ∧
      actor.request = .reassign id swap.old ∧
      Move.deedsOf ((run actions).movesOf swap.client) =
        [.asked (.replaceReviewer id swap.old swap.new) found] := by
  obtain ⟨found, hEvent, hApplied⟩ := mem_swaps_iff.1 hSwap
  obtain ⟨actor, before, hActor, hDeeds, -, hWrites⟩ :=
    exists_writer hEvent (Move.isWrite_of_applied hApplied)
  cases hRequest : actor.request with
  | reassign asked old =>
    rw [hRequest] at hWrites
    obtain ⟨rfl, new, hCall⟩ := hWrites
    obtain ⟨rfl, rfl, -⟩ := Call.replaceReviewer.inj hCall
    exact ⟨actor, found, hActor, hRequest, hDeeds⟩
  | _ =>
    rw [hRequest] at hWrites
    simp [Request.Writes] at hWrites

/-- Who merged a pull request asked for it, and the moment is the client's only reading of the
clock. -/
theorem exists_merger {merger : Merger} (hMerger : merger ∈ (run actions).merges id) :
    ∃ actor found, (run actions).clients[merger.client]? = some actor ∧
      actor.request = .merge id ∧
      Move.deedsOf ((run actions).movesOf merger.client) =
        [.read merger.moment, .asked (.transition id .opened .merged merger.moment) found] := by
  obtain ⟨expected, next, found, hEvent, hApplied⟩ := mem_merges_iff.1 hMerger
  obtain ⟨actor, before, hActor, hDeeds, -, hWrites⟩ :=
    exists_writer hEvent (Move.isWrite_of_applied hApplied)
  cases hRequest : actor.request with
  | merge asked =>
    rw [hRequest] at hWrites
    obtain ⟨moment, rfl, hCall⟩ := hWrites
    obtain ⟨rfl, rfl, rfl, rfl⟩ := Call.transition.inj hCall
    exact ⟨actor, found, hActor, hRequest, hDeeds⟩
  | _ =>
    rw [hRequest] at hWrites
    simp [Request.Writes] at hWrites

/-- **What holds of every store that the service comes to.**  The store is sound, and every pull request
in it was created once, by a client who asked for it; its number of slots is what it was created with,
which is no more than the settings of that client allowed, and stays so. -/
theorem sound_run (before after : List Action) :
    (run (before ++ after)).store.Sound ∧
      ∀ id row, (run before).store.pullRequestRow? id = some row →
        ∃ (creation : Creation) (creator : Client), (run before).creations id = [creation] ∧
          (run before).clients[creation.client]? = some creator ∧
          creator.request = .create id row.name row.author ∧
          creation.pr.reviewers.size ≤ creator.settings.maxReviewers ∧
          ((run before).store.slotsOf id).length = creation.pr.reviewers.size ∧
          ((run (before ++ after)).store.slotsOf id).length = creation.pr.reviewers.size := by
  refine ⟨(lawful_run _).sound, fun id row hRow => ?_⟩
  obtain ⟨creation, slots, hCreations, hName, hAuthor, -, hSlots, hReviewers, -⟩ :=
    (recorded_run before id).present row hRow
  have hMem : creation ∈ (run before).creations id := by
    rw [hCreations]
    exact List.mem_singleton_self creation
  obtain ⟨creator, -, hCreator, -, hRequest, hLimit, -⟩ := exists_creator hMem
  have hSize : ((run before).store.slotsOf id).length = creation.pr.reviewers.size := by
    rw [← (lawful_run before).sound.toConsistent.length_reviewersOf, ← hReviewers]
    exact Slots.size_swappedAll hSlots
  refine ⟨creation, creator, hCreations, hCreator, ?_, hLimit, hSize, ?_⟩
  · rw [hRequest, hName, hAuthor]
  · rw [(leads_run before after).evolves.slots id row hRow, hSize]

end Service

end ReviewAssignment
