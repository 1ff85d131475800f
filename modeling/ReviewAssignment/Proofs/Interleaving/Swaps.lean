import Mathlib.Data.List.Permutation
import ReviewAssignment.Proofs.Alone
import ReviewAssignment.Proofs.Interleaving.Refusals
import ReviewAssignment.Proofs.Store.Membership
import ReviewAssignment.Proofs.Store.Swap

/-!
# Swaps and what they come to

A reassignment chooses the new reviewer from what it has read, and swaps later.  The swap itself looks
at the rows once more, and so in every reachable store it does what the replacement in memory would do
with the pull request as it is stored by then (`swap_refines_slots`).

A swap that is not made is explained by a second reading.  `lostSwaps_classified` says that the
explanation is the right one: what a reassignment answers depends only on the pull request that the swap
found, however many requests were served since the draw.

`Operation.handOver` is the part of a reassignment that comes after the draw.
-/

namespace ReviewAssignment

/-! ### The stored swap -/

/-- What the stored swap comes to, by its answer and the store that it leaves.

* It gives a pull request exactly when the one that is stored is open, the replacement in its slots is
  accepted, and `new` is a user; what it gives is the stored pull request with the replaced slots, and
  whoever reads it next is given the same.
* The replacement rewrites the one slot that `old` holds.
* The swap is refused, for the missing reference, exactly when it could be made but `new` is no user.
* It gives nothing in all other cases.
* Unless a pull request is given the store is as it was, and in any case no other pull request, no user
  and no team changes. -/
structure Store.SwapAs (store : Store) (id : PullRequestId) (old new : UserId)
    (answer : Except Failure (Option PullRequest)) (left : Store) : Prop where
  made : ∀ pr, answer = .ok (some pr) ↔
    (∃ slot found, store.Swappable id old new slot found pr) ∧ store.hasUser new = true
  readBack : ∀ pr, answer = .ok (some pr) → ∀ outside draws readings,
    ((Operation.readPullRequest id).run outside ⟨left, draws, readings⟩).1 = .ok (some pr)
  slots : ∀ slot found pr, store.Swappable id old new slot found pr →
    found.reviewers.reviewers[slot]? = some old ∧
      pr.reviewers.reviewers = found.reviewers.reviewers.set slot new
  refused : ∀ cause, answer = .error cause ↔
    cause = .database "error returned from database: (code: 787) FOREIGN KEY constraint failed" ∧
      (∃ slot found pr, store.Swappable id old new slot found pr) ∧ store.hasUser new = false
  lost : answer = .ok none ↔ ¬∃ slot found pr, store.Swappable id old new slot found pr
  unchanged : (∀ pr, answer ≠ .ok (some pr)) → left = store
  elsewhere : store.SlotsOnly left id

/-- **The stored swap refines the slots in memory**, in every reachable store and whatever the three
identifiers are. -/
theorem swap_refines_slots {store : Store} (hReachable : store.Reachable) (id : PullRequestId)
    (old new : UserId) :
    store.SwapAs id old new (store.perform (.replaceReviewer id old new)).1
      (store.perform (.replaceReviewer id old new)).2 := by
  have h := hReachable.consistent
  refine ⟨fun pr => h.swap_eq_some_iff, fun pr hSome outside draws readings => ?_,
    fun _ _ _ hSwap => hSwap.reviewers, fun cause => h.swap_eq_error_iff, h.swap_eq_none_iff,
    h.swap_unchanged, h.slotsOnly_swap id old new⟩
  rw [← h.pullRequest?_swap hSome]
  exact (Program.run_of_reached (Operation.reached_readPullRequest id)).1

/-- A swap of the first of two reviewers, with a user, with nobody and with the other reviewer. -/
theorem swap_of_first_slot :
    let team : Team :=
      ⟨"backend", [⟨"a", "Ann", true⟩, ⟨"b", "Bob", true⟩, ⟨"c", "Cy", true⟩, ⟨"d", "Dan", true⟩]⟩
    let pr : PullRequest :=
      ⟨"pr-1", "Search", "a", .opened, ⟨["b", "c"], by decide⟩, default, none⟩
    let store := ((Store.empty.perform (.upsertTeam team)).2.perform (.insertPullRequest pr)).2
    (store.perform (.replaceReviewer "pr-1" "b" "d")).1 =
        .ok (some { pr with reviewers := ⟨["d", "c"], by decide⟩ }) ∧
      (store.perform (.replaceReviewer "pr-1" "b" "e")).1 = .error (.database
        "error returned from database: (code: 787) FOREIGN KEY constraint failed") ∧
      (store.perform (.replaceReviewer "pr-1" "b" "c")).1 = .ok none := by
  intro team pr store
  have hReachable : store.Reachable := .call _ (.call _ .empty)
  have hStored : store.pullRequest? "pr-1" = .ok (some pr) := by
    rw [hReachable.consistent.pullRequest?_eq_some_iff, hReachable.consistent.reviewersOf_eq]
    decide
  refine ⟨?_, ?_, ?_⟩
  · exact ((swap_refines_slots hReachable "pr-1" "b" "d").made _).2
      ⟨⟨0, pr, hStored, rfl, rfl, rfl⟩, by decide⟩
  · exact ((swap_refines_slots hReachable "pr-1" "b" "e").refused _).2
      ⟨rfl, ⟨0, pr, { pr with reviewers := ⟨["e", "c"], by decide⟩ }, hStored, rfl, rfl, rfl⟩,
        by decide⟩
  · refine (swap_refines_slots hReachable "pr-1" "b" "c").lost.2 fun hSwap => ?_
    obtain ⟨-, -, hNew⟩ := (Store.swappable_iff_of_stored hStored).1 hSwap
    exact hNew (by decide)

/-! ### After the draw -/

namespace Operation

open Program

/-- What is left of a reassignment when the replacement is drawn. -/
def handOver (id : PullRequestId) (old : UserId) (pr : PullRequest) (replacement : User) :
    Program Reassignment := do
  let (slot, expected) ← .ofExcept (pr.reviewers.replace id old replacement.id)
  match ← .ofExcept (← Program.ask (.replaceReviewer id old replacement.id)) with
  | none => .fail (lostSwap id old (← loadPullRequest id))
  | some updated => do
    .log (.info ("Pull request " ++ id ++ " slot " ++ toString slot ++ ": " ++ old ++ " -> " ++
      replacement.id))
    if updated.reviewers != expected then
      .log (.debug ("Pull request " ++ id ++ " reviewers changed alongside the swap: " ++
        bracketed updated.reviewers.reviewers))
    return ⟨updated, replacement⟩

/-- What is left of a reassignment when the pull request is read. -/
def findReplacement (id : PullRequestId) (old : UserId) (pr : PullRequest) : Program Reassignment := do
  .check (swapFault? id old pr)
  let team ← .ofOption (.notFound "Team for user" (some old)) (← readTeamOf old)
  let picked ← .ofDraws (pickReplacement (team.candidates pr old))
  handOver id old pr (← .ofOption (.noReviewerCandidates id) picked)

theorem reassign_eq (id : PullRequestId) (old : UserId) :
    reassign id old = (do
      require id "pull_request_id"
      require old "old_reviewer_id"
      .log (.info ("Reassigning " ++ old ++ " on pull request " ++ id))
      findReplacement id old (← loadPullRequest id)) :=
  rfl

variable {outside : Surroundings} {session : Session} {id : PullRequestId} {old : UserId} {others : Nat}
  {next : Fin (others + 1) → Program Reassignment}

/-- Without a complaint, the team of `old` is read, and the draw is made among its candidates. -/
theorem reached_findReplacement_of_swapFault? {pr : PullRequest} (outside : Surroundings)
    (hFault : swapFault? id old pr = none) :
    (findReplacement id old pr).reached outside session =
      match session.store.teamOf? old with
      | none => (Program.ofExcept (.error (.notFound "Team for user" (some old))), session)
      | some row =>
        match (session.store.teamOfRow row).candidates pr old with
        | [] => (Program.ofExcept (.error (.noReviewerCandidates id)), session)
        | first :: rest =>
          (.draw rest.length fun choice => handOver id old pr ((first :: rest).get choice),
            session) := by
  rw [findReplacement, hFault]
  change (readTeamOf old >>= _).reached outside session = _
  rw [reached_bind, reached_readTeamOf]
  cases session.store.teamOf? old with
  | none => rfl
  | some row =>
    change (ofDraws (pickReplacement ((session.store.teamOfRow row).candidates pr old)) >>= _).reached
      outside session = _
    simp only
    cases (session.store.teamOfRow row).candidates pr old with
    | nil => rfl
    | cons first rest => rfl

/-- A reassignment that draws draws one of the candidates and hands over to whoever is drawn. -/
theorem exists_candidates_of_draw {pr : PullRequest}
    (hDraw : ((findReplacement id old pr).reached outside session).1 = .draw others next) :
    ∃ row first rest, swapFault? id old pr = none ∧ session.store.teamOf? old = some row ∧
      (session.store.teamOfRow row).candidates pr old = first :: rest ∧
      Program.draw others next =
        .draw rest.length fun choice => handOver id old pr ((first :: rest).get choice) := by
  cases hFault : swapFault? id old pr with
  | some cause =>
    rw [findReplacement, hFault] at hDraw
    cases hDraw
  | none =>
    rw [reached_findReplacement_of_swapFault? outside hFault] at hDraw
    cases hRow : session.store.teamOf? old with
    | none =>
      rw [hRow] at hDraw
      cases hDraw
    | some row =>
      cases hCandidates : (session.store.teamOfRow row).candidates pr old with
      | nil =>
        simp only [hRow, hCandidates] at hDraw
        cases hDraw
      | cons first rest =>
        simp only [hRow, hCandidates] at hDraw
        exact ⟨row, first, rest, rfl, rfl, hCandidates, hDraw.symm⟩

/-- A reassignment that draws has found the pull request, and goes on with it. -/
theorem exists_pullRequest_of_draw (hStore : session.store.Consistent)
    (hDraw : ((reassign id old).reached outside session).1 = .draw others next) :
    ∃ pr, session.store.pullRequest? id = .ok (some pr) ∧
      ((findReplacement id old pr).reached outside session).1 = .draw others next := by
  rw [reassign_eq, require_eq, require_eq] at hDraw
  split at hDraw
  · cases hDraw
  split at hDraw
  · cases hDraw
  change ((loadPullRequest id >>= _).reached outside session).1 = _ at hDraw
  rw [reached_bind, reached_loadPullRequest (hStore.pullRequest?_eq id)] at hDraw
  rw [hStore.pullRequest?_eq id]
  cases hRow : session.store.pullRequestRow? id with
  | none =>
    rw [hRow] at hDraw
    cases hDraw
  | some row =>
    rw [hRow] at hDraw
    exact ⟨_, rfl, hDraw⟩

variable {pr current : PullRequest} {replacement : User}

theorem exists_handOver_eq_call (id : PullRequestId) (hOld : old ∈ pr.reviewers.reviewers)
    (hNew : replacement.id ∉ pr.reviewers.reviewers) :
    ∃ rest, handOver id old pr replacement = .call (.replaceReviewer id old replacement.id) rest := by
  obtain ⟨slot, expected, hSlot⟩ := Slots.exists_replace_eq_ok pr.reviewers id hOld hNew
  rw [handOver, hSlot]
  exact ⟨_, rfl⟩

/-- A swap that can be made is answered with what it leaves. -/
theorem reached_handOver_of_swappable (outside : Surroundings) {slot : Nat} {left : PullRequest}
    (hStore : session.store.Consistent) (hUser : session.store.hasUser replacement.id = true)
    (hOld : old ∈ pr.reviewers.reviewers) (hNew : replacement.id ∉ pr.reviewers.reviewers)
    (hSwap : session.store.Swappable id old replacement.id slot current left) :
    (handOver id old pr replacement).reached outside session =
      (Program.ofExcept (.ok ⟨left, replacement⟩),
        { session with store := session.store.handedOver id old replacement.id }) := by
  obtain ⟨place, expected, hPlace⟩ := Slots.exists_replace_eq_ok pr.reviewers id hOld hNew
  obtain ⟨hMade, -⟩ := hStore.replaceReviewer_eq_some hSwap hUser
  rw [handOver, hPlace]
  change ((ask _ >>= _).reached outside session) = _
  rw [reached_ask_bind, Store.perform, hMade]
  change ((if left.reviewers != expected then _ else _ : Program Reassignment).reached outside _) = _
  split <;> rfl

/-- A swap that cannot be made is explained by the pull request as it is found. -/
theorem reached_handOver_of_not_swappable (outside : Surroundings)
    (hStore : session.store.Consistent)
    (hStored : session.store.pullRequest? id = .ok (some current))
    (hOld : old ∈ pr.reviewers.reviewers) (hNew : replacement.id ∉ pr.reviewers.reviewers)
    (hSwap : ¬∃ slot found left, session.store.Swappable id old replacement.id slot found left) :
    (handOver id old pr replacement).reached outside session =
      (Program.ofExcept (.error (lostSwap id old current)), session) := by
  obtain ⟨place, expected, hPlace⟩ := Slots.exists_replace_eq_ok pr.reviewers id hOld hNew
  rw [handOver, hPlace]
  change ((ask _ >>= _).reached outside session) = _
  rw [reached_ask_bind, Store.perform, hStore.replaceReviewer_eq_none hSwap]
  change ((loadPullRequest id >>= _).reached outside session) = _
  rw [reached_bind, reached_loadPullRequest hStored]
  rfl

end Operation

/-! ### Lost swaps -/

/-- How a reassignment is answered whose swap found the pull request as `current` in a store: with
the pull request after the swap if the swap could be made, with the reason if it could not.  A
reassignment that is answered with a failure leaves the store as it was. -/
structure SwapAnswered (id : PullRequestId) (old : UserId) (replacement : User)
    (current : PullRequest) (store : Store) (answer : Except Failure Reply) (left : Store) : Prop where
  made : (∃ reply, answer = .ok reply) ↔ current.status = .opened ∧
    old ∈ current.reviewers.reviewers ∧ replacement.id ∉ current.reviewers.reviewers
  reply : ∀ reply, answer = .ok reply → ∃ slot pr,
    store.Swappable id old replacement.id slot current pr ∧ reply = .reassignment ⟨pr, replacement⟩
  merged : answer = .error (.alreadyMerged id) ↔ current.status = .merged
  notAssigned : answer = .error (.reviewerNotAssigned id old) ↔
    current.status = .opened ∧ old ∉ current.reviewers.reviewers
  conflict :
    answer = .error (.conflict ("reviewers of pull request " ++ id ++ " changed concurrently")) ↔
      current.status = .opened ∧ old ∈ current.reviewers.reviewers ∧
        replacement.id ∈ current.reviewers.reviewers
  failures : ∀ cause, answer = .error cause → cause = .alreadyMerged id ∨
    cause = .reviewerNotAssigned id old ∨
      cause = .conflict ("reviewers of pull request " ++ id ++ " changed concurrently")
  unchanged : ∀ cause, answer = .error cause → left = store

variable {store later left : Store} {id : PullRequestId} {old : UserId} {replacement : User}
  {current : PullRequest}

/-- A swap that was made is answered as it has to be. -/
theorem swapAnswered_of_swappable {slot : Nat} {pr : PullRequest}
    (hSwap : store.Swappable id old replacement.id slot current pr) :
    SwapAnswered id old replacement current store (.ok (.reassignment ⟨pr, replacement⟩)) left := by
  obtain ⟨hOpened, hOld, hNew⟩ := (Store.swappable_iff_of_stored hSwap.stored).1 ⟨_, _, _, hSwap⟩
  refine ⟨⟨fun _ => ⟨hOpened, hOld, hNew⟩, fun _ => ⟨_, rfl⟩⟩, fun reply hReply => ?_, ?_, ?_, ?_,
    fun _ hError => ?_, fun _ hError => ?_⟩
  · exact ⟨slot, pr, hSwap, (Except.ok.inj hReply).symm⟩
  · simp [hOpened]
  · simp [hOld]
  · simp [hNew]
  · cases hError
  · cases hError

/-- A swap that was not made is explained as it has to be. -/
theorem swapAnswered_of_not_swappable
    (hStored : store.pullRequest? id = .ok (some current))
    (hSwap : ¬∃ slot found pr, store.Swappable id old replacement.id slot found pr) :
    SwapAnswered id old replacement current store (.error (Operation.lostSwap id old current))
      store := by
  rw [Store.swappable_iff_of_stored hStored] at hSwap
  have hContains : current.reviewers.contains old = true ↔ old ∈ current.reviewers.reviewers :=
    List.contains_iff_mem
  simp only [Operation.lostSwap, PullRequest.isMerged, hContains]
  cases hStatus : current.status with
  | merged => constructor <;> simp [hStatus]
  | opened =>
    by_cases hOld : old ∈ current.reviewers.reviewers
    · have hNew : replacement.id ∈ current.reviewers.reviewers :=
        Classical.not_not.1 fun hNew => hSwap ⟨hStatus, hOld, hNew⟩
      constructor <;> simp [hStatus, hOld, hNew, Failure.reviewersChanged]
    · constructor <;> simp [hStatus, hOld]

theorem Store.Leads.exists_pullRequest? {pr : PullRequest} (h : store.Leads later)
    (hStore : store.Consistent) (hStored : store.pullRequest? id = .ok (some pr)) :
    ∃ current, later.pullRequest? id = .ok (some current) := by
  obtain ⟨hRow, -⟩ := hStore.pullRequest?_eq_some_iff.1 hStored
  obtain ⟨next, hNext, -⟩ := h.evolves.pullRequests id pr.row hRow
  rw [h.consistent.pullRequest?_eq, hNext]
  exact ⟨_, rfl⟩

/-- Whoever is drawn is a candidate, and the slot is handed over to this user next. -/
theorem Request.exists_replacement {settings : Settings} {outside : Program.Surroundings}
    {session : Program.Session} {others : Nat} {next : Fin (others + 1) → Program Reply}
    (hStore : session.store.Consistent)
    (hDraw : (((Request.reassign id old).program settings).untilDraw outside session).1 =
      .draw others next) (choice : Fin (others + 1)) :
    ∃ pr row replacement, session.store.pullRequest? id = .ok (some pr) ∧
      old ∈ pr.reviewers.reviewers ∧ session.store.teamOf? old = some row ∧
      ((session.store.teamOfRow row).candidates pr old)[choice.val]? = some replacement ∧
      next choice =
        (Operation.handOver id old pr replacement).answering .reassignment "reassign_reviewer" := by
  obtain ⟨inner, hInner, rfl⟩ := Program.exists_draw_of_answering hDraw
  obtain ⟨pr, hStored, hFound⟩ := Operation.exists_pullRequest_of_draw hStore hInner
  obtain ⟨row, first, rest, hFault, hRow, hCandidates, hInner⟩ :=
    Operation.exists_candidates_of_draw hFound
  cases hInner
  refine ⟨pr, row, (first :: rest).get choice, hStored, Operation.mem_reviewers_of_swapFault? hFault,
    hRow, ?_, rfl⟩
  rw [hCandidates]
  exact List.getElem?_eq_getElem choice.isLt

/-- A slot that is handed over is answered by what the swap finds. -/
theorem Request.handOver_answered (outside : Program.Surroundings) (session : Program.Session)
    {pr : PullRequest} (hStore : session.store.Consistent)
    (hCurrent : session.store.pullRequest? id = .ok (some current))
    (hUser : session.store.hasUser replacement.id = true) (hOld : old ∈ pr.reviewers.reviewers)
    (hNew : replacement.id ∉ pr.reviewers.reviewers) (operation : String) :
    SwapAnswered id old replacement current session.store
      (((Operation.handOver id old pr replacement).answering Reply.reassignment operation).run outside
        session).1
      (((Operation.handOver id old pr replacement).answering Reply.reassignment operation).run outside
        session).2.session.store := by
  by_cases hSwap : ∃ slot found left, session.store.Swappable id old replacement.id slot found left
  · obtain ⟨slot, found, left, hSelf⟩ := hSwap
    obtain rfl : found = current := Store.eq_of_stored hSelf.stored hCurrent
    have hReached := Operation.reached_handOver_of_swappable outside hStore hUser hOld hNew hSelf
    rw [(Program.run_answering _ _ hReached).1]
    exact swapAnswered_of_swappable hSelf
  · have hReached :=
      Operation.reached_handOver_of_not_swappable outside hStore hCurrent hOld hNew hSwap
    obtain ⟨hAnswer, hLeft⟩ := Program.run_answering Reply.reassignment operation hReached
    rw [hAnswer, hLeft]
    exact swapAnswered_of_not_swappable hCurrent hSwap

/-- **A lost swap is classified exactly.**  A reassignment has passed its checks in a store that the
service came to, and has drawn a replacement; then any requests are served, and whatever they do, the
draw has settled the outcome up to what the swap finds.  Its next step is the swap, and if that and what
is left of the reassignment run without company, it is answered with

* the pull request after the swap exactly when the pull request is open, `old` holds a slot and the
  replacement holds none;
* `alreadyMerged` exactly when it is merged;
* `reviewerNotAssigned` exactly when it is open and `old` holds no slot;
* the conflict exactly when it is open and both hold slots;

and with nothing else; whenever it fails, the store is as the swap found it. -/
theorem lostSwaps_classified (before between : List Action) {settings : Settings}
    {outside : Program.Surroundings} {draws readings others : Nat} {id : PullRequestId} {old : UserId}
    {next : Fin (others + 1) → Program Reply}
    (hDraw : (((Request.reassign id old).program settings).untilDraw outside
      ⟨(Service.run before).store, draws, readings⟩).1 = .draw others next)
    (choice : Fin (others + 1)) :
    ∃ pr row replacement current,
      (Service.run before).store.pullRequest? id = .ok (some pr) ∧
      (Service.run before).store.teamOf? old = some row ∧
      (((Service.run before).store.teamOfRow row).candidates pr old)[choice.val]? =
        some replacement ∧
      (∃ rest, next choice = .call (.replaceReviewer id old replacement.id) rest) ∧
      (Service.run (before ++ between)).store.pullRequest? id = .ok (some current) ∧
      ∀ outside draws readings,
        SwapAnswered id old replacement current (Service.run (before ++ between)).store
          ((next choice).run outside ⟨(Service.run (before ++ between)).store, draws, readings⟩).1
          ((next choice).run outside
            ⟨(Service.run (before ++ between)).store, draws, readings⟩).2.session.store := by
  have hStore := (Service.lawful_run before).sound.toConsistent
  have hLeads := Service.leads_run before between
  obtain ⟨pr, row, replacement, hStored, hOld, hRow, hDrawn, hNext⟩ :=
    Request.exists_replacement hStore hDraw choice
  obtain ⟨hMember, hNew⟩ := mem_members_of_mem_candidates (List.mem_of_getElem? hDrawn)
  -- The replacement was a user when it was drawn, and no user is ever lost.
  have hUser := hLeads.evolves.users _
    (Store.hasUser_iff_exists.2 ⟨_, Store.user?_of_mem_membersOf hMember⟩)
  obtain ⟨current, hCurrent⟩ := hLeads.exists_pullRequest? hStore hStored
  refine ⟨pr, row, replacement, current, hStored, hRow, hDrawn, ?_, hCurrent,
    fun outside draws readings => ?_⟩
  · obtain ⟨swap, hSwap⟩ := Operation.exists_handOver_eq_call id hOld hNew
    rw [hNext, hSwap]
    exact ⟨_, rfl⟩
  · rw [hNext]
    exact Request.handOver_answered outside ⟨_, draws, readings⟩ hLeads.consistent hCurrent hUser hOld
      hNew _

/-! ### A user who is deactivated meanwhile -/

/-- Bob reviews a pull request of Ann's, who then leaves the team to Bob and Cy. -/
def reviewByBob : List Action :=
  [.enter default (.upsertTeam ⟨"t", [⟨"a", "A", true⟩, ⟨"b", "B", true⟩]⟩),
    .advance 0 0 default, .advance 0 0 default, .advance 0 0 default,
    .enter default (.create "p" "n" "a"),
    .advance 1 0 default, .advance 1 0 default, .advance 1 0 default, .advance 1 0 default,
    .advance 1 0 default,
    .enter default (.upsertTeam ⟨"t", [⟨"b", "B", true⟩, ⟨"c", "C", true⟩]⟩),
    .advance 2 0 default, .advance 2 0 default, .advance 2 0 default]

/-- Cy is deactivated, and Bob leaves the team. -/
def farewell : List Action :=
  [.enter default (.setActive "c" false), .advance 3 0 default, .advance 3 0 default,
    .enter default (.upsertTeam ⟨"t", [⟨"a", "A", true⟩]⟩),
    .advance 4 0 default, .advance 4 0 default, .advance 4 0 default]

def reviewTables : Store :=
  { users := [⟨"a", "A", true⟩, ⟨"b", "B", true⟩, ⟨"c", "C", true⟩]
    teams := [⟨1, "t"⟩]
    lastTeam := 1
    memberships := [⟨"b", 1, 0⟩, ⟨"c", 1, 1⟩]
    pullRequests := [⟨"p", "n", "a", .opened, default, none⟩]
    slots := [⟨"p", 0, "b"⟩] }

theorem run_reviewByBob : ∃ first second third history,
    Service.run reviewByBob = ⟨reviewTables, [first, second, third], history⟩ := by
  obtain ⟨first, early, hFirst⟩ : ∃ first history, Service.run (reviewByBob.take 4) =
      ⟨⟨[⟨"a", "A", true⟩, ⟨"b", "B", true⟩], [⟨1, "t"⟩], 1, [⟨"a", 1, 0⟩, ⟨"b", 1, 1⟩], [], []⟩,
        [first], history⟩ := ⟨_, _, rfl⟩
  -- The creation sorts the members of the team, which does not reduce by itself.
  have hCreated : (Service.run (reviewByBob.take 10)).store = { reviewTables with
        users := [⟨"a", "A", true⟩, ⟨"b", "B", true⟩]
        memberships := [⟨"a", 1, 0⟩, ⟨"b", 1, 1⟩] } ∧
      (Service.run (reviewByBob.take 10)).clients.length = 2 := by
    rw [show reviewByBob.take 10 = reviewByBob.take 4 ++ (reviewByBob.drop 4).take 6 from rfl,
      Service.run_append, hFirst]
    exact ⟨by cbv, by cbv⟩
  rw [show reviewByBob = reviewByBob.take 10 ++ reviewByBob.drop 10 from rfl, Service.run_append]
  generalize Service.run (reviewByBob.take 10) = service at hCreated
  obtain ⟨store, clients, history⟩ := service
  obtain ⟨rfl, hClients⟩ := hCreated
  obtain ⟨first, second, rfl⟩ := List.length_eq_two.1 hClients
  exact ⟨first, second, _, _, rfl⟩

theorem store_reviewByBob : (Service.run reviewByBob).store = reviewTables := by
  obtain ⟨first, second, third, history, hRun⟩ := run_reviewByBob
  rw [hRun]

theorem store_farewell : (Service.run (reviewByBob ++ farewell)).store = { reviewTables with
    users := [⟨"a", "A", true⟩, ⟨"b", "B", true⟩, ⟨"c", "C", false⟩]
    memberships := [⟨"a", 1, 0⟩] } := by
  obtain ⟨first, second, third, history, hRun⟩ := run_reviewByBob
  rw [Service.run_append, hRun]
  rfl

/-- Cy takes over the review that was drawn for Cy before all that. -/
theorem swap_with_deactivated :
    let outside : Program.Surroundings := ⟨fun _ => 0, fun _ => default⟩
    let later := (Service.run (reviewByBob ++ farewell)).store
    later.user? "c" = some ⟨"c", "C", false⟩ ∧ later.teamOf? "c" = none ∧
      ∃ others next, (((Request.reassign "p" "b").program default).untilDraw outside
          ⟨(Service.run reviewByBob).store, 0, 0⟩).1 = .draw others next ∧
        ∀ choice : Fin (others + 1), ∃ reply,
          ((next choice).run outside ⟨later, 0, 0⟩).1 = .ok reply := by
  have hDraws : (((Request.reassign "p" "b").program default).untilDraw
      ⟨fun _ => 0, fun _ => default⟩ ⟨(Service.run reviewByBob).store, 0, 0⟩).1.draws = true := by
    rw [store_reviewByBob]
    cbv
  have hRow : (Service.run (reviewByBob ++ farewell)).store.pullRequestRow? "p" =
      some ⟨"p", "n", "a", .opened, default, none⟩ := by
    rw [store_farewell]
    rfl
  have hReviewers : (Service.run (reviewByBob ++ farewell)).store.reviewersOf "p" = ["b"] := by
    rw [store_farewell]
    decide +kernel
  obtain ⟨others, next, hDraw⟩ := Program.exists_of_draws hDraws
  refine ⟨?_, ?_, others, next, hDraw, fun choice => ?_⟩
  · rw [store_farewell]
    rfl
  · rw [store_farewell]
    rfl
  obtain ⟨pr, row, replacement, current, -, -, hDrawn, -, hCurrent, hAnswered⟩ :=
    lostSwaps_classified reviewByBob farewell hDraw choice
  obtain ⟨hSame, hSlots⟩ :=
    (Service.lawful_run _).sound.toConsistent.pullRequest?_eq_some_iff.1 hCurrent
  rw [hRow, Option.some.injEq] at hSame
  rw [hReviewers] at hSlots
  refine (hAnswered _ 0 0).made.2 ⟨?_, ?_, ?_⟩
  · exact (congrArg PullRequestRow.status hSame).symm
  · rw [hSlots]
    exact List.mem_singleton_self "b"
  · rw [hSlots, List.mem_singleton]
    exact (ne_of_mem_candidates (List.mem_of_getElem? hDrawn)).2

end ReviewAssignment
