import ReviewAssignment.Proofs.Interleaving.Lawful
import ReviewAssignment.Proofs.Interleaving.Swaps

/-!
# A reassignment from end to end

Without company, a reassignment is decided by the store it finds.  `Store.reassignChecks` lists what is
checked, each check with the failure that it is answered with; the checks are properties of the store,
and the first one that fails decides (`Check.First`).  If none fails, one of the members who may take
over (`PullRequest.Admits`) is drawn and gets the slot.

The operation follows the list up to the draw (`Operation.reached_reassign`).  After the draw it checks
once more, when the slots are replaced in memory and when the swap comes to the rows.  By then everything
that is asked has been established, so that nothing can fail any more
(`Operation.reached_handOver_of_admitted`).  `Service.reassigned_alone` puts the two together, for every
store that the service comes to.
-/

namespace ReviewAssignment

open Program (Surroundings Session)

/-! ### Checks in order -/

/-- A check: when it fails, and the failure that is answered then. -/
structure Check where
  Fails : Prop
  cause : Failure

namespace Check

variable {checks : List Check} {cause other : Failure}

/-- **The first check of a list that fails** is answered with this cause. -/
inductive First : List Check → Failure → Prop where
  | here {check : Check} {rest : List Check} (hFails : check.Fails) : First (check :: rest) check.cause
  | later {check : Check} {rest : List Check} {cause : Failure} (hPasses : ¬check.Fails)
    (hRest : First rest cause) : First (check :: rest) cause

theorem First.unique (h : First checks cause) (g : First checks other) : cause = other := by
  induction h with
  | here hFails =>
    cases g with
    | here => rfl
    | later hPasses => exact absurd hFails hPasses
  | later hPasses hRest ih =>
    cases g with
    | here hFails => exact absurd hFails hPasses
    | later _ hOther => exact ih hOther

theorem First.exists_mem (h : First checks cause) :
    ∃ check ∈ checks, check.Fails ∧ check.cause = cause := by
  induction h with
  | @here check rest hFails => exact ⟨check, List.mem_cons_self, hFails, rfl⟩
  | later hPasses hRest ih =>
    obtain ⟨check, hCheck, hFails, hCause⟩ := ih
    exact ⟨check, List.mem_cons_of_mem _ hCheck, hFails, hCause⟩

/-- Where all checks pass, none is the first to fail. -/
theorem not_first_of_passes (hPasses : ∀ check ∈ checks, ¬check.Fails) : ¬First checks cause := by
  intro hFirst
  obtain ⟨check, hCheck, hFails, -⟩ := hFirst.exists_mem
  exact hPasses check hCheck hFails

end Check

/-! ### Who may take over -/

/-- **A user who may take over the slot of `old`**: active, neither `old` nor the author, and not
reviewing the pull request already. -/
structure PullRequest.Admits (pr : PullRequest) (old : UserId) (user : User) : Prop where
  active : user.active = true
  notOld : user.id ≠ old
  notAuthor : user.id ≠ pr.author
  notReviewing : user.id ∉ pr.reviewers.reviewers

theorem PullRequest.admits_iff {pr : PullRequest} {old : UserId} {user : User} :
    (user.active && user.id != old && user.id != pr.author &&
      !pr.reviewers.contains user.id) = true ↔ pr.Admits old user := by
  have hHolds : pr.reviewers.contains user.id = false ↔ user.id ∉ pr.reviewers.reviewers := by
    rw [← Bool.not_eq_true, Slots.contains, List.contains_iff_mem]
  simp only [Bool.and_eq_true, bne_iff_ne, Bool.not_eq_true', hHolds]
  constructor
  · rintro ⟨⟨⟨hActive, hOld⟩, hAuthor⟩, hReviewing⟩
    exact ⟨hActive, hOld, hAuthor, hReviewing⟩
  · rintro ⟨hActive, hOld, hAuthor, hReviewing⟩
    exact ⟨⟨⟨hActive, hOld⟩, hAuthor⟩, hReviewing⟩

instance (pr : PullRequest) (old : UserId) (user : User) : Decidable (pr.Admits old user) :=
  decidable_of_iff _ PullRequest.admits_iff

/-- The candidates are the members who may take over, in the order of the team. -/
theorem Team.candidates_eq_filter (team : Team) (pr : PullRequest) (old : UserId) :
    team.candidates pr old = team.members.filter fun member => pr.Admits old member := by
  refine List.filter_congr fun member _ => ?_
  rw [Bool.eq_iff_iff, PullRequest.admits_iff, decide_eq_true_iff]

/-! ### What is checked -/

/-- What a reassignment checks once it has the pull request, in this order. -/
def Store.handOverChecks (store : Store) (id : PullRequestId) (old : UserId) : List Check :=
  [⟨∃ pr, store.pullRequest? id = .ok (some pr) ∧ pr.status = .merged, .alreadyMerged id⟩,
   ⟨∃ pr, store.pullRequest? id = .ok (some pr) ∧ old ∉ pr.reviewers.reviewers,
     .reviewerNotAssigned id old⟩,
   ⟨store.teamOf? old = none, .notFound "Team for user" (some old)⟩,
   ⟨∃ pr, store.pullRequest? id = .ok (some pr) ∧ ∃ row, store.teamOf? old = some row ∧
      ∀ member ∈ (store.teamOfRow row).members, ¬pr.Admits old member,
     .noReviewerCandidates id⟩]

/-- **What a reassignment checks**, in this order. -/
def Store.reassignChecks (store : Store) (id : PullRequestId) (old : UserId) : List Check :=
  [⟨Text.isBlank id = true, .validation "pull_request_id must not be empty" (some "pull_request_id")⟩,
   ⟨Text.isBlank old = true, .validation "old_reviewer_id must not be empty" (some "old_reviewer_id")⟩,
   ⟨store.pullRequest? id = .ok none, .notFound "PullRequest" (some id)⟩] ++
  store.handOverChecks id old

/-- What is said of the pull request that is stored is said of one pull request. -/
theorem Store.exists_stored_iff {store : Store} {id : PullRequestId} {pr : PullRequest}
    (hStored : store.pullRequest? id = .ok (some pr)) {property : PullRequest → Prop} :
    (∃ other, store.pullRequest? id = .ok (some other) ∧ property other) ↔ property pr := by
  constructor
  · rintro ⟨other, hOther, hProperty⟩
    obtain rfl : other = pr := eq_of_stored hOther hStored
    exact hProperty
  · intro hProperty
    exact ⟨pr, hStored, hProperty⟩

/-- What a reassignment that goes on has found: the pull request, which is open and has `old` among
its reviewers, the team of `old`, and the members who may take over. -/
structure Store.Admitted (store : Store) (id : PullRequestId) (old : UserId) (pr : PullRequest)
    (row : TeamRow) (admitted : List User) : Prop where
  stored : store.pullRequest? id = .ok (some pr)
  opened : pr.status = .opened
  reviewing : old ∈ pr.reviewers.reviewers
  team : store.teamOf? old = some row
  members : admitted = (store.teamOfRow row).members.filter fun member => pr.Admits old member
  inhabited : admitted ≠ []

namespace Store.Admitted

variable {store : Store} {id : PullRequestId} {old : UserId} {pr : PullRequest} {row : TeamRow}
  {admitted : List User}

/-- A reassignment that goes on has passed the checks. -/
theorem passes (h : store.Admitted id old pr row admitted) :
    ∀ check ∈ store.handOverChecks id old, ¬check.Fails := by
  simp only [handOverChecks, List.forall_mem_cons, exists_stored_iff h.stored, h.opened, h.team]
  refine ⟨?_, ?_, ?_, ?_, List.forall_mem_nil _⟩
  · decide
  · exact fun hNotReviewing => hNotReviewing h.reviewing
  · exact Option.some_ne_none row
  · rintro ⟨otherRow, hSame, hNobody⟩
    obtain rfl : row = otherRow := Option.some.inj hSame
    refine h.inhabited (h.members.trans (List.filter_eq_nil_iff.2 fun member hMember => ?_))
    rw [decide_eq_true_iff]
    exact hNobody member hMember

theorem unique {other : PullRequest} {otherRow : TeamRow} {others : List User}
    (h : store.Admitted id old pr row admitted) (g : store.Admitted id old other otherRow others) :
    pr = other ∧ row = otherRow ∧ admitted = others := by
  obtain rfl : pr = other := eq_of_stored h.stored g.stored
  obtain rfl : row = otherRow := Option.some.inj (h.team.symm.trans g.team)
  exact ⟨rfl, rfl, h.members.trans g.members.symm⟩

/-- Somebody who may take over is a user, with the record that the team shows. -/
theorem user?_eq (h : store.Admitted id old pr row admitted) {member : User}
    (hMember : member ∈ admitted) : store.user? member.id = some member := by
  rw [h.members] at hMember
  exact Store.user?_of_mem_membersOf (List.mem_of_mem_filter hMember)

theorem admits (h : store.Admitted id old pr row admitted) {member : User}
    (hMember : member ∈ admitted) : pr.Admits old member := by
  rw [h.members] at hMember
  exact of_decide_eq_true (List.mem_filter.1 hMember).2

end Store.Admitted

namespace Operation

open Program

variable {session : Session} {pr : PullRequest}

/-- What there is to complain about while a pull request is open. -/
theorem swapFault?_of_opened (id : PullRequestId) (old : UserId) (hOpened : pr.status = .opened) :
    swapFault? id old pr =
      if old ∈ pr.reviewers.reviewers then none else some (.reviewerNotAssigned id old) := by
  have hNotMerged : ¬pr.isMerged = true := by
    rw [PullRequest.isMerged, hOpened]
    decide
  have hHolds : pr.reviewers.contains old = true ↔ old ∈ pr.reviewers.reviewers :=
    List.contains_iff_mem
  rw [swapFault?, if_neg hNotMerged]
  simp only [hHolds]

/-- How far a reassignment gets that has the pull request: to the first check that fails, or to the
draw among those who may take over. -/
theorem reached_findReplacement (outside : Surroundings) (id : PullRequestId) (old : UserId)
    (hStored : session.store.pullRequest? id = .ok (some pr)) :
    (∃ cause, Check.First (session.store.handOverChecks id old) cause ∧
      (findReplacement id old pr).reached outside session =
        (Program.ofExcept (.error cause), session)) ∨
    ∃ row first rest, session.store.Admitted id old pr row (first :: rest) ∧
      (findReplacement id old pr).reached outside session =
        (.draw rest.length fun choice => handOver id old pr ((first :: rest).get choice), session) := by
  -- The program is followed check by check; each one that passes stands as a `later` before the next.
  by_cases hStatus : pr.status = .merged
  · have hMerged : pr.isMerged = true := by
      rw [PullRequest.isMerged, hStatus]
      rfl
    refine Or.inl ⟨_, .here ((Store.exists_stored_iff hStored).2 hStatus), ?_⟩
    rw [findReplacement, swapFault?, if_pos hMerged]
    rfl
  have hNotMerged : ¬∃ other, session.store.pullRequest? id = .ok (some other) ∧
      other.status = .merged := mt (Store.exists_stored_iff hStored).1 hStatus
  have hOpened : pr.status = .opened := by
    cases hCase : pr.status with
    | opened => rfl
    | merged => exact absurd hCase hStatus
  have hFault := swapFault?_of_opened id old hOpened
  by_cases hOld : old ∉ pr.reviewers.reviewers
  · refine Or.inl ⟨_, .later hNotMerged (.here ((Store.exists_stored_iff hStored).2 hOld)), ?_⟩
    rw [findReplacement, hFault, if_neg hOld]
    rfl
  have hReviewing : ¬∃ other, session.store.pullRequest? id = .ok (some other) ∧
      old ∉ other.reviewers.reviewers := mt (Store.exists_stored_iff hStored).1 hOld
  rw [if_pos (Classical.not_not.1 hOld)] at hFault
  rw [reached_findReplacement_of_swapFault? outside hFault]
  cases hTeam : session.store.teamOf? old with
  | none => exact Or.inl ⟨_, .later hNotMerged (.later hReviewing (.here hTeam)), rfl⟩
  | some row =>
    have hTeamKnown : ¬session.store.teamOf? old = none := by
      rw [hTeam]
      exact Option.some_ne_none row
    have hMembers := (session.store.teamOfRow row).candidates_eq_filter pr old
    cases hCandidates : (session.store.teamOfRow row).candidates pr old with
    | nil =>
      have hNobody : ∀ member ∈ (session.store.teamOfRow row).members, ¬pr.Admits old member := by
        intro member hMember hAdmits
        rw [hCandidates] at hMembers
        exact List.filter_eq_nil_iff.1 hMembers.symm member hMember (decide_eq_true hAdmits)
      refine Or.inl ⟨_, .later hNotMerged (.later hReviewing (.later hTeamKnown (.here ?_))), ?_⟩
      · exact (Store.exists_stored_iff hStored).2 ⟨row, hTeam, hNobody⟩
      · simp only [hCandidates]
    | cons first rest =>
      refine Or.inr ⟨row, first, rest, ?_, ?_⟩
      · exact ⟨hStored, hOpened, Classical.not_not.1 hOld, hTeam, hCandidates.symm.trans hMembers,
          List.cons_ne_nil first rest⟩
      · simp only [hCandidates]

/-- **How far a reassignment gets by itself.**  It ends with the first check that fails, or it comes to the
draw among those who may take over; either way nothing is written. -/
theorem reached_reassign (outside : Surroundings) (session : Session)
    (hStore : session.store.Consistent) (id : PullRequestId) (old : UserId) :
    (∃ cause, Check.First (session.store.reassignChecks id old) cause ∧
      (reassign id old).reached outside session = (Program.ofExcept (.error cause), session)) ∨
    (∀ check ∈ session.store.reassignChecks id old, ¬check.Fails) ∧
      ∃ pr row first rest, session.store.Admitted id old pr row (first :: rest) ∧
        (reassign id old).reached outside session =
          (.draw rest.length fun choice => handOver id old pr ((first :: rest).get choice),
            session) := by
  by_cases hId : Text.isBlank id = true
  · refine Or.inl ⟨_, .here hId, ?_⟩
    rw [reassign_eq, require_eq, if_pos hId]
    rfl
  by_cases hOld : Text.isBlank old = true
  · refine Or.inl ⟨_, .later hId (.here hOld), ?_⟩
    rw [reassign_eq, require_eq, require_eq, if_neg hId, if_pos hOld]
    rfl
  have hLoads : (reassign id old).reached outside session =
      (loadPullRequest id >>= findReplacement id old).reached outside session := by
    rw [reassign_eq, require_eq, require_eq, if_neg hId, if_neg hOld]
    rfl
  obtain ⟨found, hFound⟩ : ∃ found, session.store.pullRequest? id = .ok found :=
    ⟨_, hStore.pullRequest?_eq id⟩
  rw [hLoads, reached_bind, reached_loadPullRequest hFound]
  cases found with
  | none => exact Or.inl ⟨_, .later hId (.later hOld (.here hFound)), rfl⟩
  | some pr =>
    have hKnown : session.store.pullRequest? id ≠ .ok none := by
      rw [hFound]
      intro hNone
      cases hNone
    rcases reached_findReplacement outside id old hFound with
      ⟨cause, hFirst, hReached⟩ | ⟨row, first, rest, hAdmitted, hReached⟩
    · exact Or.inl ⟨cause, .later hId (.later hOld (.later hKnown hFirst)), hReached⟩
    · refine Or.inr ⟨?_, pr, row, first, rest, hAdmitted, hReached⟩
      simp only [Store.reassignChecks, List.cons_append, List.nil_append, List.forall_mem_cons]
      exact ⟨hId, hOld, hKnown, hAdmitted.passes⟩

end Operation

/-! ### What comes of the draw -/

/-- The slot of `old` is handed over: the replacement, who is a user with this record, has the slot that
`old` had, nothing else of the pull request has changed, and it is stored like that; the other pull
requests, the users and the teams are left alone. -/
structure Store.HandedTo (store written : Store) (id : PullRequestId) (old : UserId)
    (replacement : User) (pr left : PullRequest) : Prop where
  user : store.user? replacement.id = some replacement
  slot : ∃ slot, pr.reviewers.reviewers[slot]? = some old ∧
    left.reviewers.reviewers = pr.reviewers.reviewers.set slot replacement.id
  others : left = { pr with reviewers := left.reviewers }
  stored : written.pullRequest? id = .ok (some left)
  elsewhere : store.SlotsOnly written id

variable {store : Store} {id : PullRequestId} {old : UserId} {pr : PullRequest} {row : TeamRow}
  {admitted : List User} {member : User}

/-- **Whoever is drawn gets the slot.**  The checks that are still to come are made on what has been checked
already, and pass. -/
theorem Operation.reached_handOver_of_admitted (outside : Surroundings) (session : Session)
    (hStore : session.store.Consistent) (h : session.store.Admitted id old pr row admitted)
    (hMember : member ∈ admitted) :
    ∃ left, session.store.HandedTo (session.store.handedOver id old member.id) id old member pr left ∧
      (handOver id old pr member).reached outside session =
        (Program.ofExcept (.ok ⟨left, member⟩),
          { session with store := session.store.handedOver id old member.id }) := by
  have hUser := h.user?_eq hMember
  have hKnown : session.store.hasUser member.id = true := Store.hasUser_iff_exists.2 ⟨member, hUser⟩
  have hNew := (h.admits hMember).notReviewing
  obtain ⟨slot, found, left, hSwap⟩ :=
    (Store.swappable_iff_of_stored h.stored).2 ⟨h.opened, h.reviewing, hNew⟩
  obtain rfl : found = pr := Store.eq_of_stored hSwap.stored h.stored
  obtain ⟨hMade, hAfter⟩ := hStore.replaceReviewer_eq_some hSwap hKnown
  have hElsewhere := hStore.slotsOnly_swap id old member.id
  rw [Store.perform, hMade] at hElsewhere
  exact ⟨left, ⟨hUser, ⟨slot, hSwap.reviewers⟩, hSwap.others, hAfter, hElsewhere⟩,
    reached_handOver_of_swappable outside hStore hKnown h.reviewing hNew hSwap⟩

/-- A reassignment that passes its checks makes one draw, among those who may take over, and hands the
slot to whoever is drawn. -/
theorem Request.reassign_admitted (settings : Settings) (hStore : store.Consistent)
    (hPasses : ∀ check ∈ store.reassignChecks id old, ¬check.Fails)
    (h : store.Admitted id old pr row admitted) (outside : Surroundings) (draws readings : Nat) :
    let outcome := ((reassign id old).program settings).run outside ⟨store, draws, readings⟩
    ∃ replacement left, admitted[outside.source draws % admitted.length]? = some replacement ∧
      outcome.1 = .ok (.reassignment ⟨left, replacement⟩) ∧
      outcome.2.drawn = [⟨admitted.length, outside.source draws % admitted.length⟩] ∧
      store.HandedTo outcome.2.session.store id old replacement pr left := by
  intro outcome
  rcases Operation.reached_reassign outside ⟨store, draws, readings⟩ hStore id old with
    ⟨cause, hFirst, -⟩ | ⟨-, other, otherRow, first, rest, hOther, hReached⟩
  · exact absurd hFirst (Check.not_first_of_passes hPasses)
  obtain ⟨rfl, rfl, rfl⟩ := h.unique hOther
  let choice := Draws.alternative (outside.source draws) rest.length
  have hMember : (first :: rest).get choice ∈ first :: rest := List.get_mem (first :: rest) choice
  obtain ⟨left, hHanded, hGiven⟩ :=
    Operation.reached_handOver_of_admitted outside ⟨store, draws + 1, readings⟩ hStore h hMember
  obtain ⟨hWhole, hSession, hDrawn⟩ := Program.run_answering_reached Reply.reassignment
    "reassign_reviewer" (Operation.reassign id old) outside ⟨store, draws, readings⟩
  rw [hReached] at hWhole hSession hDrawn
  obtain ⟨hAnswer, hLeft⟩ := Program.run_answering Reply.reassignment "reassign_reviewer" hGiven
  have hNoMore := Program.drawn_answering Reply.reassignment "reassign_reviewer" hGiven
  refine ⟨(first :: rest).get choice, left, List.getElem?_eq_getElem choice.isLt, hWhole.trans hAnswer,
    hDrawn.trans (congrArg (List.cons _) hNoMore), ?_⟩
  have hWritten : outcome.2.session.store =
      store.handedOver id old ((first :: rest).get choice).id :=
    congrArg Session.store (hSession.trans hLeft)
  rw [hWritten]
  exact hHanded

/-- A reassignment that fails a check is answered with the first that fails.  It draws nothing, and the
service stands where it stood. -/
theorem Request.reassign_refused (settings : Settings) (hStore : store.Consistent) {cause : Failure}
    (hFirst : Check.First (store.reassignChecks id old) cause) (outside : Surroundings)
    (draws readings : Nat) :
    let outcome := ((reassign id old).program settings).run outside ⟨store, draws, readings⟩
    outcome.1 = .error cause ∧ outcome.2.drawn = [] ∧
      outcome.2.session = ⟨store, draws, readings⟩ := by
  intro outcome
  rcases Operation.reached_reassign outside ⟨store, draws, readings⟩ hStore id old with
    ⟨other, hOther, hReached⟩ | ⟨hPasses, -⟩
  · obtain rfl := hFirst.unique hOther
    obtain ⟨hAnswer, hSession⟩ :=
      Program.run_answering Reply.reassignment "reassign_reviewer" hReached
    have hDrawn := Program.drawn_answering Reply.reassignment "reassign_reviewer" hReached
    exact ⟨hAnswer, hDrawn, hSession⟩
  · exact absurd hFirst (Check.not_first_of_passes hPasses)

/-- The checks of a reassignment blame the caller only, and never a concurrent write. -/
theorem Store.cause_of_reassignChecks {check : Check} (h : check ∈ store.reassignChecks id old)
    (message : String) : check.cause ≠ .conflict message ∧ check.cause ≠ .database message ∧
      check.cause ≠ .internal message := by
  simp only [reassignChecks, handOverChecks, List.cons_append, List.nil_append, List.mem_cons,
    List.not_mem_nil, or_false] at h
  rcases h with rfl | rfl | rfl | rfl | rfl | rfl | rfl <;> simp

/-- **Reassignment, end to end.**  In every store that the service comes to, a reassignment that nobody
interferes with

* is answered with a failure exactly if a check fails, and then with the first that fails;
* draws nothing then and leaves everything as it was, and the failure is neither a conflict nor a fault of
  the store nor an internal contradiction;
* makes one draw if no check fails, out of as many as may take over, and hands the slot to whoever has this
  place among them, in the order of the team;
* and whoever may take over gets the slot for some source of the draws. -/
theorem Service.reassigned_alone (before : List Action) (settings : Settings)
    (clock : Nat → Time.Instant) (draws readings : Nat) (id : PullRequestId) (old : UserId) :
    let store := (Service.run before).store
    let outcome := fun source : Source => ((Request.reassign id old).program settings).run
      ⟨source, clock⟩ ⟨store, draws, readings⟩
    (∀ source cause, (outcome source).1 = .error cause ↔
      Check.First (store.reassignChecks id old) cause) ∧
    (∀ source cause, (outcome source).1 = .error cause →
      (outcome source).2.drawn = [] ∧ (outcome source).2.session = ⟨store, draws, readings⟩ ∧
        ∀ message, cause ≠ .conflict message ∧ cause ≠ .database message ∧
          cause ≠ .internal message) ∧
    ((∀ check ∈ store.reassignChecks id old, ¬check.Fails) →
      ∃ pr row admitted, store.Admitted id old pr row admitted ∧
        (∀ source, ∃ replacement left,
          admitted[source draws % admitted.length]? = some replacement ∧
          (outcome source).1 = .ok (.reassignment ⟨left, replacement⟩) ∧
          (outcome source).2.drawn = [⟨admitted.length, source draws % admitted.length⟩] ∧
          store.HandedTo (outcome source).2.session.store id old replacement pr left) ∧
        ∀ member ∈ admitted, ∃ source left,
          (outcome source).1 = .ok (.reassignment ⟨left, member⟩) ∧
          store.HandedTo (outcome source).2.session.store id old member pr left) := by
  intro store outcome
  have hStore : store.Consistent := (Service.lawful_run before).sound.toConsistent
  rcases Operation.reached_reassign ⟨fun _ => 0, clock⟩ ⟨store, draws, readings⟩ hStore id old with
    ⟨first, hFirst, -⟩ | ⟨hPasses, pr, row, head, tail, hAdmitted, -⟩
  · have hRefused : ∀ source, (outcome source).1 = .error first ∧ (outcome source).2.drawn = [] ∧
        (outcome source).2.session = ⟨store, draws, readings⟩ := fun source =>
      Request.reassign_refused settings hStore hFirst ⟨source, clock⟩ draws readings
    obtain ⟨check, hCheck, -, hCause⟩ := hFirst.exists_mem
    refine ⟨fun source cause => ⟨fun hError => ?_, fun hOther => ?_⟩, fun source cause hError => ?_,
      fun hPasses => absurd hFirst (Check.not_first_of_passes hPasses)⟩
    · rw [← Except.error.inj ((hRefused source).1.symm.trans hError)]
      exact hFirst
    · rw [← hFirst.unique hOther]
      exact (hRefused source).1
    · refine ⟨(hRefused source).2.1, (hRefused source).2.2, fun message => ?_⟩
      rw [← Except.error.inj ((hRefused source).1.symm.trans hError), ← hCause]
      exact Store.cause_of_reassignChecks hCheck message
  · have hHanded := fun source : Source => Request.reassign_admitted settings hStore hPasses hAdmitted
      ⟨source, clock⟩ draws readings
    have hSucceeds : ∀ source cause, (outcome source).1 ≠ .error cause := by
      intro source cause hError
      obtain ⟨replacement, left, -, hAnswer, -⟩ := hHanded source
      cases hAnswer.symm.trans hError
    refine ⟨fun source cause => ⟨fun hError => absurd hError (hSucceeds source cause), fun hFirst => ?_⟩,
      fun source cause hError => absurd hError (hSucceeds source cause),
      fun _ => ⟨pr, row, head :: tail, hAdmitted, hHanded, fun member hMember => ?_⟩⟩
    · exact absurd hFirst (Check.not_first_of_passes hPasses)
    · obtain ⟨place, hPlace, rfl⟩ := List.getElem_of_mem hMember
      obtain ⟨replacement, left, hDrawn, hAnswer, -, hLeft⟩ := hHanded fun _ => place
      rw [Nat.mod_eq_of_lt hPlace, List.getElem?_eq_getElem hPlace, Option.some.injEq] at hDrawn
      rw [hDrawn]
      exact ⟨_, left, hAnswer, hLeft⟩

/-- Bob's review goes to Cy, the only one in the team who may take it over. -/
theorem Service.reassigned_to_cy :
    (∀ check ∈ (Service.run reviewByBob).store.reassignChecks "p" "b", ¬check.Fails) ∧
      ∃ left, (((Request.reassign "p" "b").program default).run ⟨fun _ => 5, fun _ => default⟩
        ⟨(Service.run reviewByBob).store, 0, 0⟩).1 =
          .ok (.reassignment ⟨left, ⟨"c", "C", true⟩⟩) := by
  have hStore := (Service.lawful_run reviewByBob).sound.toConsistent
  have hRow : (Service.run reviewByBob).store.pullRequestRow? "p" =
      some ⟨"p", "n", "a", .opened, default, none⟩ := by
    rw [store_reviewByBob]
    rfl
  have hReviewers : (Service.run reviewByBob).store.reviewersOf "p" = ["b"] := by
    rw [store_reviewByBob]
    decide +kernel
  have hTeam : (Service.run reviewByBob).store.teamOf? "b" = some ⟨1, "t"⟩ := by
    rw [store_reviewByBob]
    rfl
  have hMembers : (Service.run reviewByBob).store.membersOf 1 =
      [⟨"b", "B", true⟩, ⟨"c", "C", true⟩] := by
    rw [store_reviewByBob]
    cbv
  have hReassigned :=
    (Service.reassigned_alone reviewByBob default (fun _ => default) 0 0 "p" "b").2.2
  generalize (Service.run reviewByBob).store = store at *
  let pr : PullRequest := ⟨"p", "n", "a", .opened, ⟨["b"], by decide⟩, default, none⟩
  have hStored : store.pullRequest? "p" = .ok (some pr) :=
    hStore.pullRequest?_eq_some_iff.2 ⟨hRow, hReviewers.symm⟩
  have hAdmitted : store.Admitted "p" "b" pr ⟨1, "t"⟩ [⟨"c", "C", true⟩] := by
    refine ⟨hStored, rfl, List.mem_singleton_self "b", hTeam, ?_, List.cons_ne_nil _ _⟩
    rw [Store.teamOfRow, hMembers]
    decide
  have hPasses : ∀ check ∈ store.reassignChecks "p" "b", ¬check.Fails := by
    simp only [Store.reassignChecks, List.cons_append, List.nil_append, List.forall_mem_cons]
    refine ⟨by decide, by decide, ?_, hAdmitted.passes⟩
    rw [hStored]
    intro hNone
    cases hNone
  obtain ⟨found, row, admitted, hFound, hHanded, -⟩ := hReassigned hPasses
  obtain ⟨rfl, rfl, rfl⟩ := hAdmitted.unique hFound
  obtain ⟨replacement, left, hDrawn, hAnswer, -⟩ := hHanded fun _ => 5
  obtain rfl : ⟨"c", "C", true⟩ = replacement := Option.some.inj hDrawn
  exact ⟨hPasses, left, hAnswer⟩

end ReviewAssignment
