import ReviewAssignment.Proofs.Store.PullRequestWrites

/-!
# What an insertion may be refused for

A write of several rows can break a rule of the tables at any of them.  Of the references that a pull
request makes only those to users can be missing, since its slots come after its row.  So an insertion is
refused because the identifier is taken, whoever the users are (`insertPullRequest_of_mem`), or for a
missing user (`Consistent.insertPullRequest_of_notMem`), and if its author and its reviewers are users only
for the identifier (`Consistent.insertPullRequest_eq_error`).
-/

namespace ReviewAssignment.Store

variable {store : Store} {cause : Failure}

theorem commit_eq_error {written : Except Failure Store}
    (hError : (store.commit written).1 = .error cause) : written = .error cause := by
  cases written with
  | ok written => cases hError
  | error refused => exact congrArg Except.error (Except.error.inj hError)

/-- A slot whose number and reviewer are free is refused only if its reviewer is no user. -/
theorem insertSlot_of_free {row : SlotRow}
    (hRow : row.pullRequest ∈ store.pullRequests.map PullRequestRow.id)
    (hFree : ∀ old ∈ store.slotsOf row.pullRequest,
      old.slot ≠ row.slot ∧ old.reviewer ≠ row.reviewer) :
    store.insertSlot row =
      if store.hasUser row.reviewer = true then .ok { store with slots := store.slots ++ [row] }
      else .error .missingReference := by
  have hNone : ¬(store.slots.any fun old => old.pullRequest == row.pullRequest &&
      (old.slot == row.slot || old.reviewer == row.reviewer)) = true := by
    intro hTaken
    obtain ⟨old, hOld, hSame⟩ := List.any_eq_true.1 hTaken
    rw [Bool.and_eq_true, Bool.or_eq_true] at hSame
    obtain ⟨hSlot, hReviewer⟩ := hFree old (List.mem_filter.2 ⟨hOld, hSame.1⟩)
    rcases hSame.2 with hTakenSlot | hTakenReviewer
    · exact hSlot (beq_iff_eq.1 hTakenSlot)
    · exact hReviewer (beq_iff_eq.1 hTakenReviewer)
  have hKnown : (store.pullRequests.any fun old => old.id == row.pullRequest) = true := by
    simpa using hRow
  rw [insertSlot, if_neg hNone, hKnown, Bool.true_and]

/-- Slots of different reviewers are added after those there are, unless one of the reviewers, at
whatever place, is no user. -/
theorem insertSlots_of_free {id : PullRequestId} {slot : Nat} {reviewers : List UserId}
    (hRow : id ∈ store.pullRequests.map PullRequestRow.id) (hDistinct : reviewers.Nodup)
    (hFree : ∀ old ∈ store.slotsOf id, old.slot < slot ∧ old.reviewer ∉ reviewers) :
    store.insertSlots id slot reviewers =
      if ∀ reviewer ∈ reviewers, store.hasUser reviewer = true then
        .ok { store with slots := store.slots ++ numberedSlots id slot reviewers }
      else .error .missingReference := by
  induction reviewers generalizing store slot with
  | nil => simp [insertSlots, numberedSlots]
  | cons reviewer rest ih =>
    obtain ⟨hOther, hRest⟩ := List.nodup_cons.1 hDistinct
    let given : Store := { store with slots := store.slots ++ [⟨id, slot, reviewer⟩] }
    have hFirst : store.insertSlot ⟨id, slot, reviewer⟩ =
        if store.hasUser reviewer = true then .ok given else .error .missingReference := by
      refine insertSlot_of_free hRow fun old hOld => ?_
      obtain ⟨hSlot, hReviewer⟩ := hFree old hOld
      exact ⟨Nat.ne_of_lt hSlot, fun hSame => hReviewer (hSame ▸ List.mem_cons_self)⟩
    have hLater : ∀ old ∈ given.slotsOf id, old.slot < slot + 1 ∧ old.reviewer ∉ rest := by
      intro old hOld
      have hSlots : given.slotsOf id = store.slotsOf id ++ [⟨id, slot, reviewer⟩] := by
        simp [given, slotsOf]
      rw [hSlots] at hOld
      rcases List.mem_append.1 hOld with hBefore | hNew
      · obtain ⟨hSlot, hReviewer⟩ := hFree old hBefore
        exact ⟨Nat.lt_succ_of_lt hSlot, fun hMem => hReviewer (List.mem_cons_of_mem _ hMem)⟩
      · rw [List.mem_singleton.1 hNew]
        exact ⟨Nat.lt_succ_self slot, hOther⟩
    rw [insertSlots, hFirst]
    by_cases hUser : store.hasUser reviewer = true
    · rw [if_pos hUser]
      change given.insertSlots id (slot + 1) rest = _
      have hUsers : ∀ other, given.hasUser other = store.hasUser other := fun _ => rfl
      rw [@ih given (slot + 1) hRow hRest hLater]
      simp [given, hUsers, hUser, numberedSlots]
    · rw [if_neg hUser, if_neg fun hAll => hUser (hAll reviewer List.mem_cons_self)]
      rfl

/-- A pull request of users: the author and the reviewers are there. -/
structure HasUsersOf (store : Store) (pr : PullRequest) : Prop where
  author : store.hasUser pr.author = true
  reviewers : ∀ reviewer ∈ pr.reviewers.reviewers, store.hasUser reviewer = true

variable {pr : PullRequest}

/-- **An identifier that is taken** refuses the insertion, whoever the author and the reviewers are. -/
theorem insertPullRequest_of_mem (hTaken : pr.id ∈ store.pullRequests.map PullRequestRow.id) :
    store.insertPullRequest pr = .error (.alreadyExists pr.id) := by
  have hRow : store.insertPullRequestRow pr.row = .error .takenKey := by
    rw [insertPullRequestRow, if_pos]
    obtain ⟨row, hRow, hSame⟩ := List.mem_map.1 hTaken
    exact List.any_eq_true.2 ⟨row, hRow, beq_iff_eq.2 hSame⟩
  rw [insertPullRequest, hRow]

/-- **A pull request with a free identifier** is inserted if it is one of users, and no part of it is
otherwise. -/
theorem Consistent.insertPullRequest_of_notMem (h : store.Consistent)
    (hFresh : pr.id ∉ store.pullRequests.map PullRequestRow.id) :
    (store.HasUsersOf pr → store.insertPullRequest pr = .ok (store.withPullRequest pr)) ∧
      (¬store.HasUsersOf pr →
        store.insertPullRequest pr = .error Violation.missingReference.failure) := by
  have hRow : store.insertPullRequestRow pr.row =
      if store.hasUser pr.author = true then
        .ok { store with pullRequests := store.pullRequests ++ [pr.row] }
      else .error .missingReference := by
    rw [Store.insertPullRequestRow, if_neg]
    · rfl
    · simpa [PullRequest.row] using hFresh
  by_cases hAuthor : store.hasUser pr.author = true
  · let given : Store := { store with pullRequests := store.pullRequests ++ [pr.row] }
    have hSlots : given.insertSlots pr.id 0 pr.reviewers.reviewers =
        if ∀ reviewer ∈ pr.reviewers.reviewers, store.hasUser reviewer = true then
          .ok (store.withPullRequest pr)
        else .error .missingReference := by
      refine insertSlots_of_free ?_ pr.reviewers.distinct fun old hOld => ?_
      · rw [List.map_append]
        exact List.mem_append_right _ (List.mem_singleton_self pr.id)
      · have hNone : given.slotsOf pr.id = [] := h.slotsOf_eq_nil hFresh
        rw [hNone] at hOld
        cases hOld
    rw [Store.insertPullRequest, hRow, if_pos hAuthor]
    change (_ → (given.insertSlots _ _ _).mapError _ = _) ∧ (_ → (given.insertSlots _ _ _).mapError _ = _)
    rw [hSlots]
    constructor
    · intro hUsers
      rw [if_pos hUsers.reviewers]
      rfl
    · intro hMissing
      rw [if_neg fun hReviewers => hMissing ⟨hAuthor, hReviewers⟩]
      rfl
  · refine ⟨fun hUsers => absurd hUsers.author hAuthor, fun _ => ?_⟩
    rw [Store.insertPullRequest, hRow, if_neg hAuthor]

/-- **What an insertion is refused for**, if its author and its reviewers are users. -/
theorem Consistent.insertPullRequest_eq_error (h : store.Consistent) (hUsers : store.HasUsersOf pr)
    (hError : store.insertPullRequest pr = .error cause) : cause = .alreadyExists pr.id := by
  by_cases hTaken : pr.id ∈ store.pullRequests.map PullRequestRow.id
  · exact Except.error.inj (hError.symm.trans (insertPullRequest_of_mem hTaken))
  · cases hError.symm.trans ((h.insertPullRequest_of_notMem hTaken).1 hUsers)

/-- An identifier that is free is given to the pull request, which is stored as it came. -/
theorem Consistent.insertPullRequest_of_free (h : store.Consistent) (hUsers : store.HasUsersOf pr)
    (hRow : store.pullRequestRow? pr.id = none) :
    store.insertPullRequest pr = .ok (store.withPullRequest pr) ∧
      (store.withPullRequest pr).pullRequest? pr.id = .ok (some pr) := by
  have hWritten := (h.insertPullRequest_of_notMem (pullRequestRow?_eq_none_iff.1 hRow)).1 hUsers
  refine ⟨hWritten, (h.insertPullRequest hWritten).pullRequest?_eq_some_iff.2 ⟨?_, ?_⟩⟩
  · rw [pullRequestRow?_withPullRequest, hRow, if_pos rfl]
    rfl
  · exact (h.reviewersOf_inserted hWritten).symm

end ReviewAssignment.Store
