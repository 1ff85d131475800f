import ReviewAssignment.Proofs.Slots
import ReviewAssignment.Proofs.Store.PullRequestWrites

/-!
# Swapping a reviewer in the rows

The store swaps a reviewer row by row, under conditions on the rows it finds; in memory a list entry is
written over.  `Store.Swappable` says when the replacement in memory is accepted for a pull request as
it is stored, and what the pull request is then.

In a consistent store the two are the same (`Consistent.replaceReviewer_eq_some`,
`Consistent.replaceReviewer_eq_none`), except that the store also looks for the new reviewer among its
users (`Consistent.replaceReviewer_eq_error`).
-/

namespace ReviewAssignment.Store

/-- **A swap that memory accepts**: the pull request is stored as `found`, it is open, and replacing
`old` by `new` in its slots gives it the slots of `left`, where `new` stands in the slot that `old`
held. -/
structure Swappable (store : Store) (id : PullRequestId) (old new : UserId) (slot : Nat)
    (found left : PullRequest) : Prop where
  stored : store.pullRequest? id = .ok (some found)
  opened : found.status = .opened
  replaced : found.reviewers.replace id old new = .ok (slot, left.reviewers)
  others : left = { found with reviewers := left.reviewers }

variable {store : Store} {id : PullRequestId} {old new : UserId}

/-- One pull request is stored under an identifier. -/
theorem eq_of_stored {pr other : PullRequest} (h : store.pullRequest? id = .ok (some pr))
    (g : store.pullRequest? id = .ok (some other)) : pr = other :=
  Option.some.inj (Except.ok.inj (h.symm.trans g))

/-- When a pull request that is stored can have two reviewers swapped. -/
theorem swappable_iff_of_stored {found : PullRequest}
    (hStored : store.pullRequest? id = .ok (some found)) :
    (∃ slot given left, store.Swappable id old new slot given left) ↔
      found.status = .opened ∧ old ∈ found.reviewers.reviewers ∧
        new ∉ found.reviewers.reviewers := by
  constructor
  · rintro ⟨slot, given, left, hSwap⟩
    obtain rfl : given = found := eq_of_stored hSwap.stored hStored
    obtain ⟨hOld, hNew, -⟩ := Slots.replace_eq_ok_iff.1 hSwap.replaced
    exact ⟨hSwap.opened, List.mem_of_getElem? hOld, hNew⟩
  · rintro ⟨hOpened, hOld, hNew⟩
    obtain ⟨slot, next, hNext⟩ := Slots.exists_replace_eq_ok found.reviewers id hOld hNew
    exact ⟨slot, found, { found with reviewers := next }, hStored, hOpened, hNext, rfl⟩

/-- Rows and memory agree on when a swap can be made. -/
theorem Consistent.swappable_iff (h : store.Consistent) :
    (store.isOpen id && store.holdsSlot id old && !store.holdsSlot id new) = true ↔
      ∃ slot found left, store.Swappable id old new slot found left := by
  rw [Bool.and_eq_true, Bool.and_eq_true, Bool.not_eq_true', h.isOpen_iff, h.holdsSlot_iff,
    ← Bool.not_eq_true, h.holdsSlot_iff]
  constructor
  · rintro ⟨⟨⟨row, hRow, hOpened⟩, hOld⟩, hNew⟩
    have hStored : store.pullRequest? id = .ok (some (row.withSlots ⟨_, h.nodup_reviewersOf id⟩)) :=
      h.pullRequest?_eq_some_iff.2 ⟨hRow, rfl⟩
    exact (swappable_iff_of_stored hStored).2 ⟨hOpened, hOld, hNew⟩
  · rintro ⟨slot, found, left, hSwap⟩
    obtain ⟨hRow, hReviewers⟩ := h.pullRequest?_eq_some_iff.1 hSwap.stored
    obtain ⟨hOpened, hOld, hNew⟩ := (swappable_iff_of_stored hSwap.stored).1 ⟨_, _, _, hSwap⟩
    rw [hReviewers] at hOld hNew
    exact ⟨⟨⟨found.row, hRow, hOpened⟩, hOld⟩, hNew⟩

/-- There is at most one way to swap two reviewers. -/
theorem Swappable.unique {slot other : Nat} {found left again last : PullRequest}
    (h : store.Swappable id old new slot found left)
    (g : store.Swappable id old new other again last) : slot = other ∧ found = again ∧ left = last := by
  obtain rfl : found = again := eq_of_stored h.stored g.stored
  obtain ⟨rfl, hSlots⟩ := Prod.mk.inj (Except.ok.inj (h.replaced.symm.trans g.replaced))
  refine ⟨rfl, rfl, ?_⟩
  rw [h.others, g.others, hSlots]

/-- A swap rewrites the one entry where `old` stands. -/
theorem Swappable.reviewers {slot : Nat} {found left : PullRequest}
    (h : store.Swappable id old new slot found left) :
    found.reviewers.reviewers[slot]? = some old ∧
      left.reviewers.reviewers = found.reviewers.reviewers.set slot new := by
  obtain ⟨hOld, -, hNext⟩ := Slots.replace_eq_ok_iff.1 h.replaced
  exact ⟨hOld, hNext.trans (Slots.set_eq_map found.reviewers.distinct hOld new).symm⟩

/-- **A swap that memory accepts is made**, and the pull request is then as memory has it. -/
theorem Consistent.replaceReviewer_eq_some (h : store.Consistent) {slot : Nat}
    {found left : PullRequest} (hSwap : store.Swappable id old new slot found left)
    (hUser : store.hasUser new = true) :
    store.replaceReviewer id old new = .ok (some left, store.handedOver id old new) ∧
      (store.handedOver id old new).pullRequest? id = .ok (some left) := by
  obtain ⟨hRow, hReviewers⟩ := h.pullRequest?_eq_some_iff.1 hSwap.stored
  obtain ⟨-, hNew, hNext⟩ := Slots.replace_eq_ok_iff.1 hSwap.replaced
  rw [hReviewers] at hNew hNext
  have hAfter : (store.handedOver id old new).pullRequest? id = .ok (some left) := by
    refine (h.handedOver old hNew hUser).pullRequest?_eq_some_iff.2 ⟨?_, ?_⟩
    · rw [hSwap.others]
      exact hRow
    · rw [hNext, h.reviewersOf_handedOver old hNew hUser]
  refine ⟨?_, hAfter⟩
  rw [replaceReviewer_eq, if_pos (h.swappable_iff.2 ⟨slot, found, left, hSwap⟩), if_pos hUser,
    hAfter]
  rfl

/-- A swap that memory accepts is refused when the new reviewer is no user. -/
theorem Consistent.replaceReviewer_eq_error (h : store.Consistent) {slot : Nat}
    {found left : PullRequest} (hSwap : store.Swappable id old new slot found left)
    (hUser : store.hasUser new = false) :
    store.replaceReviewer id old new = .error Violation.missingReference.failure := by
  rw [replaceReviewer_eq, if_pos (h.swappable_iff.2 ⟨slot, found, left, hSwap⟩),
    if_neg (Bool.eq_false_iff.1 hUser)]

/-- **A swap that memory does not accept is not made.** -/
theorem Consistent.replaceReviewer_eq_none (h : store.Consistent)
    (hSwap : ¬∃ slot found left, store.Swappable id old new slot found left) :
    store.replaceReviewer id old new = .ok (none, store) := by
  rw [replaceReviewer_eq, if_neg (mt h.swappable_iff.1 hSwap)]

/-- What a swap comes to, as a call of the store. -/
theorem Consistent.perform_replaceReviewer_cases (h : store.Consistent) (id : PullRequestId)
    (old new : UserId) :
    ((¬∃ slot found left, store.Swappable id old new slot found left) ∧
      store.perform (.replaceReviewer id old new) = (.ok none, store)) ∨
    ((∃ slot found left, store.Swappable id old new slot found left) ∧ store.hasUser new = false ∧
      store.perform (.replaceReviewer id old new) =
        (.error Violation.missingReference.failure, store)) ∨
    ∃ slot found left, store.Swappable id old new slot found left ∧ store.hasUser new = true ∧
      store.perform (.replaceReviewer id old new) =
        (.ok (some left), store.handedOver id old new) ∧
      (store.handedOver id old new).pullRequest? id = .ok (some left) := by
  by_cases hSwap : ∃ slot found left, store.Swappable id old new slot found left
  · right
    cases hUser : store.hasUser new with
    | false =>
      left
      obtain ⟨slot, found, left, hSelf⟩ := hSwap
      refine ⟨⟨slot, found, left, hSelf⟩, rfl, ?_⟩
      rw [Store.perform, h.replaceReviewer_eq_error hSelf hUser]
    | true =>
      right
      obtain ⟨slot, found, left, hSelf⟩ := hSwap
      obtain ⟨hMade, hAfter⟩ := h.replaceReviewer_eq_some hSelf hUser
      refine ⟨slot, found, left, hSelf, rfl, ?_, hAfter⟩
      rw [Store.perform, hMade]
  · left
    refine ⟨hSwap, ?_⟩
    rw [Store.perform, h.replaceReviewer_eq_none hSwap]

/-- When a swap gives a pull request, and which. -/
theorem Consistent.swap_eq_some_iff (h : store.Consistent) {left : PullRequest} :
    (store.perform (.replaceReviewer id old new)).1 = .ok (some left) ↔
      (∃ slot found, store.Swappable id old new slot found left) ∧ store.hasUser new = true := by
  rcases h.perform_replaceReviewer_cases id old new with
    ⟨hNone, hPerformed⟩ | ⟨hSwap, hUser, hPerformed⟩ |
      ⟨slot, found, made, hSwap, hUser, hPerformed, -⟩
  · rw [hPerformed]
    refine ⟨fun hSome => ?_, fun ⟨⟨slot, found, hSwap⟩, _⟩ => ?_⟩
    · cases hSome
    · exact absurd ⟨slot, found, left, hSwap⟩ hNone
  · rw [hPerformed, hUser]
    refine ⟨fun hSome => ?_, fun ⟨_, hKnown⟩ => ?_⟩
    · cases hSome
    · cases hKnown
  · rw [hPerformed]
    constructor
    · intro hSome
      obtain rfl : made = left := Option.some.inj (Except.ok.inj hSome)
      exact ⟨⟨slot, found, hSwap⟩, hUser⟩
    · rintro ⟨⟨other, again, hOther⟩, -⟩
      rw [(hSwap.unique hOther).2.2]

/-- When a swap is refused, and why. -/
theorem Consistent.swap_eq_error_iff (h : store.Consistent) {cause : Failure} :
    (store.perform (.replaceReviewer id old new)).1 = .error cause ↔
      cause = Violation.missingReference.failure ∧
        (∃ slot found left, store.Swappable id old new slot found left) ∧
          store.hasUser new = false := by
  rcases h.perform_replaceReviewer_cases id old new with
    ⟨hNone, hPerformed⟩ | ⟨hSwap, hUser, hPerformed⟩ | ⟨_, _, _, _, hUser, hPerformed, -⟩
  · rw [hPerformed]
    refine ⟨fun hError => ?_, fun ⟨_, hSwap, _⟩ => absurd hSwap hNone⟩
    cases hError
  · rw [hPerformed]
    exact ⟨fun hError => ⟨(Except.error.inj hError).symm, hSwap, hUser⟩,
      fun ⟨hCause, _⟩ => congrArg _ hCause.symm⟩
  · rw [hPerformed, hUser]
    refine ⟨fun hError => ?_, fun ⟨_, _, hUnknown⟩ => ?_⟩
    · cases hError
    · cases hUnknown

theorem Consistent.swap_eq_none_iff (h : store.Consistent) :
    (store.perform (.replaceReviewer id old new)).1 = .ok none ↔
      ¬∃ slot found left, store.Swappable id old new slot found left := by
  rcases h.perform_replaceReviewer_cases id old new with
    ⟨hNone, hPerformed⟩ | ⟨hSwap, _, hPerformed⟩ | ⟨_, _, _, hSwap, _, hPerformed, -⟩
  · rw [hPerformed]
    exact ⟨fun _ => hNone, fun _ => rfl⟩
  · rw [hPerformed]
    refine ⟨fun hNothing => ?_, fun hNone => absurd hSwap hNone⟩
    cases hNothing
  · rw [hPerformed]
    refine ⟨fun hNothing => ?_, fun hNone => absurd ⟨_, _, _, hSwap⟩ hNone⟩
    cases hNothing

/-- Reading back a swap gives what the swap gave. -/
theorem Consistent.pullRequest?_swap (h : store.Consistent) {left : PullRequest}
    (hSome : (store.perform (.replaceReviewer id old new)).1 = .ok (some left)) :
    (store.perform (.replaceReviewer id old new)).2.pullRequest? id = .ok (some left) := by
  rcases h.perform_replaceReviewer_cases id old new with
    ⟨-, hPerformed⟩ | ⟨-, -, hPerformed⟩ | ⟨_, _, made, -, -, hPerformed, hAfter⟩
  · rw [hPerformed] at hSome
    cases hSome
  · rw [hPerformed] at hSome
    cases hSome
  · rw [hPerformed] at hSome ⊢
    obtain rfl : made = left := Option.some.inj (Except.ok.inj hSome)
    exact hAfter

/-- A swap that gives no pull request has not been made. -/
theorem Consistent.swap_unchanged (h : store.Consistent)
    (hNothing : ∀ left, (store.perform (.replaceReviewer id old new)).1 ≠ .ok (some left)) :
    (store.perform (.replaceReviewer id old new)).2 = store := by
  rcases h.perform_replaceReviewer_cases id old new with
    ⟨-, hPerformed⟩ | ⟨-, -, hPerformed⟩ | ⟨_, _, made, -, -, hPerformed, -⟩
  · rw [hPerformed]
  · rw [hPerformed]
  · rw [hPerformed] at hNothing
    exact absurd rfl (hNothing made)

structure SlotsOnly (store written : Store) (id : PullRequestId) : Prop where
  users : written.users = store.users
  teams : written.teams = store.teams
  lastTeam : written.lastTeam = store.lastTeam
  memberships : written.memberships = store.memberships
  pullRequests : written.pullRequests = store.pullRequests
  others : ∀ other, other ≠ id → written.pullRequest? other = store.pullRequest? other

theorem SlotsOnly.refl (store : Store) (id : PullRequestId) : SlotsOnly store store id :=
  ⟨rfl, rfl, rfl, rfl, rfl, fun _ _ => rfl⟩

theorem Consistent.slotsOnly_swap (h : store.Consistent) (id : PullRequestId) (old new : UserId) :
    SlotsOnly store (store.perform (.replaceReviewer id old new)).2 id := by
  rcases h.perform_replaceReviewer_cases id old new with
    ⟨-, hPerformed⟩ | ⟨-, -, hPerformed⟩ | ⟨_, _, _, -, -, hPerformed, -⟩
  · rw [hPerformed]
    exact .refl store id
  · rw [hPerformed]
    exact .refl store id
  · rw [hPerformed]
    refine ⟨rfl, rfl, rfl, rfl, rfl, fun other hOther => ?_⟩
    rw [pullRequest?, reviewersOf_handedOver_of_ne store old new hOther]
    rfl

end ReviewAssignment.Store
