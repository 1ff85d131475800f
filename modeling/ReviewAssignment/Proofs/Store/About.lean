import ReviewAssignment.Proofs.Store.PullRequestWrites

/-!
# The part of a store that is about one pull request

`Store.about id` keeps the roster and the rows of one pull request.  A call that asks about no other pull
request (`Call.Sees`) cannot tell this part from the whole: it is answered alike by both, and what it
does to the part is what it does to the whole (`perform_about`).  And it leaves the parts about all other
pull requests alone (`about_perform_of_ne`), unless it writes the roster, which is in every part.

So a store is known by its parts, up to the order in which rows of different pull requests stand, and
operations on different pull requests do not get in each other's way.
-/

namespace ReviewAssignment.Store

open Time (Instant)

/-- The store as far as it is about one pull request. -/
def about (store : Store) (id : PullRequestId) : Store :=
  { store with
    pullRequests := store.pullRequests.filter fun row => row.id == id
    slots := store.slotsOf id }

namespace Call

/-- A call asks about no pull request but one. -/
def Sees (id : PullRequestId) : Call → Prop
  | .pullRequestRow other | .reviewersOf other => other = id
  | .reviewsOf _ | .reviewerLoads | .reviewerCounts => False
  | .insertPullRequest pr => pr.id = id
  | .transition other _ _ _ | .replaceReviewer other _ _ => other = id
  | _ => True

def WritesRoster : Call → Prop
  | .upsertTeam _ | .setActive _ _ => True
  | _ => False

end Call

variable {store written : Store} {id other : PullRequestId}

/-! ### Reading a part -/

theorem slotsOf_about (store : Store) (id : PullRequestId) :
    (store.about id).slotsOf id = store.slotsOf id := by
  rw [slotsOf, about, slotsOf, List.filter_filter]
  simp only [Bool.and_self]

theorem reviewersOf_about (store : Store) (id : PullRequestId) :
    (store.about id).reviewersOf id = store.reviewersOf id :=
  reviewersOf_congr (slotsOf_about store id)

theorem pullRequestRow?_about (store : Store) (id : PullRequestId) :
    (store.about id).pullRequestRow? id = store.pullRequestRow? id := by
  rw [pullRequestRow?, about, List.find?_filter, pullRequestRow?]
  congr 1
  funext row
  by_cases hId : row.id = id <;> simp [hId]

theorem pullRequest?_about (store : Store) (id : PullRequestId) :
    (store.about id).pullRequest? id = store.pullRequest? id := by
  rw [pullRequest?, pullRequestRow?_about, reviewersOf_about, pullRequest?]

theorem isOpen_about (store : Store) (id : PullRequestId) :
    (store.about id).isOpen id = store.isOpen id := by
  rw [isOpen, about, List.any_filter, isOpen]
  congr 1
  funext row
  rw [← Bool.and_assoc, Bool.and_self]

theorem holdsSlot_about (store : Store) (id : PullRequestId) (user : UserId) :
    (store.about id).holdsSlot id user = store.holdsSlot id user := by
  rw [holdsSlot, about, slotsOf, List.any_filter, holdsSlot]
  congr 1
  funext row
  rw [← Bool.and_assoc, Bool.and_self]

/-! ### Writing a pull request -/

theorem about_moved (store : Store) (id other : PullRequestId) (expected next : Status)
    (moment : Instant) :
    (store.moved id expected next moment).about other =
      (store.about other).moved id expected next moment := by
  rw [about, moved, List.filter_map]
  simp only [Function.comp_def, moveRow_id]
  rfl

theorem about_moved_of_ne (store : Store) (expected next : Status) (moment : Instant)
    (hOther : other ≠ id) :
    (store.moved id expected next moment).about other = store.about other := by
  have hRows : (store.about other).pullRequests.map (moveRow id expected next moment) =
      (store.about other).pullRequests := by
    refine (List.map_congr_left fun row hRow => ?_).trans (List.map_id' _)
    rw [moveRow, if_neg]
    rintro ⟨hId, -⟩
    exact hOther ((beq_iff_eq.1 (List.mem_filter.1 hRow).2).symm.trans hId)
  rw [about_moved, moved, hRows]

theorem transition_about (store : Store) (id : PullRequestId) (expected next : Status)
    (moment : Instant) :
    (store.about id).transition id expected next moment =
      ((store.transition id expected next moment).1,
        (store.transition id expected next moment).2.about id) := by
  rw [transition_eq, transition_eq, about_moved, about, List.any_filter]
  simp only [← Bool.and_assoc, Bool.and_self]

theorem about_handedOver (store : Store) (id other : PullRequestId) (old new : UserId) :
    (store.handedOver id old new).about other = (store.about other).handedOver id old new := by
  rw [about, slotsOf_handedOver]
  rfl

theorem about_handedOver_of_ne (store : Store) (old new : UserId) (hOther : other ≠ id) :
    (store.handedOver id old new).about other = store.about other := by
  rw [about, slotsOf_handedOver_of_ne store old new hOther]
  rfl

theorem replaceReviewer_about (store : Store) (id : PullRequestId) (old new : UserId) :
    (store.about id).replaceReviewer id old new =
      (store.replaceReviewer id old new).map fun done => (done.1, done.2.about id) := by
  have hUser : (store.about id).hasUser new = store.hasUser new := rfl
  rw [replaceReviewer_eq, replaceReviewer_eq, isOpen_about, holdsSlot_about, holdsSlot_about, hUser,
    ← about_handedOver, pullRequest?_about]
  split
  · split
    · cases (store.handedOver id old new).pullRequest? id <;> rfl
    · rfl
  · rfl

theorem about_replaceReviewer_of_ne {old new : UserId} {updated : Option PullRequest}
    (hWritten : store.replaceReviewer id old new = .ok (updated, written)) (hOther : other ≠ id) :
    written.about other = store.about other := by
  rw [replaceReviewer_eq] at hWritten
  split at hWritten
  · split at hWritten
    · cases hRead : (store.handedOver id old new).pullRequest? id with
      | error cause =>
        rw [hRead] at hWritten
        cases hWritten
      | ok read =>
        rw [hRead] at hWritten
        cases hWritten
        exact about_handedOver_of_ne store old new hOther
    · cases hWritten
  · cases hWritten
    rfl

/-! ### Inserting a pull request -/

theorem insertPullRequestRow_about {row : PullRequestRow} (hId : row.id = id) :
    (store.about id).insertPullRequestRow row =
      (store.insertPullRequestRow row).map fun written => written.about id := by
  have hUser : (store.about id).hasUser row.author = store.hasUser row.author := rfl
  have hTaken : ((store.about id).pullRequests.any fun old => old.id == row.id) =
      store.pullRequests.any fun old => old.id == row.id := by
    rw [about, List.any_filter, hId]
    simp only [Bool.and_self]
  rw [insertPullRequestRow, insertPullRequestRow, hTaken, hUser]
  split
  · rfl
  · split
    · simp [Except.map, about, slotsOf, hId]
    · rfl

theorem insertSlot_about {row : SlotRow} (hId : row.pullRequest = id) :
    (store.about id).insertSlot row = (store.insertSlot row).map fun written => written.about id := by
  have hUser : (store.about id).hasUser row.reviewer = store.hasUser row.reviewer := rfl
  have hTaken : ((store.about id).slots.any fun old => old.pullRequest == row.pullRequest &&
      (old.slot == row.slot || old.reviewer == row.reviewer)) =
        store.slots.any fun old => old.pullRequest == row.pullRequest &&
          (old.slot == row.slot || old.reviewer == row.reviewer) := by
    rw [about, slotsOf, List.any_filter, hId]
    simp only [← Bool.and_assoc, Bool.and_self]
  have hKnown : ((store.about id).pullRequests.any fun old => old.id == row.pullRequest) =
      store.pullRequests.any fun old => old.id == row.pullRequest := by
    rw [about, List.any_filter, hId]
    simp only [Bool.and_self]
  rw [insertSlot, insertSlot, hTaken, hKnown, hUser]
  split
  · rfl
  · split
    · simp [Except.map, about, slotsOf, hId]
    · rfl

theorem insertSlots_about (store : Store) (id : PullRequestId) (slot : Nat)
    (reviewers : List UserId) :
    (store.about id).insertSlots id slot reviewers =
      (store.insertSlots id slot reviewers).map fun written => written.about id := by
  induction reviewers generalizing store slot with
  | nil => rfl
  | cons reviewer rest ih =>
    have hSlot : (⟨id, slot, reviewer⟩ : SlotRow).pullRequest = id := rfl
    rw [insertSlots, insertSlots, insertSlot_about hSlot]
    cases store.insertSlot ⟨id, slot, reviewer⟩ with
    | error violation => rfl
    | ok given => exact ih given (slot + 1)

theorem insertPullRequest_about (store : Store) (pr : PullRequest) :
    (store.about pr.id).insertPullRequest pr =
      (store.insertPullRequest pr).map fun written => written.about pr.id := by
  have hRow : pr.row.id = pr.id := rfl
  rw [insertPullRequest, insertPullRequest, insertPullRequestRow_about hRow]
  cases store.insertPullRequestRow pr.row with
  | error violation => cases violation <;> rfl
  | ok given =>
    change ((given.about pr.id).insertSlots pr.id 0 pr.reviewers.reviewers).mapError _ = _
    rw [insertSlots_about]
    simp only
    cases given.insertSlots pr.id 0 pr.reviewers.reviewers <;> rfl

theorem about_insertPullRequest_of_ne {pr : PullRequest}
    (hWritten : store.insertPullRequest pr = .ok written) (hOther : other ≠ pr.id) :
    written.about other = store.about other := by
  obtain ⟨-, -, rfl⟩ := insertPullRequest_eq_ok hWritten
  rw [about, slotsOf_withPullRequest_of_ne store (Ne.symm hOther)]
  simp [about, withPullRequest, PullRequest.row, Ne.symm hOther]

/-! ### Writing the roster -/

theorem setActive_about (store : Store) (id : PullRequestId) (user : UserId) (active : Bool) :
    (store.about id).setActive user active =
      ((store.setActive user active).1, (store.setActive user active).2.about id) := by
  have hUser : (store.about id).hasUser user = store.hasUser user := rfl
  rw [setActive, setActive, hUser]
  split <;> rfl

theorem ensureTeam_about (store : Store) (id : PullRequestId) (name : TeamName) :
    (store.about id).ensureTeam name =
      ((store.ensureTeam name).1, (store.ensureTeam name).2.about id) := by
  have hTeam : (store.about id).teamNamed? name = store.teamNamed? name := rfl
  rw [ensureTeam, ensureTeam, hTeam]
  split <;> rfl

theorem putUser_about (store : Store) (id : PullRequestId) (user : User) :
    (store.about id).putUser user = (store.putUser user).about id := by
  have hUser : (store.about id).hasUser user.id = store.hasUser user.id := rfl
  rw [putUser, putUser, hUser]
  split <;> rfl

theorem foldl_putUser_about (store : Store) (id : PullRequestId) (users : List User) :
    users.foldl putUser (store.about id) = (users.foldl putUser store).about id := by
  induction users generalizing store with
  | nil => rfl
  | cons user rest ih => rw [List.foldl_cons, putUser_about, ih, List.foldl_cons]

theorem insertMembership_about (store : Store) (id : PullRequestId) (row : MembershipRow) :
    (store.about id).insertMembership row =
      (store.insertMembership row).map fun written => written.about id := by
  have hUser : (store.about id).hasUser row.user = store.hasUser row.user := rfl
  have hTeam : (store.about id).hasTeam row.team = store.hasTeam row.team := rfl
  have hTaken : (store.about id).memberships = store.memberships := rfl
  rw [insertMembership, insertMembership, hTaken, hUser, hTeam]
  split
  · rfl
  · split <;> rfl

theorem attachMembers_about (store : Store) (id : PullRequestId) (team : TeamNumber) (position : Nat)
    (members : List User) :
    (store.about id).attachMembers team position members =
      (store.attachMembers team position members).map fun written => written.about id := by
  induction members generalizing store position with
  | nil => rfl
  | cons member rest ih =>
    rw [attachMembers, attachMembers, insertMembership_about]
    cases store.insertMembership ⟨member.id, team, position⟩ with
    | error violation => cases violation <;> rfl
    | ok attached => exact ih attached (position + 1)

theorem upsertTeam_about (store : Store) (id : PullRequestId) (team : Team) :
    (store.about id).upsertTeam team =
      (store.upsertTeam team).map fun written => written.about id := by
  have hPrepared : (store.about id).preparedFor team = (store.preparedFor team).about id := by
    rw [preparedFor, ensureTeam_about, foldl_putUser_about, preparedFor]
    rfl
  rw [upsertTeam_eq, upsertTeam_eq, hPrepared, ensureTeam_about, attachMembers_about]

/-! ### All calls -/

theorem commit_about (store : Store) (id : PullRequestId) (written : Except Failure Store) :
    (store.about id).commit (written.map fun left => left.about id) =
      ((store.commit written).1, (store.commit written).2.about id) := by
  cases written <;> rfl

/-- **A call that asks about one pull request** is answered alike by the whole store and by the part
that is about this pull request, and does to the part what it does to the whole. -/
theorem perform_about (store : Store) {call : Call} (hSees : call.Sees id) :
    (store.about id).perform call = ((store.perform call).1, (store.perform call).2.about id) := by
  cases call with
  | pullRequestRow other =>
    cases hSees
    rw [perform, pullRequestRow?_about]
    rfl
  | reviewersOf other =>
    cases hSees
    rw [perform, reviewersOf_about]
    rfl
  | upsertTeam team => rw [perform, upsertTeam_about, commit_about, perform]
  | setActive user active => rw [perform, setActive_about, perform]
  | insertPullRequest pr =>
    cases hSees
    rw [perform, insertPullRequest_about, commit_about, perform]
  | transition other expected next moment =>
    cases hSees
    rw [perform, transition_about, perform]
  | replaceReviewer other old new =>
    cases hSees
    rw [perform, replaceReviewer_about, perform]
    cases store.replaceReviewer id old new <;> rfl
  | reviewsOf user => cases hSees
  | reviewerLoads => cases hSees
  | reviewerCounts => cases hSees
  | _ => rfl

/-- **A call that asks about one pull request** leaves the parts about all others as they are, unless
it writes the roster. -/
theorem about_perform_of_ne {call : Call} (hSees : call.Sees id) (hRoster : ¬call.WritesRoster)
    (hOther : other ≠ id) : (store.perform call).2.about other = store.about other := by
  cases call with
  | upsertTeam team => exact absurd trivial hRoster
  | setActive user active => exact absurd trivial hRoster
  | insertPullRequest pr =>
    cases hSees
    rw [perform]
    cases hWritten : store.insertPullRequest pr with
    | error cause => rfl
    | ok written => exact about_insertPullRequest_of_ne hWritten hOther
  | transition _ expected next moment =>
    cases hSees
    rw [perform, transition_eq]
    exact about_moved_of_ne store expected next moment hOther
  | replaceReviewer _ old new =>
    cases hSees
    rw [perform]
    cases hWritten : store.replaceReviewer id old new with
    | error cause => rfl
    | ok done => exact about_replaceReviewer_of_ne hWritten hOther
  | _ => rfl

end ReviewAssignment.Store
