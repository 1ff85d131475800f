import ReviewAssignment.Proofs.Store.RosterWrites

/-!
# Writes to pull requests

What the three writes to pull requests do to the rows: `withPullRequest` is the store after an
insertion, `moved` the store after a change of status, `handedOver` the store after a slot changed
hands.  The three writes are conditional, and each condition is said once, in
`insertPullRequest_eq_ok`, `Consistent.transition_applied_iff` and `Consistent.replaceReviewer_cases`.

`Effect` puts this together with the writes to the roster: it lists all that a call can do to a
consistent store, and what every call keeps is shown by going through the list.  The first such
property is here, `Consistent.perform`: **no call of the store breaks the rules of the tables.**
-/

namespace ReviewAssignment.Store

open Time (Instant)

/-! ### Inserting -/

/-- The rows of reviewers whose slots are numbered from a given number on. -/
def numberedSlots (id : PullRequestId) (slot : Nat) : List UserId → List SlotRow
  | [] => []
  | reviewer :: rest => ⟨id, slot, reviewer⟩ :: numberedSlots id (slot + 1) rest

@[simp] theorem map_reviewer_numberedSlots (id : PullRequestId) (slot : Nat)
    (reviewers : List UserId) :
    (numberedSlots id slot reviewers).map SlotRow.reviewer = reviewers := by
  induction reviewers generalizing slot with
  | nil => rfl
  | cons reviewer rest ih => rw [numberedSlots, List.map_cons, ih]

theorem pullRequest_of_mem_numberedSlots {id : PullRequestId} {slot : Nat}
    {reviewers : List UserId} {row : SlotRow} (hRow : row ∈ numberedSlots id slot reviewers) :
    row.pullRequest = id := by
  induction reviewers generalizing slot with
  | nil => simp [numberedSlots] at hRow
  | cons reviewer rest ih =>
    rcases List.mem_cons.1 hRow with rfl | hRest
    · rfl
    · exact ih hRest

def withPullRequest (store : Store) (pr : PullRequest) : Store :=
  { store with
    pullRequests := store.pullRequests ++ [pr.row]
    slots := store.slots ++ numberedSlots pr.id 0 pr.reviewers.reviewers }

theorem insertPullRequestRow_eq_ok_iff {store written : Store} {row : PullRequestRow} :
    store.insertPullRequestRow row = .ok written ↔
      row.id ∉ store.pullRequests.map PullRequestRow.id ∧ store.hasUser row.author = true ∧
        written = { store with pullRequests := store.pullRequests ++ [row] } := by
  have hTaken : (store.pullRequests.any fun old => old.id == row.id) = true ↔
      row.id ∈ store.pullRequests.map PullRequestRow.id := by
    simp
  rw [insertPullRequestRow, ← hTaken]
  split
  · next h => simp [h]
  · split <;> grind

/-- When a slot can be added, and what the store is then. -/
theorem insertSlot_eq_ok_iff {store written : Store} {row : SlotRow} :
    store.insertSlot row = .ok written ↔
      (∀ old ∈ store.slotsOf row.pullRequest, old.slot ≠ row.slot ∧ old.reviewer ≠ row.reviewer) ∧
        row.pullRequest ∈ store.pullRequests.map PullRequestRow.id ∧
        store.hasUser row.reviewer = true ∧
        written = { store with slots := store.slots ++ [row] } := by
  have hTaken : (store.slots.any fun old => old.pullRequest == row.pullRequest &&
      (old.slot == row.slot || old.reviewer == row.reviewer)) = true ↔
        ¬∀ old ∈ store.slotsOf row.pullRequest,
          old.slot ≠ row.slot ∧ old.reviewer ≠ row.reviewer := by
    simp only [slotsOf, List.any_eq_true, List.mem_filter]
    grind
  have hKnown : (store.pullRequests.any fun old => old.id == row.pullRequest) = true ↔
      row.pullRequest ∈ store.pullRequests.map PullRequestRow.id := by
    simp
  rw [insertSlot]
  split
  · next h => simp only [hTaken.1 h, false_and, reduceCtorEq]
  · next h =>
    rw [hTaken, not_not] at h
    rw [← hKnown]
    split <;> grind

theorem insertSlots_cons_eq_ok_iff {store written : Store} {id : PullRequestId} {slot : Nat}
    {reviewer : UserId} {rest : List UserId} :
    store.insertSlots id slot (reviewer :: rest) = .ok written ↔
      ∃ given, store.insertSlot ⟨id, slot, reviewer⟩ = .ok given ∧
        given.insertSlots id (slot + 1) rest = .ok written := by
  rw [insertSlots]
  cases store.insertSlot ⟨id, slot, reviewer⟩ <;> simp [bind, Except.bind]

theorem insertSlots_eq_ok {store written : Store} {id : PullRequestId} {slot : Nat}
    {reviewers : List UserId} (hWritten : store.insertSlots id slot reviewers = .ok written) :
    written = { store with slots := store.slots ++ numberedSlots id slot reviewers } := by
  induction reviewers generalizing store slot with
  | nil =>
    cases hWritten
    simp [numberedSlots]
  | cons reviewer rest ih =>
    obtain ⟨given, hFirst, hRest⟩ := insertSlots_cons_eq_ok_iff.1 hWritten
    obtain ⟨-, -, -, rfl⟩ := insertSlot_eq_ok_iff.1 hFirst
    rw [ih hRest, numberedSlots, List.append_assoc, List.singleton_append]

/-- A pull request is inserted row first, then slot by slot. -/
theorem insertPullRequest_eq_ok_iff {store written : Store} {pr : PullRequest} :
    store.insertPullRequest pr = .ok written ↔
      ∃ given, store.insertPullRequestRow pr.row = .ok given ∧
        given.insertSlots pr.id 0 pr.reviewers.reviewers = .ok written := by
  rw [insertPullRequest]
  cases store.insertPullRequestRow pr.row with
  | error cause => cases cause <;> simp
  | ok given =>
    cases hSlots : given.insertSlots pr.id 0 pr.reviewers.reviewers <;>
      simp [Except.mapError, hSlots]

/-- **What an insertion that succeeds has found and done.** -/
theorem insertPullRequest_eq_ok {store written : Store} {pr : PullRequest}
    (hWritten : store.insertPullRequest pr = .ok written) :
    pr.id ∉ store.pullRequests.map PullRequestRow.id ∧ store.hasUser pr.author = true ∧
      written = store.withPullRequest pr := by
  obtain ⟨given, hRow, hSlots⟩ := insertPullRequest_eq_ok_iff.1 hWritten
  obtain ⟨hFresh, hAuthor, rfl⟩ := insertPullRequestRow_eq_ok_iff.1 hRow
  exact ⟨hFresh, hAuthor, insertSlots_eq_ok hSlots⟩

theorem pullRequestRow?_withPullRequest (store : Store) (pr : PullRequest) (id : PullRequestId) :
    (store.withPullRequest pr).pullRequestRow? id =
      (store.pullRequestRow? id).or (if pr.id = id then some pr.row else none) := by
  rw [pullRequestRow?, withPullRequest, List.find?_append, ← pullRequestRow?]
  by_cases hId : pr.id = id <;> simp [PullRequest.row, hId]

theorem slotsOf_withPullRequest_self (store : Store) (pr : PullRequest) :
    (store.withPullRequest pr).slotsOf pr.id =
      store.slotsOf pr.id ++ numberedSlots pr.id 0 pr.reviewers.reviewers := by
  have hAll : (numberedSlots pr.id 0 pr.reviewers.reviewers).filter
      (fun row => row.pullRequest == pr.id) = numberedSlots pr.id 0 pr.reviewers.reviewers :=
    List.filter_eq_self.2 fun row hRow => beq_iff_eq.2 (pullRequest_of_mem_numberedSlots hRow)
  rw [slotsOf, withPullRequest, List.filter_append, hAll, ← slotsOf]

theorem slotsOf_withPullRequest_of_ne (store : Store) {pr : PullRequest} {id : PullRequestId}
    (hId : pr.id ≠ id) : (store.withPullRequest pr).slotsOf id = store.slotsOf id := by
  have hNone : (numberedSlots pr.id 0 pr.reviewers.reviewers).filter
      (fun row => row.pullRequest == id) = [] :=
    List.filter_eq_nil_iff.2 fun row hRow hSame =>
      hId ((pullRequest_of_mem_numberedSlots hRow).symm.trans (beq_iff_eq.1 hSame))
  rw [slotsOf, withPullRequest, List.filter_append, hNone, List.append_nil, ← slotsOf]

theorem Consistent.insertPullRequestRow {store written : Store} (h : store.Consistent)
    {row : PullRequestRow} (hWritten : store.insertPullRequestRow row = .ok written) :
    written.Consistent := by
  obtain ⟨hFresh, hAuthor, rfl⟩ := insertPullRequestRow_eq_ok_iff.1 hWritten
  refine { h with pullRequestIds := ?_, authors := ?_, slots := ?_ }
  · exact nodup_key_append h.pullRequestIds hFresh
  · intro other hOther
    rcases List.mem_append.1 hOther with hOld | hNew
    · exact h.authors other hOld
    · rw [List.mem_singleton] at hNew
      exact hNew ▸ hAuthor
  · intro slot hSlot
    rw [List.map_append]
    exact ⟨List.mem_append_left _ (h.slots slot hSlot).1, (h.slots slot hSlot).2⟩

theorem Consistent.insertSlot {store written : Store} (h : store.Consistent) {row : SlotRow}
    (hNumber : row.slot = (store.slotsOf row.pullRequest).length)
    (hWritten : store.insertSlot row = .ok written) : written.Consistent := by
  obtain ⟨hFree, hPullRequest, hReviewer, rfl⟩ := insertSlot_eq_ok_iff.1 hWritten
  have hSelf : slotsOf { store with slots := store.slots ++ [row] } row.pullRequest =
      store.slotsOf row.pullRequest ++ [row] := by
    simp [slotsOf]
  have hOther : ∀ id, row.pullRequest ≠ id →
      slotsOf { store with slots := store.slots ++ [row] } id = store.slotsOf id := by
    intro id hId
    simp [slotsOf, hId]
  refine { h with slots := ?_, slotNumbers := fun id => ?_, reviewers := fun id => ?_ }
  · intro other hMem
    rcases List.mem_append.1 hMem with hOld | hNew
    · exact h.slots other hOld
    · rw [List.mem_singleton] at hNew
      subst hNew
      exact ⟨hPullRequest, hReviewer⟩
  · by_cases hId : row.pullRequest = id
    · subst hId
      rw [hSelf]
      exact numbered_append (h.slotNumbers _) hNumber
    · rw [hOther id hId]
      exact h.slotNumbers id
  · by_cases hId : row.pullRequest = id
    · subst hId
      rw [hSelf]
      refine nodup_key_append (h.reviewers _) fun hMem => ?_
      obtain ⟨old, hOld, hSame⟩ := List.mem_map.1 hMem
      exact (hFree old hOld).2 hSame
    · rw [hOther id hId]
      exact h.reviewers id

theorem Consistent.insertSlots {store written : Store} (h : store.Consistent) {id : PullRequestId}
    {slot : Nat} {reviewers : List UserId} (hSlot : slot = (store.slotsOf id).length)
    (hWritten : store.insertSlots id slot reviewers = .ok written) : written.Consistent := by
  induction reviewers generalizing store slot with
  | nil =>
    cases hWritten
    exact h
  | cons reviewer rest ih =>
    obtain ⟨given, hFirst, hRest⟩ := insertSlots_cons_eq_ok_iff.1 hWritten
    refine ih (h.insertSlot hSlot hFirst) ?_ hRest
    obtain ⟨-, -, -, rfl⟩ := insertSlot_eq_ok_iff.1 hFirst
    simp [slotsOf, hSlot]

theorem Consistent.insertPullRequest {store written : Store} (h : store.Consistent)
    {pr : PullRequest} (hWritten : store.insertPullRequest pr = .ok written) :
    written.Consistent := by
  obtain ⟨given, hRow, hSlots⟩ := insertPullRequest_eq_ok_iff.1 hWritten
  have hFresh := (insertPullRequestRow_eq_ok_iff.1 hRow).1
  have hNoSlots : given.slotsOf pr.id = [] := by
    obtain ⟨-, -, rfl⟩ := insertPullRequestRow_eq_ok_iff.1 hRow
    exact h.slotsOf_eq_nil hFresh
  refine (h.insertPullRequestRow hRow).insertSlots ?_ hSlots
  rw [hNoSlots]
  rfl

theorem reviewersOf_withPullRequest_of_ne (store : Store) {pr : PullRequest} {id : PullRequestId}
    (hId : pr.id ≠ id) : (store.withPullRequest pr).reviewersOf id = store.reviewersOf id :=
  reviewersOf_congr (slotsOf_withPullRequest_of_ne store hId)

/-- An inserted pull request has the reviewers it came with. -/
theorem Consistent.reviewersOf_inserted {store written : Store} (h : store.Consistent)
    {pr : PullRequest} (hWritten : store.insertPullRequest pr = .ok written) :
    written.reviewersOf pr.id = pr.reviewers.reviewers := by
  rw [(h.insertPullRequest hWritten).reviewersOf_eq]
  obtain ⟨hFresh, -, rfl⟩ := insertPullRequest_eq_ok hWritten
  rw [slotsOf_withPullRequest_self, h.slotsOf_eq_nil hFresh, List.nil_append,
    map_reviewer_numberedSlots]

/-! ### Changing the status -/

/-- The row after a change of status, if it is the row that is meant. -/
def moveRow (id : PullRequestId) (expected next : Status) (moment : Instant)
    (row : PullRequestRow) : PullRequestRow :=
  if row.id = id ∧ row.status = expected then
    { row with
      status := next
      mergedAt := if next = .merged then some moment else row.mergedAt }
  else row

@[simp] theorem moveRow_id (id : PullRequestId) (expected next : Status) (moment : Instant)
    (row : PullRequestRow) : (moveRow id expected next moment row).id = row.id := by
  rw [moveRow]
  split <;> rfl

@[simp] theorem moveRow_name (id : PullRequestId) (expected next : Status) (moment : Instant)
    (row : PullRequestRow) : (moveRow id expected next moment row).name = row.name := by
  rw [moveRow]
  split <;> rfl

@[simp] theorem moveRow_author (id : PullRequestId) (expected next : Status) (moment : Instant)
    (row : PullRequestRow) : (moveRow id expected next moment row).author = row.author := by
  rw [moveRow]
  split <;> rfl

@[simp] theorem moveRow_createdAt (id : PullRequestId) (expected next : Status) (moment : Instant)
    (row : PullRequestRow) :
    (moveRow id expected next moment row).createdAt = row.createdAt := by
  rw [moveRow]
  split <;> rfl

def moved (store : Store) (id : PullRequestId) (expected next : Status) (moment : Instant) : Store :=
  { store with pullRequests := store.pullRequests.map (moveRow id expected next moment) }

/-- A change of status, in one formula.  Where no row is in the expected status, the rewriting of
the rows changes none. -/
theorem transition_eq (store : Store) (id : PullRequestId) (expected next : Status)
    (moment : Instant) :
    store.transition id expected next moment =
      (store.pullRequests.any fun row => row.id == id && row.status == expected,
        store.moved id expected next moment) := by
  rw [transition]
  split
  · next h =>
    rw [h]
    rfl
  · next h =>
    rw [Bool.eq_false_iff.2 h]
    have hSame : store.pullRequests.map (moveRow id expected next moment) = store.pullRequests := by
      refine (List.map_congr_left fun row hRow => ?_).trans (List.map_id' _)
      rw [moveRow, if_neg]
      rintro ⟨hId, hStatus⟩
      exact h (List.any_eq_true.2 ⟨row, hRow, by simp [hId, hStatus]⟩)
    rw [moved, hSame]

theorem pullRequestRow?_moved (store : Store) (id other : PullRequestId) (expected next : Status)
    (moment : Instant) :
    (store.moved id expected next moment).pullRequestRow? other =
      (store.pullRequestRow? other).map (moveRow id expected next moment) := by
  rw [pullRequestRow?, moved, List.find?_map, pullRequestRow?]
  congr 2
  funext row
  rw [Function.comp_apply, moveRow_id]

theorem pullRequestRow?_moved_of_ne (store : Store) {id other : PullRequestId}
    (expected next : Status) (moment : Instant) (hOther : other ≠ id) :
    (store.moved id expected next moment).pullRequestRow? other = store.pullRequestRow? other := by
  rw [pullRequestRow?_moved]
  cases hRow : store.pullRequestRow? other with
  | none => rfl
  | some row =>
    rw [Option.map_some, moveRow, if_neg]
    rintro ⟨hId, -⟩
    exact hOther ((pullRequestRow?_some hRow).2.symm.trans hId)

theorem Consistent.moved {store : Store} (h : store.Consistent) (id : PullRequestId)
    (expected next : Status) (moment : Instant) :
    (store.moved id expected next moment).Consistent := by
  have hIds : (store.pullRequests.map (moveRow id expected next moment)).map PullRequestRow.id =
      store.pullRequests.map PullRequestRow.id :=
    map_key_rewritten fun row _ => moveRow_id id expected next moment row
  refine { h with pullRequestIds := ?_, authors := ?_, slots := fun row hRow => ⟨?_, ?_⟩ }
  · rw [Store.moved, hIds]
    exact h.pullRequestIds
  · intro row hRow
    obtain ⟨old, hOld, rfl⟩ := List.mem_map.1 hRow
    rw [moveRow_author]
    exact h.authors old hOld
  · rw [Store.moved, hIds]
    exact (h.slots row hRow).1
  · exact (h.slots row hRow).2

/-- **When a change of status applies.** -/
theorem Consistent.transition_applied_iff {store : Store} (h : store.Consistent)
    {id : PullRequestId} {expected next : Status} {moment : Instant} :
    (store.transition id expected next moment).1 = true ↔
      ∃ row, store.pullRequestRow? id = some row ∧ row.status = expected := by
  rw [transition_eq]
  simp only [List.any_eq_true, Bool.and_eq_true, beq_iff_eq]
  exact h.exists_mem_pullRequests_iff

/-- A merge that applied leaves the pull request merged at its moment. -/
theorem Consistent.pullRequestRow?_merged {store : Store} (h : store.Consistent)
    (id : PullRequestId) (moment : Instant)
    (hApplied : (store.transition id .opened .merged moment).1 = true) :
    ∃ row, (store.transition id .opened .merged moment).2.pullRequestRow? id = some row ∧
      row.status = .merged ∧ row.mergedAt = some moment := by
  obtain ⟨row, hRow, hOpened⟩ := h.transition_applied_iff.1 hApplied
  rw [transition_eq, pullRequestRow?_moved, hRow, Option.map_some, moveRow,
    if_pos ⟨(pullRequestRow?_some hRow).2, hOpened⟩]
  exact ⟨_, rfl, rfl, rfl⟩

/-- A pull request is merged after its transition, also if the transition came too late to apply. -/
theorem pullRequestRow?_transition {store : Store} {id : PullRequestId} {row : PullRequestRow}
    (hRow : store.pullRequestRow? id = some row) (moment : Instant) :
    ∃ left, (store.transition id .opened .merged moment).2.pullRequestRow? id = some left ∧
      left.status = .merged := by
  refine ⟨moveRow id .opened .merged moment row, ?_, ?_⟩
  · rw [transition_eq, pullRequestRow?_moved, hRow, Option.map_some]
  · rw [moveRow]
    split
    · rfl
    · next hOther =>
      cases hStatus : row.status with
      | opened => exact absurd ⟨(pullRequestRow?_some hRow).2, hStatus⟩ hOther
      | merged => rfl

/-! ### Handing over a slot -/

/-- The row of a slot after the slot of `old` went to `new`. -/
def handRow (id : PullRequestId) (old new : UserId) (row : SlotRow) : SlotRow :=
  if row.pullRequest = id ∧ row.reviewer = old then { row with reviewer := new } else row

@[simp] theorem handRow_pullRequest (id : PullRequestId) (old new : UserId) (row : SlotRow) :
    (handRow id old new row).pullRequest = row.pullRequest := by
  rw [handRow]
  split <;> rfl

@[simp] theorem handRow_slot (id : PullRequestId) (old new : UserId) (row : SlotRow) :
    (handRow id old new row).slot = row.slot := by
  rw [handRow]
  split <;> rfl

def handedOver (store : Store) (id : PullRequestId) (old new : UserId) : Store :=
  { store with slots := store.slots.map (handRow id old new) }

/-- A swap, in one formula: its three conditions, and the pull request as it is read afterwards. -/
theorem replaceReviewer_eq (store : Store) (id : PullRequestId) (old new : UserId) :
    store.replaceReviewer id old new =
      if store.isOpen id && store.holdsSlot id old && !store.holdsSlot id new then
        if store.hasUser new then
          ((store.handedOver id old new).pullRequest? id).map fun updated =>
            (updated, store.handedOver id old new)
        else .error Violation.missingReference.failure
      else .ok (none, store) := by
  have hRead : ∀ read : Except Failure (Option PullRequest),
      (read.map fun updated => (updated, store.handedOver id old new)) =
        read >>= fun updated => .ok (updated, store.handedOver id old new) := by
    intro read
    cases read <;> rfl
  rw [hRead]
  rfl

theorem slotsOf_handedOver (store : Store) (id other : PullRequestId) (old new : UserId) :
    (store.handedOver id old new).slotsOf other =
      (store.slotsOf other).map (handRow id old new) := by
  rw [slotsOf, handedOver, List.filter_map, slotsOf]
  congr 2
  funext row
  rw [Function.comp_apply, handRow_pullRequest]

theorem slotsOf_handedOver_of_ne (store : Store) {id other : PullRequestId} (old new : UserId)
    (hOther : other ≠ id) : (store.handedOver id old new).slotsOf other = store.slotsOf other := by
  rw [slotsOf_handedOver]
  refine (List.map_congr_left fun row hRow => ?_).trans (List.map_id' _)
  rw [handRow, if_neg]
  rintro ⟨hId, -⟩
  exact hOther ((pullRequest_of_mem_slotsOf hRow).symm.trans hId)

theorem reviewersOf_handedOver_of_ne (store : Store) {id other : PullRequestId} (old new : UserId)
    (hOther : other ≠ id) :
    (store.handedOver id old new).reviewersOf other = store.reviewersOf other :=
  reviewersOf_congr (slotsOf_handedOver_of_ne store old new hOther)

/-- What a list of reviewers becomes when `new` takes the place of `old`. -/
theorem map_reviewer_handedOver (store : Store) (id : PullRequestId) (old new : UserId) :
    ((store.handedOver id old new).slotsOf id).map SlotRow.reviewer =
      ((store.slotsOf id).map SlotRow.reviewer).map fun user => if user = old then new else user := by
  rw [slotsOf_handedOver, List.map_map, List.map_map]
  refine List.map_congr_left fun row hRow => ?_
  rw [Function.comp_apply, Function.comp_apply, handRow, pullRequest_of_mem_slotsOf hRow]
  by_cases hOld : row.reviewer = old <;> simp [hOld]

theorem isOpen_iff {store : Store} {id : PullRequestId} :
    store.isOpen id = true ↔ ∃ row ∈ store.pullRequests, row.id = id ∧ row.status = .opened := by
  simp [isOpen]

theorem Consistent.isOpen_iff {store : Store} (h : store.Consistent) {id : PullRequestId} :
    store.isOpen id = true ↔
      ∃ row, store.pullRequestRow? id = some row ∧ row.status = .opened := by
  rw [Store.isOpen_iff]
  exact h.exists_mem_pullRequests_iff

theorem Consistent.holdsSlot_iff {store : Store} (h : store.Consistent) {id : PullRequestId}
    {user : UserId} : store.holdsSlot id user = true ↔ user ∈ store.reviewersOf id := by
  rw [h.reviewersOf_eq id]
  simp [holdsSlot, slotsOf, and_assoc]

theorem Consistent.handedOver {store : Store} (h : store.Consistent) {id : PullRequestId}
    (old : UserId) {new : UserId} (hNew : new ∉ store.reviewersOf id) (hUser : store.hasUser new = true) :
    (store.handedOver id old new).Consistent := by
  refine { h with slots := ?_, slotNumbers := fun other => ?_, reviewers := fun other => ?_ }
  · intro row hRow
    obtain ⟨before, hBefore, rfl⟩ := List.mem_map.1 hRow
    refine ⟨?_, ?_⟩
    · rw [handRow_pullRequest]
      exact (h.slots before hBefore).1
    · rw [handRow]
      split
      · exact hUser
      · exact (h.slots before hBefore).2
  · rw [slotsOf_handedOver, map_key_rewritten fun row _ => handRow_slot id old new row,
      List.length_map]
    exact h.slotNumbers other
  · by_cases hOther : other = id
    · subst hOther
      rw [h.reviewersOf_eq] at hNew
      rw [map_reviewer_handedOver]
      refine (h.reviewers other).map_on fun a hA b hB hSame => ?_
      by_cases hAOld : a = old <;> by_cases hBOld : b = old
      · rw [hAOld, hBOld]
      · rw [if_pos hAOld, if_neg hBOld] at hSame
        exact absurd (hSame ▸ hB) hNew
      · rw [if_neg hAOld, if_pos hBOld] at hSame
        exact absurd (hSame ▸ hA) hNew
      · rwa [if_neg hAOld, if_neg hBOld] at hSame
    · rw [slotsOf_handedOver_of_ne store old new hOther]
      exact h.reviewers other

theorem Consistent.reviewersOf_handedOver {store : Store} (h : store.Consistent)
    {id : PullRequestId} (old : UserId) {new : UserId} (hNew : new ∉ store.reviewersOf id)
    (hUser : store.hasUser new = true) :
    (store.handedOver id old new).reviewersOf id =
      (store.reviewersOf id).map fun user => if user = old then new else user := by
  rw [(h.handedOver old hNew hUser).reviewersOf_eq, map_reviewer_handedOver, ← h.reviewersOf_eq]

/-- **What a swap may do.**  Either nothing happens and nothing is given, or the new reviewer is no
user, or the pull request is open, `old` holds a slot, `new` holds none, and the slot goes from one
to the other; what is given then is the pull request as it is after the swap. -/
theorem Consistent.replaceReviewer_cases {store : Store} (h : store.Consistent)
    (id : PullRequestId) (old new : UserId) :
    store.replaceReviewer id old new = .ok (none, store) ∨
      store.replaceReviewer id old new = .error Violation.missingReference.failure ∨
      ∃ row pr, store.pullRequestRow? id = some row ∧ row.status = .opened ∧
        old ∈ store.reviewersOf id ∧ new ∉ store.reviewersOf id ∧ store.hasUser new = true ∧
        (store.handedOver id old new).pullRequest? id = .ok (some pr) ∧
        store.replaceReviewer id old new = .ok (some pr, store.handedOver id old new) := by
  by_cases hGuard : (store.isOpen id && store.holdsSlot id old && !store.holdsSlot id new) = true
  · by_cases hUser : store.hasUser new = true
    · right; right
      have hParts := hGuard
      rw [Bool.and_eq_true, Bool.and_eq_true, Bool.not_eq_true', h.isOpen_iff, h.holdsSlot_iff,
        ← Bool.not_eq_true, h.holdsSlot_iff] at hParts
      obtain ⟨⟨⟨row, hRow, hStatus⟩, hOld⟩, hNew⟩ := hParts
      have hAfter := (h.handedOver old hNew hUser).pullRequest?_eq id
      rw [show (store.handedOver id old new).pullRequestRow? id = some row from hRow,
        Option.map_some] at hAfter
      refine ⟨row, _, hRow, hStatus, hOld, hNew, hUser, hAfter, ?_⟩
      rw [replaceReviewer_eq, if_pos hGuard, if_pos hUser, hAfter]
      rfl
    · right; left
      rw [replaceReviewer_eq, if_pos hGuard, if_neg hUser]
  · left
    rw [replaceReviewer_eq, if_neg hGuard]

/-! ### All calls -/

/-- **All that a call can do** to a consistent store: nothing, or one of the five writes, under the
conditions of the write. -/
inductive Effect (store : Store) : Call → Store → Prop where
  | nothing {call : Call} : Effect store call store
  | upsertTeam {team : Team} {written : Store} (hWritten : store.upsertTeam team = .ok written) :
    Effect store (.upsertTeam team) written
  | setActive {id : UserId} {active : Bool} :
    Effect store (.setActive id active) (store.setActive id active).2
  | insertPullRequest {pr : PullRequest} {written : Store}
    (hWritten : store.insertPullRequest pr = .ok written) :
    Effect store (.insertPullRequest pr) written
  | transition {id : PullRequestId} {expected next : Status} {moment : Instant} :
    Effect store (.transition id expected next moment) (store.moved id expected next moment)
  | replaceReviewer {id : PullRequestId} {old new : UserId} {row : PullRequestRow}
    (hRow : store.pullRequestRow? id = some row) (hOpened : row.status = .opened)
    (hNew : new ∉ store.reviewersOf id) (hUser : store.hasUser new = true) :
    Effect store (.replaceReviewer id old new) (store.handedOver id old new)

theorem Consistent.effect_perform {store : Store} (h : store.Consistent) (call : Call) :
    store.Effect call (store.perform call).2 := by
  by_cases hWrite : call.isWrite = true
  · cases call with
    | upsertTeam team =>
      rw [Store.perform]
      cases hWritten : store.upsertTeam team with
      | ok written => exact .upsertTeam hWritten
      | error cause => exact .nothing
    | setActive id active => exact .setActive
    | insertPullRequest pr =>
      rw [Store.perform]
      cases hWritten : store.insertPullRequest pr with
      | ok written => exact .insertPullRequest hWritten
      | error cause => exact .nothing
    | transition id expected next moment =>
      rw [Store.perform, transition_eq]
      exact .transition
    | replaceReviewer id old new =>
      rw [Store.perform]
      rcases h.replaceReviewer_cases id old new with hNone | hError | hSwap
      · rw [hNone]
        exact .nothing
      · rw [hError]
        exact .nothing
      · obtain ⟨row, pr, hRow, hOpened, -, hNew, hUser, -, hSwapped⟩ := hSwap
        rw [hSwapped]
        exact .replaceReviewer hRow hOpened hNew hUser
    | _ => simp [Call.isWrite] at hWrite
  · rw [perform_of_not_isWrite store (Bool.eq_false_iff.2 hWrite)]
    exact .nothing

theorem Effect.consistent {store written : Store} {call : Call} (h : store.Effect call written)
    (hStore : store.Consistent) : written.Consistent := by
  cases h with
  | nothing => exact hStore
  | upsertTeam hWritten => exact hStore.upsertTeam hWritten
  | setActive => exact hStore.setActive _ _
  | insertPullRequest hWritten => exact hStore.insertPullRequest hWritten
  | transition => exact hStore.moved _ _ _ _
  | replaceReviewer _ _ hNew hUser => exact hStore.handedOver _ hNew hUser

/-- **No call of the store breaks the rules of the tables.** -/
theorem Consistent.perform {store : Store} (h : store.Consistent) (call : Call) :
    (store.perform call).2.Consistent :=
  (h.effect_perform call).consistent h

end ReviewAssignment.Store
