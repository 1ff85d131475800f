import ReviewAssignment.Proofs.Alone.Readings
import ReviewAssignment.Proofs.Store.SameRows
import ReviewAssignment.Proofs.StoredMoments

/-!
# The list of a reviewer

The list of a reviewer comes from the slots: each slot of the user finds the row of its pull request, and
the rows are sorted by the text that their moment is stored as.  So it takes two arguments to see that the
list shows every pull request of the user once, newest first: nobody holds two slots of one pull request,
and stored texts are ordered as moments are.
-/

namespace ReviewAssignment

open Time (Instant)

namespace Store

variable {store : Store} {user : UserId} {row : PullRequestRow}

/-- The rows of the pull requests in which a user holds a slot, in the order of the list. -/
def reviewRows (store : Store) (user : UserId) : List PullRequestRow :=
  ((store.slots.filter fun slot => slot.reviewer == user).filterMap fun slot =>
    store.pullRequestRow? slot.pullRequest).mergeSort PullRequestRow.listedBefore

theorem reviewsOf_eq (store : Store) (user : UserId) :
    store.reviewsOf user = (store.reviewRows user).map PullRequestRow.summary :=
  rfl

/-- Which rows are listed: those of the pull requests that the user reviews. -/
theorem Consistent.mem_reviewRows_iff (h : store.Consistent) :
    row ∈ store.reviewRows user ↔
      store.pullRequestRow? row.id = some row ∧ user ∈ store.reviewersOf row.id := by
  rw [reviewRows, List.mem_mergeSort, List.mem_filterMap, h.reviewersOf_eq]
  constructor
  · rintro ⟨slot, hSlot, hRow⟩
    obtain ⟨hSlot, hUser⟩ := List.mem_filter.1 hSlot
    have hId : row.id = slot.pullRequest := (pullRequestRow?_some hRow).2
    refine ⟨hId ▸ hRow, List.mem_map.2 ⟨slot, List.mem_filter.2 ⟨hSlot, ?_⟩, beq_iff_eq.1 hUser⟩⟩
    exact beq_iff_eq.2 hId.symm
  · rintro ⟨hRow, hUser⟩
    obtain ⟨slot, hSlot, rfl⟩ := List.mem_map.1 hUser
    obtain ⟨hSlot, hId⟩ := List.mem_filter.1 hSlot
    refine ⟨slot, List.mem_filter.2 ⟨hSlot, beq_self_eq_true _⟩, ?_⟩
    rw [beq_iff_eq.1 hId]
    exact hRow

theorem Consistent.nodup_reviewRows (h : store.Consistent) (user : UserId) :
    ((store.reviewRows user).map PullRequestRow.id).Nodup := by
  have hPerm := h.map_id_reviewsOf user
  rw [reviewsOf_eq, List.map_map] at hPerm
  exact hPerm.nodup_iff.2 (h.nodup_reviewing user)

end Store

/-- Strictly earlier in the list of a reviewer: created later, or at the same moment with the smaller
identifier, as it is written in bytes. -/
def PullRequest.Precedes (a b : PullRequest) : Prop :=
  b.createdAt < a.createdAt ∨
    a.createdAt = b.createdAt ∧ Text.Utf8.encode a.id < Text.Utf8.encode b.id

/-- Rows that are sorted by stored texts are sorted by moments. -/
theorem PullRequest.precedes_of_key_le {a b : PullRequest}
    (hA : a.createdAt.WellFormed ∧ a.createdAt.HasFourDigitYear)
    (hB : b.createdAt.WellFormed ∧ b.createdAt.HasFourDigitYear) (h : a.row.key ≤ b.row.key)
    (hOther : a.id ≠ b.id) : a.Precedes b := by
  rcases Prod.Lex.toLex_le_toLex.1 h with hLater | ⟨hSame, hLe⟩
  · exact .inl ((Instant.stored_lt_stored_iff hB.1 hA.1 hB.2 hA.2).1 hLater)
  · refine .inr ⟨(Instant.stored_inj hA.1 hB.1 hA.2 hB.2).1 hSame, ?_⟩
    exact Text.Utf8.encode_lt_encode_iff.2 (lt_of_le_of_ne hLe hOther)

/-- **The list of a reviewer is complete and newest first.**  In every store that there can be, whose pull
requests were created at moments that there are (`Time.Instant.WellFormed`), in the years 0 to 9999, the
list of a user is answered, and it is the list of some pull requests:

* these are the pull requests, open or merged, that show the user as a reviewer when they are read, and no
  others, each of them once, and an entry shows the identifier, the name, the author and the status that are
  read;
* and of any two of them the one that comes first was created at a later moment, or at the same moment with
  the smaller identifier, with however many digits of a second the two moments are stored. -/
theorem Store.reviews_newest_first {store : Store} (hReachable : store.Reachable)
    (hMoments : ∀ id pr, store.pullRequest? id = .ok (some pr) → pr.createdAt.WellFormed)
    (hYears : ∀ id pr, store.pullRequest? id = .ok (some pr) → pr.createdAt.HasFourDigitYear)
    {user : UserId} (hUser : store.hasUser user = true) (hNamed : Text.isBlank user = false)
    (settings : Settings) (outside : Program.Surroundings) (draws readings : Nat) :
    ∃ listed : List PullRequest,
      (((Request.reviews user).program settings).run outside ⟨store, draws, readings⟩).1 =
        .ok (.reviews (listed.map fun pr => ⟨pr.id, pr.name, pr.author, pr.status⟩)) ∧
      (∀ pr, pr ∈ listed ↔
        store.pullRequest? pr.id = .ok (some pr) ∧ user ∈ pr.reviewers.reviewers) ∧
      (listed.map PullRequest.id).Nodup ∧
      listed.Pairwise PullRequest.Precedes := by
  have h := hReachable.consistent
  obtain ⟨record, hRecord⟩ := hasUser_iff_exists.1 hUser
  let read := fun row : PullRequestRow =>
    row.withSlots ⟨store.reviewersOf row.id, h.nodup_reviewersOf row.id⟩
  have hRead : ∀ row ∈ store.reviewRows user, store.pullRequest? row.id = .ok (some (read row)) := by
    intro row hRow
    rw [h.pullRequest?_eq, (h.mem_reviewRows_iff.1 hRow).1]
    rfl
  refine ⟨(store.reviewRows user).map read, ?_, fun pr => ?_, ?_, ?_⟩
  · rw [Request.run_reviews, hRecord, Option.map_some, Operation.lookedUp_some hNamed, reviewsOf_eq,
      List.map_map]
    rfl
  · rw [List.mem_map]
    constructor
    · rintro ⟨row, hRow, rfl⟩
      exact ⟨hRead row hRow, (h.mem_reviewRows_iff.1 hRow).2⟩
    · rintro ⟨hStored, hReviewer⟩
      obtain ⟨hRow, hReviewers⟩ := h.pullRequest?_eq_some_iff.1 hStored
      rw [hReviewers] at hReviewer
      have hMem : pr.row ∈ store.reviewRows user := h.mem_reviewRows_iff.2 ⟨hRow, hReviewer⟩
      refine ⟨pr.row, hMem, ?_⟩
      have hSame := (hRead pr.row hMem).symm.trans hStored
      exact Option.some.inj (Except.ok.inj hSame)
  · rw [List.map_map]
    exact h.nodup_reviewRows user
  · have hSorted := pairwise_mergeSort_key PullRequestRow.listedBefore_iff
      ((store.slots.filter fun slot => slot.reviewer == user).filterMap fun slot =>
        store.pullRequestRow? slot.pullRequest)
    have hDistinct := List.pairwise_map.1 (h.nodup_reviewRows user)
    rw [List.pairwise_map]
    refine (hSorted.and hDistinct).imp_of_mem fun hA hB hBoth => ?_
    have hMoment : ∀ row ∈ store.reviewRows user,
        (read row).createdAt.WellFormed ∧ (read row).createdAt.HasFourDigitYear := fun row hRow =>
      ⟨hMoments row.id _ (hRead row hRow), hYears row.id _ (hRead row hRow)⟩
    exact PullRequest.precedes_of_key_le (hMoment _ hA) (hMoment _ hB) hBoth.1 hBoth.2

/-- Three pull requests of one second, which are stored with no, three and nine digits of the fraction. -/
theorem Store.reviews_newest_first_in_a_second :
    let team : Team := ⟨"t", [⟨"a", "Ann", true⟩, ⟨"b", "Bob", true⟩]⟩
    let pr := fun id nano => (⟨id, "", "a", .opened, ⟨["b"], by decide⟩, ⟨0, nano⟩, none⟩ : PullRequest)
    let first := pr "p" 0
    let second := pr "q" 500000000
    let third := pr "r" 500000001
    let store := ((((Store.empty.perform (.upsertTeam team)).2.perform (.insertPullRequest second)).2
      |>.perform (.insertPullRequest third)).2.perform (.insertPullRequest first)).2
    ∃ listed : List PullRequest,
      (((Request.reviews "b").program default).run ⟨fun _ => 0, fun _ => default⟩ ⟨store, 0, 0⟩).1 =
        .ok (.reviews (listed.map fun pr => ⟨pr.id, pr.name, pr.author, pr.status⟩)) ∧
      (first ∈ listed ∧ second ∈ listed ∧ third ∈ listed) ∧ listed.Pairwise PullRequest.Precedes := by
  intro team pr first second third store
  have hReachable : store.Reachable := .call _ (.call _ (.call _ (.call _ .empty)))
  have hRows : ∀ row ∈ store.pullRequests,
      row.createdAt.WellFormed ∧ row.createdAt.HasFourDigitYear := by decide +kernel
  have hMoments : ∀ id pr, store.pullRequest? id = .ok (some pr) →
      pr.createdAt.WellFormed ∧ pr.createdAt.HasFourDigitYear := fun id pr hStored =>
    hRows pr.row (pullRequestRow?_some (hReachable.consistent.pullRequest?_eq_some_iff.1 hStored).1).1
  obtain ⟨listed, hAnswer, hListed, -, hOrder⟩ := reviews_newest_first hReachable
    (fun id pr hStored => (hMoments id pr hStored).1) (fun id pr hStored => (hMoments id pr hStored).2)
    (by decide +kernel : store.hasUser "b" = true) (by decide) default
    ⟨fun _ => 0, fun _ => default⟩ 0 0
  refine ⟨listed, hAnswer, ⟨?_, ?_, ?_⟩, hOrder⟩
  all_goals exact (hListed _).2 ⟨by decide +kernel, List.mem_singleton_self "b"⟩

end ReviewAssignment
