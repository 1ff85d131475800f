import ReviewAssignment.Store.PullRequests

/-!
# Lists and reports

What is computed from the rows on every reading: the pull requests of a reviewer, newest first; the
load of each reviewer, busiest first; the number of reviewers of each pull request.  Equal entries
are ordered by identifier.  Moments are compared by their stored text.
-/

namespace ReviewAssignment

/-- Newest first, and of two pull requests created at one moment the smaller identifier first. -/
def PullRequestRow.listedBefore (a b : PullRequestRow) : Bool :=
  let first := a.createdAt.stored
  let second := b.createdAt.stored
  decide (second < first) || (first == second && decide (a.id ≤ b.id))

/-- Busiest first, and of two reviewers with the same load the smaller identifier first. -/
def ReviewerLoad.listedBefore (a b : ReviewerLoad) : Bool :=
  decide (b.assignments < a.assignments) ||
    (a.assignments == b.assignments && decide (a.reviewer ≤ b.reviewer))

namespace Store

/-- The pull requests, open or merged, in which a user holds a slot. -/
def reviewsOf (store : Store) (reviewer : UserId) : List PullRequest.Summary :=
  (((store.slots.filter fun row => row.reviewer == reviewer).filterMap fun row =>
    store.pullRequestRow? row.pullRequest).mergeSort PullRequestRow.listedBefore).map
      PullRequestRow.summary

def load (store : Store) (reviewer : UserId) : Nat :=
  (store.slots.filter fun row => row.reviewer == reviewer).length

def reviewerLoads (store : Store) : List ReviewerLoad :=
  ((store.slots.map SlotRow.reviewer).eraseDups.map fun reviewer =>
    ⟨reviewer, store.load reviewer⟩).mergeSort ReviewerLoad.listedBefore

def reviewerCounts (store : Store) : List ReviewerCount :=
  (store.pullRequests.mergeSort fun a b => a.id ≤ b.id).map fun row =>
    ⟨row.id, (store.slots.filter fun slot => slot.pullRequest == row.id).length⟩

end Store

end ReviewAssignment
