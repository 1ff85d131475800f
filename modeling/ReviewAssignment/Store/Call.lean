import ReviewAssignment.Store.Teams
import ReviewAssignment.Store.Reports

/-!
# Calls of the store

Everything that the store can be asked or told, as values.  A call is carried out as a whole: nothing
of another client happens in the middle of it.  A write that fails leaves the store as it was.  The
row of a pull request and its slots are two calls, and so are the row of a team and its members.

A call asks or tells as much as it is handed.  `Call.teamNames` looks up all its users by one statement
with a parameter for each; the store is assumed to take any number of parameters.
-/

namespace ReviewAssignment

open Time (Instant)

namespace Store

inductive Call where
  | user (id : UserId)
  | teamNamed (name : TeamName)
  | teamOf (user : UserId)
  | membersOf (team : TeamNumber)
  /-- Assumed to be answered for any number of users. -/
  | teamNames (users : List UserId)
  | pullRequestRow (id : PullRequestId)
  | reviewersOf (id : PullRequestId)
  | reviewsOf (reviewer : UserId)
  | reviewerLoads
  | reviewerCounts
  | upsertTeam (team : Team)
  | setActive (id : UserId) (active : Bool)
  | insertPullRequest (pr : PullRequest)
  | transition (id : PullRequestId) (expected next : Status) (moment : Instant)
  | replaceReviewer (id : PullRequestId) (old new : UserId)
deriving DecidableEq, Repr

namespace Call

abbrev Answer : Call → Type
  | .user _ => Option User
  | .teamNamed _ => Option TeamRow
  | .teamOf _ => Option TeamRow
  | .membersOf _ => List User
  | .teamNames _ => List (UserId × TeamName)
  | .pullRequestRow _ => Option PullRequestRow
  | .reviewersOf _ => List UserId
  | .reviewsOf _ => List PullRequest.Summary
  | .reviewerLoads => List ReviewerLoad
  | .reviewerCounts => List ReviewerCount
  | .upsertTeam _ => Except Failure Unit
  | .setActive _ _ => Bool
  | .insertPullRequest _ => Except Failure Unit
  | .transition _ _ _ _ => Bool
  | .replaceReviewer _ _ _ => Except Failure (Option PullRequest)

/-- Whether a call is a write, which waits while another client holds the write lock. -/
def isWrite : Call → Bool
  | .upsertTeam _ | .setActive _ _ | .insertPullRequest _ | .transition _ _ _ _
  | .replaceReviewer _ _ _ => true
  | _ => false

end Call

/-- The answer and the store after a write that gives a new store or fails. -/
def commit (store : Store) : Except Failure Store → Except Failure Unit × Store
  | .ok written => (.ok (), written)
  | .error cause => (.error cause, store)

def perform (store : Store) : (call : Call) → call.Answer × Store
  | .user id => (store.user? id, store)
  | .teamNamed name => (store.teamNamed? name, store)
  | .teamOf user => (store.teamOf? user, store)
  | .membersOf team => (store.membersOf team, store)
  | .teamNames users => (store.teamNames users, store)
  | .pullRequestRow id => (store.pullRequestRow? id, store)
  | .reviewersOf id => (store.reviewersOf id, store)
  | .reviewsOf reviewer => (store.reviewsOf reviewer, store)
  | .reviewerLoads => (store.reviewerLoads, store)
  | .reviewerCounts => (store.reviewerCounts, store)
  | .upsertTeam team => store.commit (store.upsertTeam team)
  | .setActive id active => store.setActive id active
  | .insertPullRequest pr => store.commit (store.insertPullRequest pr)
  | .transition id expected next moment => store.transition id expected next moment
  | .replaceReviewer id old new =>
    match store.replaceReviewer id old new with
    | .ok (updated, written) => (.ok updated, written)
    | .error cause => (.error cause, store)

/-- Reading changes nothing. -/
theorem perform_of_not_isWrite (store : Store) {call : Call} (h : call.isWrite = false) :
    (store.perform call).2 = store := by
  cases call <;> first | rfl | simp [Call.isWrite] at h

end Store

end ReviewAssignment
