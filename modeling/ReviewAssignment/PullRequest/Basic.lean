import ReviewAssignment.PullRequest.Slots
import ReviewAssignment.Time.Instant

/-!
# Pull requests

A pull request is open until it is merged, and merged for good.  It carries its author, its reviewer
slots, the moment it was created and, once it is merged, the moment of the merge.
-/

namespace ReviewAssignment

open Time (Instant)

inductive Status where
  | opened
  | merged
deriving DecidableEq, Repr, Inhabited

def Status.label : Status → String
  | .opened => "OPEN"
  | .merged => "MERGED"

structure PullRequest where
  id : PullRequestId
  name : String
  author : UserId
  status : Status
  reviewers : Slots
  createdAt : Instant
  mergedAt : Option Instant
deriving DecidableEq, Repr, Inhabited

def PullRequest.isOpen (pr : PullRequest) : Bool :=
  pr.status == .opened

def PullRequest.isMerged (pr : PullRequest) : Bool :=
  pr.status == .merged

/-- The entry of a pull request in the list of a reviewer. -/
structure PullRequest.Summary where
  id : PullRequestId
  name : String
  author : UserId
  status : Status
deriving DecidableEq, Repr, Inhabited

structure ReviewerLoad where
  reviewer : UserId
  assignments : Nat
deriving DecidableEq, Repr, Inhabited

structure ReviewerCount where
  id : PullRequestId
  reviewers : Nat
deriving DecidableEq, Repr, Inhabited

structure Reassignment where
  pullRequest : PullRequest
  replacedBy : User
deriving DecidableEq, Repr, Inhabited

end ReviewAssignment
