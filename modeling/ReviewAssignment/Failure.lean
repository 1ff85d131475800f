import ReviewAssignment.Roster

/-!
# Failures

Everything an operation can answer instead of a result.  A failure carries its cause; its stable
code and its message are functions of it.  A failure is either the caller's (a *rejection*) or a
fault of the service itself: a broken store, an internal contradiction or an expired deadline.
-/

namespace ReviewAssignment

abbrev PullRequestId := String

/-- Why an operation did not succeed. -/
inductive Failure where
  /-- The input is malformed; the field is named when a single one is to blame. -/
  | validation (message : String) (field : Option String)
  | notFound (resource : String) (id : Option String)
  | alreadyExists (id : PullRequestId)
  | alreadyMerged (id : PullRequestId)
  | reviewerNotAssigned (id : PullRequestId) (reviewer : UserId)
  | noReviewerCandidates (id : PullRequestId)
  | conflict (message : String)
  /-- The operation did not finish in time; it has written nothing. -/
  | deadlineExceeded (millis : Nat)
  | database (message : String)
  | internal (message : String)
deriving DecidableEq, Repr, Inhabited

namespace Failure

/-! ### The failures of the service's own rules -/

def blank (field : String) : Failure :=
  .validation (field ++ " must not be empty") (some field)

def repeatedMember (id : UserId) : Failure :=
  .validation ("duplicate member " ++ id) (some "members")

/-- Members of a team already belong to other teams; each is listed with that team's name. -/
def claimedElsewhere (claims : List (UserId × TeamName)) : Failure :=
  .validation
    ("; ".intercalate (claims.map fun claim =>
      "user " ++ claim.1 ++ " already belongs to team " ++ claim.2))
    (some "members")

def attachedElsewhere (id : UserId) : Failure :=
  .validation ("user " ++ id ++ " already belongs to another team") (some "members")

def assignedTwice (id : UserId) : Failure :=
  .validation ("reviewer " ++ id ++ " assigned twice") (some "assigned_reviewers")

def alreadyReviewing (id : PullRequestId) (reviewer : UserId) : Failure :=
  .conflict (reviewer ++ " is already reviewing " ++ id)

/-- The reviewers changed between the reading of a pull request and the swap. -/
def reviewersChanged (id : PullRequestId) : Failure :=
  .conflict ("reviewers of pull request " ++ id ++ " changed concurrently")

def invalidBody (reason : String) : Failure :=
  .validation ("invalid json: " ++ reason) none

/-! ### Code and message -/

/-- The stable code by which callers tell failures apart. -/
def code : Failure → String
  | .validation .. => "VALIDATION_ERROR"
  | .notFound .. => "NOT_FOUND"
  | .alreadyExists _ => "PR_EXISTS"
  | .alreadyMerged _ => "PR_MERGED"
  | .reviewerNotAssigned .. => "NOT_ASSIGNED"
  | .noReviewerCandidates _ => "NO_CANDIDATE"
  | .conflict _ => "CONFLICT"
  | .deadlineExceeded _ => "DEADLINE_EXCEEDED"
  | .database _ => "INTERNAL_ERROR"
  | .internal _ => "INTERNAL_ERROR"

/-- The message for people.  A missing resource is named by its kind alone, without the
identifier. -/
def message : Failure → String
  | .validation message _ => "Validation error: " ++ message
  | .notFound resource _ => "Not found: " ++ resource
  | .alreadyExists id => "pull request already exists: " ++ id
  | .alreadyMerged id => "Pull request already merged: " ++ id
  | .reviewerNotAssigned id reviewer =>
    "Reviewer " ++ reviewer ++ " is not assigned to pull request " ++ id
  | .noReviewerCandidates id => "No reviewer candidates available for pull request " ++ id
  | .conflict message => "Concurrent update: " ++ message
  | .deadlineExceeded millis => "Deadline exceeded after " ++ toString millis ++ "ms"
  | .database message => "Database error: " ++ message
  | .internal message => "Internal error: " ++ message

/-- Whether the caller is to blame, rather than the service. -/
def isRejection : Failure → Bool
  | .database _ | .internal _ | .deadlineExceeded _ => false
  | _ => true

end Failure

end ReviewAssignment
