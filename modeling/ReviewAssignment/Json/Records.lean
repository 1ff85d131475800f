import ReviewAssignment.Json.Reader
import ReviewAssignment.Operation.Request

/-!
# The records of the service as JSON

How users, teams, pull requests, reports and failures are written, with their fields in a fixed order,
and how users, teams and the bodies of requests are read.  A profile is written as its user with the
team's name added, so it can be read back as a user.
-/

namespace ReviewAssignment

/-! ### Writing -/

def User.fields (user : User) : List (String × Json) :=
  [("user_id", .text user.id), ("username", .text user.name), ("is_active", .flag user.active)]

def User.toJson (user : User) : Json :=
  .object user.fields

def Profile.toJson (profile : Profile) : Json :=
  .object (profile.user.fields ++ [("team_name", .text profile.teamName)])

def Team.toJson (team : Team) : Json :=
  .object [("team_name", .text team.name), ("members", .array (team.members.map User.toJson))]

def PullRequest.toJson (pr : PullRequest) : Json :=
  .object
    [("pull_request_id", .text pr.id),
     ("pull_request_name", .text pr.name),
     ("author_id", .text pr.author),
     ("status", .text pr.status.label),
     ("assigned_reviewers", .array (pr.reviewers.reviewers.map .text)),
     ("createdAt", .text pr.createdAt.shown),
     ("mergedAt", .textOrNull (pr.mergedAt.map Time.Instant.shown))]

def PullRequest.Summary.toJson (entry : PullRequest.Summary) : Json :=
  .object
    [("pull_request_id", .text entry.id),
     ("pull_request_name", .text entry.name),
     ("author_id", .text entry.author),
     ("status", .text entry.status.label)]

def ReviewerLoad.toJson (load : ReviewerLoad) : Json :=
  .object [("reviewer_id", .text load.reviewer), ("assignments", .number load.assignments)]

def ReviewerCount.toJson (count : ReviewerCount) : Json :=
  .object [("pull_request_id", .text count.id), ("reviewers", .number count.reviewers)]

def Reassignment.toJson (outcome : Reassignment) : Json :=
  .object
    [("pull_request", outcome.pullRequest.toJson), ("replaced_by", outcome.replacedBy.toJson)]

def Reply.toJson : Reply → Json
  | .team answered => answered.toJson
  | .profile answered => answered.toJson
  | .reviews entries => .array (entries.map PullRequest.Summary.toJson)
  | .pullRequest pr => pr.toJson
  | .reassignment outcome => outcome.toJson
  | .loads entries => .array (entries.map ReviewerLoad.toJson)
  | .counts entries => .array (entries.map ReviewerCount.toJson)

namespace Failure

/-- The kind of a failure and its details, without what is not given. -/
def detail : Failure → String × List (String × Json)
  | .validation message field =>
    ("Validation", ("message", .text message) :: field.toList.map fun field => ("field", .text field))
  | .notFound resource id =>
    ("NotFound", ("resource", .text resource) :: id.toList.map fun id => ("id", .text id))
  | .alreadyExists id => ("AlreadyExists", [("kind", .text "pull_request"), ("id", .text id)])
  | .alreadyMerged id => ("AlreadyMerged", [("pull_request_id", .text id)])
  | .reviewerNotAssigned id reviewer =>
    ("ReviewerNotAssigned", [("pull_request_id", .text id), ("reviewer_id", .text reviewer)])
  | .noReviewerCandidates id => ("NoReviewerCandidates", [("pull_request_id", .text id)])
  | .conflict message => ("Conflict", [("message", .text message)])
  | .deadlineExceeded millis => ("DeadlineExceeded", [("millis", .number millis)])
  | .database message => ("Database", [("message", .text message)])
  | .internal message => ("Internal", [("message", .text message)])

def toJson (cause : Failure) : Json :=
  .object [("type", .text cause.detail.1), ("details", .object cause.detail.2)]

end Failure

/-! ### Reading -/

open Json.Reader (Field)

def User.ofJson? : Json → Option User
  | .object [("user_id", .text id), ("username", .text name), ("is_active", .flag active)] =>
    some ⟨id, name, active⟩
  | _ => none

def Team.ofJson? : Json → Option Team
  | .object [("team_name", .text name), ("members", .array members)] => do
    return ⟨name, ← members.mapM User.ofJson?⟩
  | _ => none

namespace Json.Reader

def textField (name : String) : Field :=
  ⟨name, text⟩

def userRecord : Reader Json :=
  record "User" [textField "user_id", textField "username", ⟨"is_active", flag⟩]

def user : Reader User :=
  userRecord.into User.ofJson?

def team : Reader Team :=
  (record "Team" [textField "team_name", ⟨"members", sequence userRecord⟩]).into Team.ofJson?

def status : Reader Status := fun tokens => do
  let (label, rest) ← word [Status.opened.label, Status.merged.label] tokens
  return (if label = Status.opened.label then .opened else .merged, rest)

def upsertTeamBody : Reader Request := fun tokens => do
  let (team, rest) ← team tokens
  return (.upsertTeam team, rest)

def setActiveBody : Reader Request :=
  (record "SetUserActiveRequest" [textField "user_id", ⟨"is_active", flag⟩]).into fun
    | .object [(_, .text user), (_, .flag active)] => some (.setActive user active)
    | _ => none

def createBody : Reader Request :=
  (record "CreatePullRequestRequest"
    [textField "pull_request_id", textField "pull_request_name", textField "author_id"]).into fun
    | .object [(_, .text id), (_, .text name), (_, .text author)] => some (.create id name author)
    | _ => none

def mergeBody : Reader Request :=
  (record "MergePullRequestRequest" [textField "pull_request_id"]).into fun
    | .object [(_, .text id)] => some (.merge id)
    | _ => none

def reassignBody : Reader Request :=
  (record "ReassignReviewerRequest" [textField "pull_request_id", textField "old_user_id"]).into fun
    | .object [(_, .text id), (_, .text old)] => some (.reassign id old)
    | _ => none

end Json.Reader

end ReviewAssignment
