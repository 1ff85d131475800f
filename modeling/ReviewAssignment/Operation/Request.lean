import ReviewAssignment.Operation.Lifecycle
import ReviewAssignment.Operation.TeamUpsert

/-!
# Requests

Everything the service can be asked, with the answers, as values.  `Request.program` is the program
of a request as the service runs it: a failure is noted in the log under the name of the operation.
Against a held write lock the same program waits at its first write until the deadline of the
operation expires.
-/

namespace ReviewAssignment

structure Settings where
  maxReviewers : Nat
  /-- The deadline of every operation, in milliseconds. -/
  deadline : Nat
deriving DecidableEq, Repr

/-- The deadline of every operation unless the settings say otherwise. -/
def defaultDeadline : Nat := 5000

instance : Inhabited Settings := ⟨⟨defaultMaxReviewers, defaultDeadline⟩⟩

inductive Request where
  | upsertTeam (team : Team)
  | teamByName (name : TeamName)
  | teamByMember (user : UserId)
  | setActive (user : UserId) (active : Bool)
  | profile (user : UserId)
  | reviews (user : UserId)
  | create (id : PullRequestId) (name : String) (author : UserId)
  | merge (id : PullRequestId)
  | reassign (id : PullRequestId) (old : UserId)
  | reviewerLoads
  | reviewerCounts
deriving DecidableEq, Repr

/-- What the service answers to a request that succeeds. -/
inductive Reply where
  | team (team : Team)
  | profile (profile : Profile)
  | reviews (entries : List PullRequest.Summary)
  | pullRequest (pr : PullRequest)
  | reassignment (outcome : Reassignment)
  | loads (entries : List ReviewerLoad)
  | counts (entries : List ReviewerCount)
deriving DecidableEq, Repr

namespace Request

def operation : Request → String
  | .upsertTeam _ => "upsert_team"
  | .teamByName _ => "get_team_by_name"
  | .teamByMember _ => "get_team_by_member"
  | .setActive _ _ => "set_user_active"
  | .profile _ => "get_user"
  | .reviews _ => "list_reviews_for_user"
  | .create _ _ _ => "create_pull_request"
  | .merge _ => "merge_pull_request"
  | .reassign _ _ => "reassign_reviewer"
  | .reviewerLoads => "reviewer_assignment_stats"
  | .reviewerCounts => "pull_request_reviewer_stats"

def steps (settings : Settings) : Request → Program Reply
  | .upsertTeam team => return .team (← Operation.upsertTeam team)
  | .teamByName name => return .team (← Operation.teamByName name)
  | .teamByMember user => return .team (← Operation.teamByMember user)
  | .setActive user active => return .profile (← Operation.setActive user active)
  | .profile user => return .profile (← Operation.profile user)
  | .reviews user => return .reviews (← Operation.reviews user)
  | .create id name author =>
    return .pullRequest (← Operation.create settings.maxReviewers id name author)
  | .merge id => return .pullRequest (← Operation.merge id)
  | .reassign id old => return .reassignment (← Operation.reassign id old)
  | .reviewerLoads => return .loads (← Program.ask .reviewerLoads)
  | .reviewerCounts => return .counts (← Program.ask .reviewerCounts)

/-- The program of a request. -/
def program (settings : Settings) (request : Request) : Program Reply :=
  (request.steps settings).reporting request.operation

/-- The program of a request while another client holds the write lock beyond the deadline, which is
assumed to expire before the 30 seconds after which the store itself gives up waiting. -/
def lockedProgram (settings : Settings) (request : Request) : Program Reply :=
  ((request.steps settings).underLock settings.deadline).reporting request.operation

end Request

end ReviewAssignment
