import ReviewAssignment.Operation.Lookups
import ReviewAssignment.Selection

/-!
# The life of a pull request

A pull request is created open, with reviewers drawn from the author's team, and may be merged once.
While it is open, a reviewer's slot can be handed to another member of the reviewer's team.  Merging
and handing over are conditional writes: whoever comes second is told why by a second reading.
-/

namespace ReviewAssignment.Operation

def bracketed (ids : List UserId) : String :=
  "[" ++ ", ".intercalate ids ++ "]"

/-- Creates an open pull request.  A team of one has nobody to ask, so there may be no reviewers. -/
def create (limit : Nat) (id : PullRequestId) (name : String) (author : UserId) :
    Program PullRequest := do
  require id "pull_request_id"
  require name "pull_request_name"
  require author "author_id"
  .log (.info ("Creating pull request " ++ id ++ " by " ++ author))
  let team ← .ofOption (.notFound "Team for author" (some author)) (← readTeamOf author)
  let selected ← .ofDraws (selectReviewers team author limit)
  let reviewers ← .ofExcept (Slots.ofList selected)
  let createdAt ← .now
  let pr : PullRequest := ⟨id, name, author, .opened, reviewers, createdAt, none⟩
  .ofExcept (← .ask (.insertPullRequest pr))
  .log (.debug ("Pull request " ++ id ++ " assigned to " ++ bracketed reviewers.reviewers))
  return pr

/-- Merges a pull request.  One that is merged already is answered as it is. -/
def merge (id : PullRequestId) : Program PullRequest := do
  require id "pull_request_id"
  .log (.info ("Merging pull request " ++ id))
  let moment ← .now
  let applied ← .ask (.transition id .opened .merged moment)
  let pr ← loadPullRequest id
  -- Nothing opens a merged pull request again; only one that has been created since is found open.
  if pr.isOpen then
    .fail (.internal ("pull request " ++ id ++ " still open after merge"))
  else if applied then
    return pr
  else do
    .log (.debug ("Pull request " ++ id ++ " was already merged"))
    return pr

/-- Why a swap did not apply, from a fresh reading of the pull request. -/
def lostSwap (id : PullRequestId) (old : UserId) (current : PullRequest) : Failure :=
  if current.isMerged then .alreadyMerged id
  else if current.reviewers.contains old then .reviewersChanged id
  else .reviewerNotAssigned id old

/-- The complaint about a reassignment that the pull request does not admit. -/
def swapFault? (id : PullRequestId) (old : UserId) (pr : PullRequest) : Option Failure :=
  if pr.isMerged then some (.alreadyMerged id)
  else if pr.reviewers.contains old then none
  else some (.reviewerNotAssigned id old)

/-- Hands the slot of a reviewer to another member of the reviewer's team.  The slot keeps its
place. -/
def reassign (id : PullRequestId) (old : UserId) : Program Reassignment := do
  require id "pull_request_id"
  require old "old_reviewer_id"
  .log (.info ("Reassigning " ++ old ++ " on pull request " ++ id))
  let pr ← loadPullRequest id
  .check (swapFault? id old pr)
  let team ← .ofOption (.notFound "Team for user" (some old)) (← readTeamOf old)
  let picked ← .ofDraws (pickReplacement (team.candidates pr old))
  let replacement ← .ofOption (.noReviewerCandidates id) picked
  let (slot, expected) ← .ofExcept (pr.reviewers.replace id old replacement.id)
  -- Others may have written since the pull request was read, so the swap looks at the rows again.
  match ← .ofExcept (← Program.ask (.replaceReviewer id old replacement.id)) with
  | none => .fail (lostSwap id old (← loadPullRequest id))
  | some updated => do
    .log (.info ("Pull request " ++ id ++ " slot " ++ toString slot ++ ": " ++ old ++ " -> " ++
      replacement.id))
    -- Another slot has changed hands meanwhile, which is no reason to refuse.
    if updated.reviewers != expected then
      .log (.debug ("Pull request " ++ id ++ " reviewers changed alongside the swap: " ++
        bracketed updated.reviewers.reviewers))
    return ⟨updated, replacement⟩

end ReviewAssignment.Operation
