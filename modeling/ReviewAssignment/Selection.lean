import ReviewAssignment.Draws
import ReviewAssignment.PullRequest.Basic

/-!
# Choosing reviewers

A new pull request gets reviewers from the author's team: active members other than the author, all
of them if they fit, and otherwise a sample.  A reviewer who leaves a slot is followed by an active
member of the reviewer's own team who is neither the author nor reviewing the pull request already.
-/

namespace ReviewAssignment

/-- Reviewers a new pull request gets unless the settings say otherwise. -/
def defaultMaxReviewers : Nat := 2

def Team.eligible (team : Team) (author : UserId) : List User :=
  team.members.filter fun member => member.active && member.id != author

/-- The reviewers of a new pull request.  If the eligible members are no more than `limit`, they are
all taken, in the order of the team and without a draw. -/
def selectReviewers (team : Team) (author : UserId) (limit : Nat) : Draws (List UserId) :=
  let eligible := (team.eligible author).map User.id
  if eligible.length ≤ limit then .done eligible
  else Draws.sample limit eligible

def Team.candidates (team : Team) (pr : PullRequest) (old : UserId) : List User :=
  team.members.filter fun member =>
    member.active && member.id != old && member.id != pr.author && !pr.reviewers.contains member.id

def pickReplacement : List User → Draws (Option User)
  | [] => .done none
  | first :: others => .draw others.length fun choice => .done (some ((first :: others).get choice))

end ReviewAssignment
