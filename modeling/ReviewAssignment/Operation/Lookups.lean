import ReviewAssignment.Program
import ReviewAssignment.Text.Characters

/-!
# Lookups

The operations that read, and the activity switch, which reads back what it wrote.  Identifiers are
checked first: a blank one is refused before the store is asked anything.
-/

namespace ReviewAssignment.Operation

def blankFault? (value field : String) : Option Failure :=
  if Text.isBlank value then some (.blank field) else none

def require (value field : String) : Program Unit :=
  .check (blankFault? value field)

/-- Reads a team: first its row, then its members. -/
def readTeam : Option TeamRow → Program (Option Team)
  | none => .done none
  | some row => do
    let members ← .ask (.membersOf row.number)
    return some ⟨row.name, members⟩

def readTeamOf (user : UserId) : Program (Option Team) := do
  readTeam (← .ask (.teamOf user))

/-- Reads a pull request: first its row, then its reviewers. -/
def readPullRequest (id : PullRequestId) : Program (Option PullRequest) := do
  match ← Program.ask (.pullRequestRow id) with
  | none => return none
  | some row => return some (← .ofExcept (row.assemble (← .ask (.reviewersOf id))))

def loadPullRequest (id : PullRequestId) : Program PullRequest := do
  .ofOption (.notFound "PullRequest" (some id)) (← readPullRequest id)

def loadUser (id : UserId) : Program User := do
  .ofOption (.notFound "User" (some id)) (← .ask (.user id))

def readProfile (user : User) : Program Profile := do
  let names ← .ask (.teamNames [user.id])
  return ⟨user, (List.lookup user.id names).getD ""⟩

def teamByName (name : TeamName) : Program Team := do
  require name "team_name"
  .ofOption (.notFound "Team" (some name)) (← readTeam (← .ask (.teamNamed name)))

def teamByMember (user : UserId) : Program Team := do
  require user "user_id"
  .ofOption (.notFound "Team for user" (some user)) (← readTeamOf user)

def profile (user : UserId) : Program Profile := do
  require user "user_id"
  readProfile (← loadUser user)

/-- The pull requests, open or merged, that a user reviews, newest first. -/
def reviews (user : UserId) : Program (List PullRequest.Summary) := do
  require user "user_id"
  let _ ← loadUser user
  .ask (.reviewsOf user)

/-- Switches the activity of a user.  Reviews that the user already has stay with the user. -/
def setActive (user : UserId) (active : Bool) : Program Profile := do
  require user "user_id"
  .log (.info ("Setting user " ++ user ++ " active=" ++ if active then "true" else "false"))
  if ← .ask (.setActive user active) then
    readProfile (← loadUser user)
  else
    .fail (.notFound "User" (some user))

end ReviewAssignment.Operation
