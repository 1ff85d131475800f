import ReviewAssignment.Operation.Lookups

/-!
# Writing a team

A team is created, or its whole membership replaced.  The names are checked first, then one batched
lookup finds the members who belong to other teams, and all of them are named in the answer.  What
slips in between this check and the write is caught by the key of the memberships.
-/

namespace ReviewAssignment.Operation

/-- The complaint about the first member whose identifier is blank or occurs among the earlier
ones. -/
def memberFault? (earlier : List UserId) : List User → Option Failure
  | [] => none
  | member :: rest =>
    if Text.isBlank member.id then some (.blank "user_id")
    else if member.id ∈ earlier then some (.repeatedMember member.id)
    else memberFault? (member.id :: earlier) rest

/-- The complaint about a team as it was handed in: its name comes before its members. -/
def teamFault? (team : Team) : Option Failure :=
  (blankFault? team.name "team_name").or (memberFault? [] team.members)

/-- The members who belong to another team, in the order of the team, each with that team's name. -/
def claims (team : Team) (names : List (UserId × TeamName)) : List (UserId × TeamName) :=
  team.memberIds.filterMap fun id =>
    match List.lookup id names with
    | some name => if name = team.name then none else some (id, name)
    | none => none

def claimFault? (claims : List (UserId × TeamName)) : Option Failure :=
  if claims.isEmpty then none else some (.claimedElsewhere claims)

/-- Creates a team or replaces its membership.  The records of the members are written with it. -/
def upsertTeam (team : Team) : Program Team := do
  .check (teamFault? team)
  .log (.info ("Upserting team " ++ team.name ++ " with " ++ toString team.members.length ++
    " members"))
  let names ← .ask (.teamNames team.memberIds)
  .check (claimFault? (claims team names))
  -- A member who has joined another team since is found by the key of the memberships.
  .ofExcept (← .ask (.upsertTeam team))
  return team

end ReviewAssignment.Operation
