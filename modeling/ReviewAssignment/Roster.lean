/-!
# The roster: users and teams

A user has an identifier, a display name and an activity flag; only active users are picked for new
reviews.  A team is a name and its members in order, and is always written whole.  A user belongs to
at most one team, so a user's profile shows a single team name, which is empty for a user without a
team.
-/

namespace ReviewAssignment

/-- The identifier of a user: any text, compared exactly. -/
abbrev UserId := String

abbrev TeamName := String

structure User where
  id : UserId
  name : String
  active : Bool
deriving DecidableEq, Repr, Inhabited

structure Team where
  name : TeamName
  members : List User
deriving DecidableEq, Repr, Inhabited

def Team.memberIds (team : Team) : List UserId :=
  team.members.map User.id

structure Profile where
  user : User
  /-- The name of the team the user belongs to, and the empty text for a user without one. -/
  teamName : TeamName
deriving DecidableEq, Repr, Inhabited

end ReviewAssignment
