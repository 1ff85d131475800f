import ReviewAssignment.Store.Tables

/-!
# Teams in the store

A team is written whole: its row is added if it is missing, the records of its members are written,
its old memberships go and the new ones come, in order.  A member who is still attached to another
team is refused by the key of the memberships, and then nothing of the write stays.  Members left out
are detached and keep their record.
-/

namespace ReviewAssignment.Store

def attachMembers (store : Store) (team : TeamNumber) (position : Nat) :
    List User → Except Failure Store
  | [] => .ok store
  | member :: rest =>
    match store.insertMembership ⟨member.id, team, position⟩ with
    | .ok store => store.attachMembers team (position + 1) rest
    | .error .takenKey => .error (.attachedElsewhere member.id)
    | .error .missingReference => .error Violation.missingReference.failure

def detachMembers (store : Store) (team : TeamNumber) : Store :=
  { store with memberships := store.memberships.filter fun row => row.team != team }

/-- Writes a team and its whole membership. -/
def upsertTeam (store : Store) (team : Team) : Except Failure Store :=
  let (number, store) := store.ensureTeam team.name
  let store := team.members.foldl putUser store
  -- Who is in the team already goes and comes again, at the new position.
  (store.detachMembers number).attachMembers number 0 team.members

/-! ### Lookups -/

def membersOf (store : Store) (team : TeamNumber) : List User :=
  ((store.memberships.filter fun row => row.team == team).mergeSort
    fun a b => a.position ≤ b.position).filterMap fun row => store.user? row.user

def teamOf? (store : Store) (user : UserId) : Option TeamRow := do
  let membership ← store.memberships.find? fun row => row.user == user
  store.teams.find? fun row => row.number == membership.team

/-- The team names of those of the given users who belong to a team. -/
def teamNames (store : Store) (users : List UserId) : List (UserId × TeamName) :=
  store.memberships.filterMap fun membership =>
    if users.contains membership.user then
      (store.teams.find? fun row => row.number == membership.team).map fun row =>
        (membership.user, row.name)
    else none

def teamOfRow (store : Store) (row : TeamRow) : Team :=
  ⟨row.name, store.membersOf row.number⟩

end ReviewAssignment.Store
