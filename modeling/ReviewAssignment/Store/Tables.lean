import ReviewAssignment.PullRequest.Basic

/-!
# The tables of the store

The store holds users, teams, the membership of users in teams, pull requests and their reviewer
slots.  Every table has keys, and rows refer to rows of other tables; inserting a row that breaks
either rule is a `Violation`.  A taken key is noticed before a missing reference.  A write of several
rows goes through `Except`, so a violation at any of them leaves nothing of the write behind.
-/

namespace ReviewAssignment

open Time (Instant)

/-- The number that the store gives to a team when the team is first written. -/
abbrev TeamNumber := Nat

structure TeamRow where
  number : TeamNumber
  name : TeamName
deriving DecidableEq, Repr, Inhabited

/-- The membership of a user in a team; the user is the key, so there is at most one. -/
structure MembershipRow where
  user : UserId
  team : TeamNumber
  position : Nat
deriving DecidableEq, Repr, Inhabited

/-- A pull request without its reviewers. -/
structure PullRequestRow where
  id : PullRequestId
  name : String
  author : UserId
  status : Status
  createdAt : Instant
  mergedAt : Option Instant
deriving DecidableEq, Repr, Inhabited

/-- A reviewer slot.  A pull request has one row for each slot and one for each reviewer. -/
structure SlotRow where
  pullRequest : PullRequestId
  slot : Nat
  reviewer : UserId
deriving DecidableEq, Repr, Inhabited

structure Store where
  users : List User
  teams : List TeamRow
  /-- The last number given to a team. -/
  lastTeam : TeamNumber
  memberships : List MembershipRow
  pullRequests : List PullRequestRow
  slots : List SlotRow
deriving DecidableEq, Repr, Inhabited

/-- A rule of the tables that a row would break. -/
inductive Violation where
  | takenKey
  | missingReference
deriving DecidableEq, Repr, Inhabited

/-- A violation that no rule of the service expects, as the store reports it. -/
def Violation.failure : Violation → Failure
  | .takenKey =>
    .database ("error returned from database: (code: 1555) UNIQUE constraint failed: " ++
      "pull_request_reviewers.pull_request_id, pull_request_reviewers.slot")
  | .missingReference =>
    .database "error returned from database: (code: 787) FOREIGN KEY constraint failed"

namespace Store

def empty : Store :=
  ⟨[], [], 0, [], [], []⟩

/-! ### Users -/

def user? (store : Store) (id : UserId) : Option User :=
  store.users.find? fun user => user.id == id

def hasUser (store : Store) (id : UserId) : Bool :=
  store.users.any fun user => user.id == id

/-- Writes a user: a new one is added, the record of a known one is overwritten. -/
def putUser (store : Store) (user : User) : Store :=
  if store.hasUser user.id then
    { store with users := store.users.map fun old => if old.id = user.id then user else old }
  else { store with users := store.users ++ [user] }

/-- Sets the activity of a user; the answer says whether there is such a user. -/
def setActive (store : Store) (id : UserId) (active : Bool) : Bool × Store :=
  if store.hasUser id then
    (true, { store with
      users := store.users.map fun old => if old.id = id then { old with active } else old })
  else (false, store)

/-! ### Rows of the other tables -/

def teamNamed? (store : Store) (name : TeamName) : Option TeamRow :=
  store.teams.find? fun row => row.name == name

def hasTeam (store : Store) (team : TeamNumber) : Bool :=
  store.teams.any fun row => row.number == team

/-- The team with a name, which is added with the next number if it is missing. -/
def ensureTeam (store : Store) (name : TeamName) : TeamNumber × Store :=
  match store.teamNamed? name with
  | some row => (row.number, store)
  | none =>
    (store.lastTeam + 1,
      { store with
        teams := store.teams ++ [⟨store.lastTeam + 1, name⟩]
        lastTeam := store.lastTeam + 1 })

def insertMembership (store : Store) (row : MembershipRow) : Except Violation Store :=
  if store.memberships.any fun old => old.user == row.user then .error .takenKey
  else if store.hasUser row.user && store.hasTeam row.team then
    .ok { store with memberships := store.memberships ++ [row] }
  else .error .missingReference

def pullRequestRow? (store : Store) (id : PullRequestId) : Option PullRequestRow :=
  store.pullRequests.find? fun row => row.id == id

def insertPullRequestRow (store : Store) (row : PullRequestRow) : Except Violation Store :=
  if store.pullRequests.any fun old => old.id == row.id then .error .takenKey
  else if store.hasUser row.author then
    .ok { store with pullRequests := store.pullRequests ++ [row] }
  else .error .missingReference

def insertSlot (store : Store) (row : SlotRow) : Except Violation Store :=
  if store.slots.any fun old =>
      old.pullRequest == row.pullRequest && (old.slot == row.slot || old.reviewer == row.reviewer)
  then .error .takenKey
  else if (store.pullRequests.any fun old => old.id == row.pullRequest) &&
      store.hasUser row.reviewer then
    .ok { store with slots := store.slots ++ [row] }
  else .error .missingReference

end Store

end ReviewAssignment
