import ReviewAssignment.Store.Tables

/-!
# Pull requests in the store

A pull request and its reviewer slots are inserted as one unit.  Later changes are conditional
writes: the status moves only from the status that is expected, and a slot changes hands only while
the pull request is open, the old reviewer still holds a slot and the new one holds none.
-/

namespace ReviewAssignment

open Time (Instant)

def PullRequestRow.withSlots (row : PullRequestRow) (slots : Slots) : PullRequest :=
  { id := row.id
    name := row.name
    author := row.author
    status := row.status
    reviewers := slots
    createdAt := row.createdAt
    mergedAt := row.mergedAt }

def PullRequest.row (pr : PullRequest) : PullRequestRow :=
  { id := pr.id
    name := pr.name
    author := pr.author
    status := pr.status
    createdAt := pr.createdAt
    mergedAt := pr.mergedAt }

/-- Puts a row and stored reviewers together.  Reviewers that repeat are a fault of the store. -/
def PullRequestRow.assemble (row : PullRequestRow) (reviewers : List UserId) :
    Except Failure PullRequest :=
  match Slots.ofList reviewers with
  | .ok slots => .ok (row.withSlots slots)
  | .error cause => .error (.internal ("corrupt reviewer slots: " ++ cause.message))

def PullRequestRow.summary (row : PullRequestRow) : PullRequest.Summary :=
  ⟨row.id, row.name, row.author, row.status⟩

namespace Store

def reviewersOf (store : Store) (id : PullRequestId) : List UserId :=
  ((store.slots.filter fun row => row.pullRequest == id).mergeSort
    fun a b => a.slot ≤ b.slot).map SlotRow.reviewer

def pullRequest? (store : Store) (id : PullRequestId) : Except Failure (Option PullRequest) :=
  match store.pullRequestRow? id with
  | none => .ok none
  | some row => (row.assemble (store.reviewersOf id)).map some

def insertSlots (store : Store) (id : PullRequestId) (slot : Nat) :
    List UserId → Except Violation Store
  | [] => .ok store
  | reviewer :: rest => do
    let store ← store.insertSlot ⟨id, slot, reviewer⟩
    store.insertSlots id (slot + 1) rest

def insertPullRequest (store : Store) (pr : PullRequest) : Except Failure Store :=
  match store.insertPullRequestRow pr.row with
  | .error .takenKey => .error (.alreadyExists pr.id)
  | .error .missingReference => .error Violation.missingReference.failure
  | .ok store => (store.insertSlots pr.id 0 pr.reviewers.reviewers).mapError Violation.failure

/-- Moves a pull request from one status to another; the answer says whether it was in the expected
status.  Entering the final status records the moment. -/
def transition (store : Store) (id : PullRequestId) (expected next : Status) (moment : Instant) :
    Bool × Store :=
  if store.pullRequests.any fun row => row.id == id && row.status == expected then
    (true, { store with
      pullRequests := store.pullRequests.map fun row =>
        if row.id = id ∧ row.status = expected then
          { row with
            status := next
            mergedAt := if next = .merged then some moment else row.mergedAt }
        else row })
  else (false, store)

def holdsSlot (store : Store) (id : PullRequestId) (user : UserId) : Bool :=
  store.slots.any fun row => row.pullRequest == id && row.reviewer == user

def isOpen (store : Store) (id : PullRequestId) : Bool :=
  store.pullRequests.any fun row => row.id == id && row.status == .opened

/-- Hands the slot of `old` to `new` and gives the pull request as it is then.  Nothing happens, and
nothing is given, unless the pull request is open, `old` holds a slot and `new` holds none. -/
def replaceReviewer (store : Store) (id : PullRequestId) (old new : UserId) :
    Except Failure (Option PullRequest × Store) :=
  if store.isOpen id && store.holdsSlot id old && !store.holdsSlot id new then
    if store.hasUser new then do
      let store := { store with
        slots := store.slots.map fun row =>
          if row.pullRequest = id ∧ row.reviewer = old then { row with reviewer := new } else row }
      let updated ← store.pullRequest? id
      return (updated, store)
    else .error Violation.missingReference.failure
  else .ok (none, store)

end Store

end ReviewAssignment
