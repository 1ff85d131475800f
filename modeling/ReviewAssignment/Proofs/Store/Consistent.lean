import ReviewAssignment.Store.Call
import Mathlib.Data.List.Nodup

/-!
# Consistent stores

The keys and references of the tables, as a property of a store: `Consistent` says that no key is
taken twice, that every row finds the rows it refers to, and that the members of a team and the
slots of a pull request are numbered 0, 1, 2, … without a gap.

The keys alone do not number the members and the slots.  They are numbered because a team is always
written whole and because a pull request gets its slots when it is inserted and never again:
`attachMembers` and `insertSlots` go on with the number of rows that are there already.
-/

namespace ReviewAssignment.Store

def membershipsOf (store : Store) (team : TeamNumber) : List MembershipRow :=
  store.memberships.filter fun row => row.team == team

def slotsOf (store : Store) (id : PullRequestId) : List SlotRow :=
  store.slots.filter fun row => row.pullRequest == id

theorem pullRequest_of_mem_slotsOf {store : Store} {id : PullRequestId} {row : SlotRow}
    (hRow : row ∈ store.slotsOf id) : row.pullRequest = id :=
  beq_iff_eq.1 (List.mem_filter.1 hRow).2

/-- **The rules of the tables**, together with the numbering of members and slots. -/
structure Consistent (store : Store) : Prop where
  userIds : (store.users.map User.id).Nodup
  teamNames : (store.teams.map TeamRow.name).Nodup
  teamNumbers : (store.teams.map TeamRow.number).Nodup
  /-- No team has a number that is still to be given. -/
  numbersGiven : ∀ row ∈ store.teams, row.number ≤ store.lastTeam
  /-- Nobody belongs to two teams. -/
  members : (store.memberships.map MembershipRow.user).Nodup
  memberships : ∀ row ∈ store.memberships, store.hasUser row.user ∧ store.hasTeam row.team
  positions : ∀ team, (store.membershipsOf team).map MembershipRow.position =
    List.range (store.membershipsOf team).length
  pullRequestIds : (store.pullRequests.map PullRequestRow.id).Nodup
  authors : ∀ row ∈ store.pullRequests, store.hasUser row.author
  slots : ∀ row ∈ store.slots,
    row.pullRequest ∈ store.pullRequests.map PullRequestRow.id ∧ store.hasUser row.reviewer
  slotNumbers : ∀ id, (store.slotsOf id).map SlotRow.slot = List.range (store.slotsOf id).length
  /-- Nobody holds two slots of one pull request. -/
  reviewers : ∀ id, ((store.slotsOf id).map SlotRow.reviewer).Nodup

theorem consistent_empty : Consistent empty := by
  constructor <;> simp [empty, membershipsOf, slotsOf]

/-! ### Keys -/

/-- A key finds its row. -/
theorem find?_key {α κ : Type} [BEq κ] [LawfulBEq κ] {key : α → κ} {rows : List α} {row : α}
    (hKeys : (rows.map key).Nodup) (hRow : row ∈ rows) :
    (rows.find? fun other => key other == key row) = some row := by
  induction rows with
  | nil => simp at hRow
  | cons first rest ih =>
    rw [List.map_cons, List.nodup_cons] at hKeys
    rcases List.mem_cons.1 hRow with rfl | hRest
    · simp
    · have hOther : key first ≠ key row := fun hSame =>
        hKeys.1 (hSame ▸ List.mem_map_of_mem hRest)
      rw [List.find?_cons_of_neg (by simpa using hOther)]
      exact ih hKeys.2 hRest

theorem nodup_key_append {α κ : Type} {key : α → κ} {rows : List α} {row : α}
    (hKeys : (rows.map key).Nodup) (hNew : key row ∉ rows.map key) :
    ((rows ++ [row]).map key).Nodup := by
  rw [List.map_append, List.map_singleton, ← List.concat_eq_append, List.nodup_concat]
  exact ⟨hNew, hKeys⟩

/-- Rewriting rows without their keys keeps the keys. -/
theorem map_key_rewritten {α κ : Type} {key : α → κ} {rewrite : α → α} {rows : List α}
    (h : ∀ row ∈ rows, key (rewrite row) = key row) :
    (rows.map rewrite).map key = rows.map key := by
  rw [List.map_map]
  exact List.map_congr_left h

/-- Rows numbered without a gap stay so when one more gets the next number. -/
theorem numbered_append {α : Type} {number : α → Nat} {rows : List α} {row : α}
    (hRows : rows.map number = List.range rows.length) (hRow : number row = rows.length) :
    (rows ++ [row]).map number = List.range (rows ++ [row]).length := by
  rw [List.map_append, hRows, List.map_singleton, hRow, List.length_append, List.length_singleton,
    List.range_succ]

theorem hasUser_iff {store : Store} {id : UserId} :
    store.hasUser id = true ↔ id ∈ store.users.map User.id := by
  simp [hasUser]

theorem hasTeam_iff {store : Store} {team : TeamNumber} :
    store.hasTeam team = true ↔ team ∈ store.teams.map TeamRow.number := by
  simp [hasTeam]

theorem pullRequestRow?_some {store : Store} {id : PullRequestId} {row : PullRequestRow}
    (hRow : store.pullRequestRow? id = some row) : row ∈ store.pullRequests ∧ row.id = id := by
  refine ⟨List.mem_of_find?_eq_some hRow, ?_⟩
  simpa using List.find?_some hRow

theorem pullRequestRow?_eq_none_iff {store : Store} {id : PullRequestId} :
    store.pullRequestRow? id = none ↔ id ∉ store.pullRequests.map PullRequestRow.id := by
  simp [pullRequestRow?]

theorem Consistent.pullRequestRow?_of_mem {store : Store} (h : store.Consistent)
    {row : PullRequestRow} (hRow : row ∈ store.pullRequests) :
    store.pullRequestRow? row.id = some row :=
  find?_key h.pullRequestIds hRow

/-- A condition on some row with an identifier is one on the row that is found by it. -/
theorem Consistent.exists_mem_pullRequests_iff {store : Store} (h : store.Consistent)
    {id : PullRequestId} {p : PullRequestRow → Prop} :
    (∃ row ∈ store.pullRequests, row.id = id ∧ p row) ↔
      ∃ row, store.pullRequestRow? id = some row ∧ p row := by
  constructor
  · rintro ⟨row, hRow, rfl, hHolds⟩
    exact ⟨row, h.pullRequestRow?_of_mem hRow, hHolds⟩
  · rintro ⟨row, hRow, hHolds⟩
    exact ⟨row, (pullRequestRow?_some hRow).1, (pullRequestRow?_some hRow).2, hHolds⟩

theorem Consistent.slotsOf_eq_nil {store : Store} (h : store.Consistent) {id : PullRequestId}
    (hId : id ∉ store.pullRequests.map PullRequestRow.id) : store.slotsOf id = [] := by
  rw [slotsOf, List.filter_eq_nil_iff]
  intro row hRow hSame
  exact hId (beq_iff_eq.1 hSame ▸ (h.slots row hRow).1)

theorem reviewersOf_congr {store other : Store} {id : PullRequestId}
    (h : store.slotsOf id = other.slotsOf id) : store.reviewersOf id = other.reviewersOf id := by
  rw [reviewersOf, ← slotsOf, h, slotsOf, ← reviewersOf]

/-- Rows that are numbered in order are not moved by sorting them by number. -/
theorem mergeSort_of_numbered {α : Type} {number : α → Nat} {rows : List α}
    (hRows : rows.map number = List.range rows.length) :
    (rows.mergeSort fun a b => number a ≤ number b) = rows := by
  have hRange : (rows.map number).Pairwise (· ≤ ·) := by
    rw [hRows]
    exact List.pairwise_le_range
  rw [List.pairwise_map] at hRange
  exact List.mergeSort_of_pairwise (hRange.imp fun hLe => decide_eq_true hLe)

/-- The reviewers are the slots as they stand.  Slots are numbered in the order of their rows, so
sorting them by number moves none. -/
theorem Consistent.reviewersOf_eq {store : Store} (h : store.Consistent) (id : PullRequestId) :
    store.reviewersOf id = (store.slotsOf id).map SlotRow.reviewer := by
  rw [reviewersOf, ← slotsOf, mergeSort_of_numbered (h.slotNumbers id)]

theorem Consistent.nodup_reviewersOf {store : Store} (h : store.Consistent) (id : PullRequestId) :
    (store.reviewersOf id).Nodup := by
  rw [h.reviewersOf_eq id]
  exact h.reviewers id

theorem Consistent.length_reviewersOf {store : Store} (h : store.Consistent) (id : PullRequestId) :
    (store.reviewersOf id).length = (store.slotsOf id).length := by
  rw [h.reviewersOf_eq id, List.length_map]

/-- In a consistent store no reading of a pull request is corrupt. -/
theorem Consistent.assemble_reviewersOf {store : Store} (h : store.Consistent)
    (row : PullRequestRow) (id : PullRequestId) :
    row.assemble (store.reviewersOf id) =
      .ok (row.withSlots ⟨store.reviewersOf id, h.nodup_reviewersOf id⟩) := by
  rw [PullRequestRow.assemble, Slots.ofList_of_nodup (h.nodup_reviewersOf id)]

theorem Consistent.pullRequest?_eq {store : Store} (h : store.Consistent) (id : PullRequestId) :
    store.pullRequest? id = .ok ((store.pullRequestRow? id).map fun row =>
      row.withSlots ⟨store.reviewersOf id, h.nodup_reviewersOf id⟩) := by
  rw [pullRequest?]
  cases store.pullRequestRow? id with
  | none => rfl
  | some row => simp only [h.assemble_reviewersOf row id, Option.map_some]; rfl

/-- A pull request is read as its row and its slots stand. -/
theorem Consistent.pullRequest?_eq_some_iff {store : Store} (h : store.Consistent)
    {id : PullRequestId} {pr : PullRequest} :
    store.pullRequest? id = .ok (some pr) ↔
      store.pullRequestRow? id = some pr.row ∧ pr.reviewers.reviewers = store.reviewersOf id := by
  rw [h.pullRequest?_eq, Except.ok.injEq, Option.map_eq_some_iff]
  constructor
  · rintro ⟨row, hRow, rfl⟩
    exact ⟨hRow, rfl⟩
  · rintro ⟨hRow, hReviewers⟩
    refine ⟨pr.row, hRow, ?_⟩
    have hSlots : (⟨store.reviewersOf id, h.nodup_reviewersOf id⟩ : Slots) = pr.reviewers :=
      Slots.ext hReviewers.symm
    rw [hSlots]
    rfl

end ReviewAssignment.Store
