import ReviewAssignment.Proofs.Store.Membership
import ReviewAssignment.Proofs.Store.PullRequestWrites

/-!
# Attaching and detaching

What a team upsert does to the memberships.  The rows of the team that is written go, rows for its members
come, numbered from 0 on, and no row of another team is touched (`memberships_upsertTeam`).  No team row
is ever changed or lost.

So there is one way only to leave a team: an upsert of this very team that does not name the user
(`Effect.teamOf?`).
-/

namespace ReviewAssignment.Store

variable {store written : Store} {team : Team} {row : TeamRow} {user : UserId}

/-! ### The rows of the members -/

/-- The memberships of users in a team, the first of them at the given position. -/
def numberedMembers (number : TeamNumber) (position : Nat) : List User → List MembershipRow
  | [] => []
  | member :: rest => ⟨member.id, number, position⟩ :: numberedMembers number (position + 1) rest

@[simp] theorem map_user_numberedMembers (number : TeamNumber) (position : Nat)
    (members : List User) :
    (numberedMembers number position members).map MembershipRow.user = members.map User.id := by
  induction members generalizing position with
  | nil => rfl
  | cons member rest ih => rw [numberedMembers, List.map_cons, ih, List.map_cons]

theorem team_of_mem_numberedMembers {number : TeamNumber} {position : Nat} {members : List User}
    {membership : MembershipRow} (hMem : membership ∈ numberedMembers number position members) :
    membership.team = number := by
  induction members generalizing position with
  | nil => cases hMem
  | cons member rest ih =>
    rcases List.mem_cons.1 hMem with rfl | hRest
    · rfl
    · exact ih hRest

theorem memberships_attachMembers {number : TeamNumber} {position : Nat} {members : List User}
    (hWritten : store.attachMembers number position members = .ok written) :
    written.memberships = store.memberships ++ numberedMembers number position members := by
  induction members generalizing store position with
  | nil =>
    cases hWritten
    exact (List.append_nil _).symm
  | cons member rest ih =>
    obtain ⟨attached, hFirst, hRest⟩ := attachMembers_cons_eq_ok_iff.1 hWritten
    obtain ⟨-, -, -, rfl⟩ := insertMembership_eq_ok_iff.1 hFirst
    rw [ih hRest, numberedMembers, List.append_assoc, List.singleton_append]

/-! ### Teams -/

/-- No team row is changed or lost where a name is looked for. -/
theorem mem_teams_ensureTeam (name : TeamName) (hRow : row ∈ store.teams) :
    row ∈ (store.ensureTeam name).2.teams := by
  rw [ensureTeam]
  split
  · exact hRow
  · exact List.mem_append_left _ hRow

/-- The number of a team that is there is the number of its row. -/
theorem Consistent.ensureTeam_number_eq_iff (h : store.Consistent) (hRow : row ∈ store.teams)
    {name : TeamName} : (store.ensureTeam name).1 = row.number ↔ row.name = name := by
  rw [Store.ensureTeam]
  cases hNamed : store.teamNamed? name with
  | some found =>
    obtain ⟨hFound, rfl⟩ := teamNamed?_some hNamed
    constructor
    · intro hNumber
      have hSame : found = row := List.inj_on_of_nodup_map h.teamNumbers hFound hRow hNumber
      rw [hSame]
    · intro hName
      have hSame : row = found := List.inj_on_of_nodup_map h.teamNames hRow hFound hName
      rw [hSame]
  | none =>
    constructor
    · intro hNumber
      -- The new number is above all that were given.
      have hGiven : row.number ≤ store.lastTeam := h.numbersGiven row hRow
      exact absurd (hNumber ▸ hGiven) (Nat.not_succ_le_self _)
    · intro hName
      exact absurd (beq_iff_eq.2 hName) (List.find?_eq_none.1 hNamed row hRow)

/-! ### Upserts -/

theorem teams_upsertTeam (hWritten : store.upsertTeam team = .ok written) :
    written.teams = (store.ensureTeam team.name).2.teams := by
  rw [upsertTeam_eq_ok hWritten]
  change (team.members.foldl putUser (store.ensureTeam team.name).2).teams = _
  rw [foldl_putUser_eq]

/-- Before the members of a team are attached, the old memberships of the team are gone. -/
theorem memberships_preparedFor (store : Store) (team : Team) :
    (store.preparedFor team).memberships =
      store.memberships.filter fun old => old.team != (store.ensureTeam team.name).1 := by
  have hKept : (store.ensureTeam team.name).2.memberships = store.memberships := by
    rw [ensureTeam]
    split <;> rfl
  rw [preparedFor, detachMembers, foldl_putUser_eq, hKept]

/-- **What an upsert does to the memberships.** -/
theorem memberships_upsertTeam (hWritten : store.upsertTeam team = .ok written) :
    written.memberships =
      (store.memberships.filter fun old => old.team != (store.ensureTeam team.name).1) ++
        numberedMembers (store.ensureTeam team.name).1 0 team.members := by
  rw [upsertTeam_eq] at hWritten
  rw [memberships_attachMembers hWritten, memberships_preparedFor]

/-- The members of the team that is written are those of the upsert. -/
theorem membershipsOf_upsertTeam_self (hWritten : store.upsertTeam team = .ok written) :
    written.membershipsOf (store.ensureTeam team.name).1 =
      numberedMembers (store.ensureTeam team.name).1 0 team.members := by
  have hOld : (store.memberships.filter fun old =>
      old.team != (store.ensureTeam team.name).1).filter
        (fun old => old.team == (store.ensureTeam team.name).1) = [] := by
    simp [List.filter_filter]
  have hNew : (numberedMembers (store.ensureTeam team.name).1 0 team.members).filter
      (fun new => new.team == (store.ensureTeam team.name).1) =
        numberedMembers (store.ensureTeam team.name).1 0 team.members :=
    List.filter_eq_self.2 fun new hMem => beq_iff_eq.2 (team_of_mem_numberedMembers hMem)
  rw [membershipsOf, memberships_upsertTeam hWritten, List.filter_append, hOld, hNew, List.nil_append]

theorem membershipsOf_upsertTeam_of_ne (hWritten : store.upsertTeam team = .ok written)
    {number : TeamNumber} (hOther : number ≠ (store.ensureTeam team.name).1) :
    written.membershipsOf number = store.membershipsOf number := by
  have hOld : (store.memberships.filter fun old =>
      old.team != (store.ensureTeam team.name).1).filter (fun old => old.team == number) =
        store.membershipsOf number := by
    rw [List.filter_filter, membershipsOf]
    refine List.filter_congr fun old _ => ?_
    by_cases hSame : old.team = number <;> simp [hSame, hOther]
  have hNew : (numberedMembers (store.ensureTeam team.name).1 0 team.members).filter
      (fun new => new.team == number) = [] := by
    refine List.filter_eq_nil_iff.2 fun new hMem hSame => hOther ?_
    rw [← beq_iff_eq.1 hSame, team_of_mem_numberedMembers hMem]
  rw [membershipsOf, memberships_upsertTeam hWritten, List.filter_append, hOld, hNew, List.append_nil]

/-- Who belongs to a team after an upsert: the members of the upsert, and whoever belongs to another
team. -/
theorem Consistent.teamOf?_upsertTeam (h : store.Consistent)
    (hWritten : store.upsertTeam team = .ok written) (hTeam : store.teamOf? user = some row)
    (hKept : row.name = team.name → user ∈ team.memberIds) : written.teamOf? user = some row := by
  obtain ⟨hRow, hMember⟩ := h.teamOf?_eq_some_iff.1 hTeam
  refine (h.upsertTeam hWritten).teamOf?_eq_some_iff.2 ⟨?_, ?_⟩
  · rw [teams_upsertTeam hWritten]
    exact mem_teams_ensureTeam team.name hRow
  · by_cases hName : row.name = team.name
    · have hNumber := (h.ensureTeam_number_eq_iff hRow).2 hName
      rw [← hNumber, membershipsOf_upsertTeam_self hWritten, map_user_numberedMembers]
      exact hKept hName
    · have hNumber := mt (h.ensureTeam_number_eq_iff hRow).1 hName
      rw [membershipsOf_upsertTeam_of_ne hWritten (Ne.symm hNumber)]
      exact hMember

/-! ### All calls -/

theorem Effect.mem_teams {call : Call} (h : store.Effect call written) (hRow : row ∈ store.teams) :
    row ∈ written.teams := by
  cases h with
  | upsertTeam hWritten =>
    rw [teams_upsertTeam hWritten]
    exact mem_teams_ensureTeam _ hRow
  | setActive =>
    rw [setActive_eq]
    exact hRow
  | insertPullRequest hWritten =>
    obtain ⟨-, -, rfl⟩ := insertPullRequest_eq_ok hWritten
    exact hRow
  | _ => exact hRow

/-- **How to leave a team**: by an upsert of the team that does not name the user. -/
theorem Effect.teamOf? {call : Call} (h : store.Effect call written) (hStore : store.Consistent)
    (hTeam : store.teamOf? user = some row) :
    written.teamOf? user = some row ∨
      ∃ team, call = .upsertTeam team ∧ store.upsertTeam team = .ok written ∧
        team.name = row.name ∧ user ∉ team.memberIds := by
  cases h with
  | @upsertTeam team _ hWritten =>
    by_cases hLeft : team.name = row.name ∧ user ∉ team.memberIds
    · exact Or.inr ⟨team, rfl, hWritten, hLeft⟩
    · refine Or.inl (hStore.teamOf?_upsertTeam hWritten hTeam fun hName => ?_)
      exact Classical.not_not.1 fun hMember => hLeft ⟨hName.symm, hMember⟩
  | setActive =>
    rw [setActive_eq]
    exact Or.inl hTeam
  | insertPullRequest hWritten =>
    obtain ⟨-, -, rfl⟩ := insertPullRequest_eq_ok hWritten
    exact Or.inl hTeam
  | _ => exact Or.inl hTeam

end ReviewAssignment.Store
