import ReviewAssignment.Proofs.Store.Consistent

/-!
# Writes to the roster

What the writes to users, teams and memberships do, row by row, and from it what a whole team upsert
does.  A write to the roster is `RosterOnly`: it leaves pull requests and their slots alone and loses
no user.  Every one of them keeps a consistent store consistent (`Consistent.upsertTeam`,
`Consistent.setActive`).
-/

namespace ReviewAssignment.Store

/-- **A write to the roster alone**: pull requests and slots stay, and every user is still there. -/
structure RosterOnly (store written : Store) : Prop where
  pullRequests : written.pullRequests = store.pullRequests
  slots : written.slots = store.slots
  users : ∀ id, store.hasUser id → written.hasUser id

theorem RosterOnly.refl (store : Store) : RosterOnly store store :=
  ⟨rfl, rfl, fun _ hUser => hUser⟩

theorem RosterOnly.trans {first second third : Store} (h : RosterOnly first second)
    (g : RosterOnly second third) : RosterOnly first third :=
  ⟨g.pullRequests.trans h.pullRequests, g.slots.trans h.slots,
    fun id hUser => g.users id (h.users id hUser)⟩

theorem RosterOnly.pullRequestRow? {store written : Store} (h : RosterOnly store written)
    (id : PullRequestId) : written.pullRequestRow? id = store.pullRequestRow? id := by
  rw [Store.pullRequestRow?, h.pullRequests, ← Store.pullRequestRow?]

theorem RosterOnly.slotsOf {store written : Store} (h : RosterOnly store written)
    (id : PullRequestId) : written.slotsOf id = store.slotsOf id := by
  rw [Store.slotsOf, h.slots, ← Store.slotsOf]

theorem RosterOnly.reviewersOf {store written : Store} (h : RosterOnly store written)
    (id : PullRequestId) : written.reviewersOf id = store.reviewersOf id :=
  reviewersOf_congr (h.slotsOf id)

/-! ### Users -/

/-- The references to users hold as long as no user is lost. -/
theorem Consistent.withUsers {store : Store} (h : store.Consistent) {users : List User}
    (hIds : (users.map User.id).Nodup)
    (hKept : ∀ id ∈ store.users.map User.id, id ∈ users.map User.id) :
    Consistent { store with users } := by
  have hUser : ∀ id, store.hasUser id → hasUser { store with users } id := by
    intro id hOld
    rw [hasUser_iff] at hOld ⊢
    exact hKept id hOld
  exact
    { h with
      userIds := hIds
      memberships := fun row hRow => ⟨hUser _ (h.memberships row hRow).1, (h.memberships row hRow).2⟩
      authors := fun row hRow => hUser _ (h.authors row hRow)
      slots := fun row hRow => ⟨(h.slots row hRow).1, hUser _ (h.slots row hRow).2⟩ }

theorem putUser_eq (store : Store) (user : User) :
    store.putUser user = { store with users := (store.putUser user).users } := by
  rw [putUser]
  split <;> rfl

theorem putUser_ids (store : Store) (user : User) :
    (store.putUser user).users.map User.id =
      if store.hasUser user.id then store.users.map User.id
      else store.users.map User.id ++ [user.id] := by
  rw [putUser]
  split
  · exact map_key_rewritten fun old _ => by split <;> simp_all
  · rw [List.map_append, List.map_singleton]

theorem hasUser_putUser {store : Store} {user : User} {id : UserId} :
    (store.putUser user).hasUser id = true ↔ store.hasUser id = true ∨ id = user.id := by
  rw [hasUser_iff, putUser_ids]
  by_cases hKnown : store.hasUser user.id = true
  · rw [if_pos hKnown, ← hasUser_iff]
    refine ⟨Or.inl, ?_⟩
    rintro (hOld | rfl)
    · exact hOld
    · exact hKnown
  · rw [if_neg hKnown, List.mem_append, List.mem_singleton, ← hasUser_iff]

theorem rosterOnly_putUser (store : Store) (user : User) :
    RosterOnly store (store.putUser user) := by
  refine ⟨?_, ?_, fun id hUser => hasUser_putUser.2 (Or.inl hUser)⟩
  · rw [putUser_eq]
  · rw [putUser_eq]

theorem Consistent.putUser {store : Store} (h : store.Consistent) (user : User) :
    (store.putUser user).Consistent := by
  rw [putUser_eq]
  refine h.withUsers ?_ fun id hId => ?_
  · rw [putUser_ids]
    by_cases hKnown : store.hasUser user.id = true
    · rw [if_pos hKnown]
      exact h.userIds
    · rw [if_neg hKnown]
      rw [hasUser_iff] at hKnown
      simpa using nodup_key_append h.userIds hKnown
  · rw [← hasUser_iff] at hId ⊢
    exact hasUser_putUser.2 (Or.inl hId)

/-- The answer of the activity switch, and the store after it when there is such a user. -/
theorem setActive_eq (store : Store) (id : UserId) (active : Bool) :
    store.setActive id active =
      (store.hasUser id, { store with users := (store.setActive id active).2.users }) := by
  rw [setActive]
  split
  · next hKnown => rw [hKnown]
  · next hUnknown => rw [Bool.eq_false_iff.2 hUnknown]

theorem setActive_ids (store : Store) (id : UserId) (active : Bool) :
    (store.setActive id active).2.users.map User.id = store.users.map User.id := by
  rw [setActive]
  split
  · exact map_key_rewritten fun old _ => by split <;> rfl
  · rfl

theorem rosterOnly_setActive (store : Store) (id : UserId) (active : Bool) :
    RosterOnly store (store.setActive id active).2 := by
  refine ⟨?_, ?_, fun user hUser => ?_⟩
  · rw [setActive_eq]
  · rw [setActive_eq]
  · rw [hasUser_iff] at hUser ⊢
    rw [setActive_ids]
    exact hUser

theorem Consistent.setActive {store : Store} (h : store.Consistent) (id : UserId) (active : Bool) :
    (store.setActive id active).2.Consistent := by
  rw [setActive_eq]
  refine h.withUsers ?_ fun user hUser => ?_
  · rw [setActive_ids]
    exact h.userIds
  · rw [setActive_ids]
    exact hUser

/-! ### Teams -/

theorem teamNamed?_some {store : Store} {name : TeamName} {row : TeamRow}
    (hRow : store.teamNamed? name = some row) : row ∈ store.teams ∧ row.name = name := by
  refine ⟨List.mem_of_find?_eq_some hRow, ?_⟩
  simpa using List.find?_some hRow

theorem rosterOnly_ensureTeam (store : Store) (name : TeamName) :
    RosterOnly store (store.ensureTeam name).2 := by
  rw [ensureTeam]
  split
  · exact .refl store
  · exact ⟨rfl, rfl, fun _ hUser => hUser⟩

theorem Consistent.ensureTeam {store : Store} (h : store.Consistent) (name : TeamName) :
    (store.ensureTeam name).2.Consistent := by
  rw [Store.ensureTeam]
  split
  · exact h
  · next hMissing =>
    have hFresh : name ∉ store.teams.map TeamRow.name := by
      intro hMem
      obtain ⟨row, hRow, rfl⟩ := List.mem_map.1 hMem
      exact List.find?_eq_none.1 hMissing row hRow (beq_self_eq_true _)
    have hNumber : store.lastTeam + 1 ∉ store.teams.map TeamRow.number := by
      intro hMem
      obtain ⟨row, hRow, hSame⟩ := List.mem_map.1 hMem
      exact Nat.not_succ_le_self _ (hSame ▸ h.numbersGiven row hRow)
    refine
      { h with
        teamNames := ?_
        teamNumbers := ?_
        numbersGiven := ?_
        memberships := fun row hRow => ⟨(h.memberships row hRow).1, ?_⟩ }
    · exact nodup_key_append h.teamNames hFresh
    · exact nodup_key_append h.teamNumbers hNumber
    · intro row hRow
      rcases List.mem_append.1 hRow with hOld | hNew
      · exact Nat.le_succ_of_le (h.numbersGiven row hOld)
      · exact Nat.le_of_eq (congrArg TeamRow.number (List.mem_singleton.1 hNew))
    · have hTeam := hasTeam_iff.1 (h.memberships row hRow).2
      rw [hasTeam_iff, List.map_append]
      exact List.mem_append_left _ hTeam

/-! ### Memberships -/

theorem rosterOnly_detachMembers (store : Store) (team : TeamNumber) :
    RosterOnly store (store.detachMembers team) :=
  ⟨rfl, rfl, fun _ hUser => hUser⟩

theorem membershipsOf_detachMembers_self (store : Store) (team : TeamNumber) :
    (store.detachMembers team).membershipsOf team = [] := by
  simp [membershipsOf, detachMembers, List.filter_filter]

theorem membershipsOf_detachMembers_of_ne (store : Store) {team other : TeamNumber}
    (hOther : other ≠ team) :
    (store.detachMembers team).membershipsOf other = store.membershipsOf other := by
  rw [membershipsOf, membershipsOf, detachMembers, List.filter_filter]
  refine List.filter_congr fun row _ => ?_
  by_cases hRow : row.team = other <;> simp [hRow, hOther]

theorem Consistent.detachMembers {store : Store} (h : store.Consistent) (team : TeamNumber) :
    (store.detachMembers team).Consistent := by
  refine { h with members := ?_, memberships := ?_, positions := fun other => ?_ }
  · exact h.members.sublist (List.filter_sublist.map _)
  · exact fun row hRow => h.memberships row (List.mem_of_mem_filter hRow)
  · by_cases hOther : other = team
    · rw [hOther, membershipsOf_detachMembers_self]
      rfl
    · rw [membershipsOf_detachMembers_of_ne store hOther]
      exact h.positions other

/-- When a membership can be added, and what the store is then. -/
theorem insertMembership_eq_ok_iff {store written : Store} {row : MembershipRow} :
    store.insertMembership row = .ok written ↔
      row.user ∉ store.memberships.map MembershipRow.user ∧
        store.hasUser row.user = true ∧ store.hasTeam row.team = true ∧
        written = { store with memberships := store.memberships ++ [row] } := by
  rw [insertMembership]
  have hTaken : (store.memberships.any fun old => old.user == row.user) = true ↔
      row.user ∈ store.memberships.map MembershipRow.user := by
    simp
  rw [← hTaken]
  split
  · next h => simp [h]
  · split <;> grind

theorem Consistent.insertMembership {store written : Store} (h : store.Consistent)
    {row : MembershipRow} (hPosition : row.position = (store.membershipsOf row.team).length)
    (hWritten : store.insertMembership row = .ok written) : written.Consistent := by
  obtain ⟨hFree, hUser, hTeam, rfl⟩ := insertMembership_eq_ok_iff.1 hWritten
  refine { h with members := ?_, memberships := ?_, positions := fun team => ?_ }
  · exact nodup_key_append h.members hFree
  · intro other hOther
    rcases List.mem_append.1 hOther with hOld | hNew
    · exact h.memberships other hOld
    · rw [List.mem_singleton] at hNew
      subst hNew
      exact ⟨hUser, hTeam⟩
  · rw [membershipsOf, List.filter_append, ← membershipsOf]
    by_cases hSame : row.team = team
    · subst hSame
      rw [List.filter_cons_of_pos (by simp), List.filter_nil]
      exact numbered_append (h.positions _) hPosition
    · rw [List.filter_cons_of_neg (by simpa using hSame), List.filter_nil, List.append_nil]
      exact h.positions team

theorem length_membershipsOf_insertMembership {store written : Store} {row : MembershipRow}
    (hWritten : store.insertMembership row = .ok written) :
    (written.membershipsOf row.team).length = (store.membershipsOf row.team).length + 1 := by
  obtain ⟨-, -, -, rfl⟩ := insertMembership_eq_ok_iff.1 hWritten
  rw [membershipsOf, List.filter_append, List.length_append, ← membershipsOf]
  simp

theorem rosterOnly_insertMembership {store written : Store} {row : MembershipRow}
    (hWritten : store.insertMembership row = .ok written) : RosterOnly store written := by
  obtain ⟨-, -, -, rfl⟩ := insertMembership_eq_ok_iff.1 hWritten
  exact ⟨rfl, rfl, fun _ hUser => hUser⟩

theorem attachMembers_cons_eq_ok_iff {store written : Store} {team : TeamNumber} {position : Nat}
    {member : User} {rest : List User} :
    store.attachMembers team position (member :: rest) = .ok written ↔
      ∃ attached, store.insertMembership ⟨member.id, team, position⟩ = .ok attached ∧
        attached.attachMembers team (position + 1) rest = .ok written := by
  rw [attachMembers]
  cases store.insertMembership ⟨member.id, team, position⟩ with
  | ok attached => simp
  | error cause => cases cause <;> simp

theorem Consistent.attachMembers {store written : Store} (h : store.Consistent)
    {team : TeamNumber} {position : Nat} {members : List User}
    (hPosition : position = (store.membershipsOf team).length)
    (hWritten : store.attachMembers team position members = .ok written) : written.Consistent := by
  induction members generalizing store position with
  | nil =>
    cases hWritten
    exact h
  | cons member rest ih =>
    obtain ⟨attached, hFirst, hRest⟩ := attachMembers_cons_eq_ok_iff.1 hWritten
    refine ih (h.insertMembership hPosition hFirst) ?_ hRest
    rw [length_membershipsOf_insertMembership hFirst, hPosition]

theorem rosterOnly_attachMembers {store written : Store} {team : TeamNumber} {position : Nat}
    {members : List User} (hWritten : store.attachMembers team position members = .ok written) :
    RosterOnly store written := by
  induction members generalizing store position with
  | nil =>
    cases hWritten
    exact .refl _
  | cons member rest ih =>
    obtain ⟨attached, hFirst, hRest⟩ := attachMembers_cons_eq_ok_iff.1 hWritten
    exact (rosterOnly_insertMembership hFirst).trans (ih hRest)

/-! ### Teams as a whole -/

/-- The store in which the members of an upserted team are attached: the team is there, the records of
its members are written and its old members are detached. -/
def preparedFor (store : Store) (team : Team) : Store :=
  (team.members.foldl putUser (store.ensureTeam team.name).2).detachMembers
    (store.ensureTeam team.name).1

theorem upsertTeam_eq (store : Store) (team : Team) :
    store.upsertTeam team = (store.preparedFor team).attachMembers
      (store.ensureTeam team.name).1 0 team.members :=
  rfl

theorem foldl_putUser_eq (store : Store) (users : List User) :
    users.foldl putUser store = { store with users := (users.foldl putUser store).users } := by
  induction users generalizing store with
  | nil => rfl
  | cons user rest ih =>
    rw [List.foldl_cons, ih, putUser_eq]

theorem hasUser_foldl_putUser {store : Store} {users : List User} {id : UserId} :
    (users.foldl putUser store).hasUser id = true ↔
      store.hasUser id = true ∨ id ∈ users.map User.id := by
  induction users generalizing store with
  | nil => simp
  | cons user rest ih =>
    rw [List.foldl_cons, ih, hasUser_putUser, List.map_cons, List.mem_cons, or_assoc]

theorem attachMembers_eq_ok {store written : Store} {team : TeamNumber} {position : Nat}
    {members : List User} (hWritten : store.attachMembers team position members = .ok written) :
    written = { store with memberships := written.memberships } := by
  induction members generalizing store position with
  | nil =>
    cases hWritten
    rfl
  | cons member rest ih =>
    obtain ⟨attached, hFirst, hRest⟩ := attachMembers_cons_eq_ok_iff.1 hWritten
    obtain ⟨-, -, -, rfl⟩ := insertMembership_eq_ok_iff.1 hFirst
    have hSame := ih hRest
    exact hSame

theorem Consistent.foldl_putUser {store : Store} (h : store.Consistent) (users : List User) :
    (users.foldl Store.putUser store).Consistent := by
  induction users generalizing store with
  | nil => exact h
  | cons user rest ih => exact ih (h.putUser user)

theorem rosterOnly_foldl_putUser (store : Store) (users : List User) :
    RosterOnly store (users.foldl Store.putUser store) := by
  induction users generalizing store with
  | nil => exact .refl store
  | cons user rest ih => exact (rosterOnly_putUser store user).trans (ih _)

theorem rosterOnly_preparedFor (store : Store) (team : Team) :
    RosterOnly store (store.preparedFor team) :=
  ((rosterOnly_ensureTeam store team.name).trans (rosterOnly_foldl_putUser _ team.members)).trans
    (rosterOnly_detachMembers _ _)

/-- **Upserting a team keeps the rules of the tables.** -/
theorem Consistent.upsertTeam {store written : Store} (h : store.Consistent) {team : Team}
    (hWritten : store.upsertTeam team = .ok written) : written.Consistent := by
  rw [upsertTeam_eq] at hWritten
  refine (((h.ensureTeam team.name).foldl_putUser team.members).detachMembers _).attachMembers
    ?_ hWritten
  rw [membershipsOf_detachMembers_self]
  rfl

theorem rosterOnly_upsertTeam {store written : Store} {team : Team}
    (hWritten : store.upsertTeam team = .ok written) : RosterOnly store written :=
  (rosterOnly_preparedFor store team).trans
    (rosterOnly_attachMembers (upsertTeam_eq store team ▸ hWritten))

theorem upsertTeam_eq_ok {store written : Store} {team : Team}
    (hWritten : store.upsertTeam team = .ok written) :
    written = { store.preparedFor team with memberships := written.memberships } :=
  attachMembers_eq_ok (upsertTeam_eq store team ▸ hWritten)

/-- The users after an upsert are those there were and the members. -/
theorem hasUser_upsertTeam {store written : Store} {team : Team} {id : UserId}
    (hWritten : store.upsertTeam team = .ok written) :
    written.hasUser id = true ↔ store.hasUser id = true ∨ id ∈ team.memberIds := by
  rw [upsertTeam_eq_ok hWritten]
  change (team.members.foldl putUser (store.ensureTeam team.name).2).hasUser id = true ↔ _
  have hSame : (store.ensureTeam team.name).2.hasUser id = store.hasUser id := by
    rw [ensureTeam]
    split <;> rfl
  rw [hasUser_foldl_putUser, hSame, Team.memberIds]

/-- An upsert adds no team but the one that is written. -/
theorem mem_teams_upsertTeam {store written : Store} {team : Team} {row : TeamRow}
    (hWritten : store.upsertTeam team = .ok written) (hRow : row ∈ written.teams) :
    row ∈ store.teams ∨ row.name = team.name := by
  rw [upsertTeam_eq_ok hWritten] at hRow
  change row ∈ (team.members.foldl putUser (store.ensureTeam team.name).2).teams at hRow
  rw [foldl_putUser_eq, ensureTeam] at hRow
  split at hRow
  · exact Or.inl hRow
  · rcases List.mem_append.1 hRow with hOld | hNew
    · exact Or.inl hOld
    · rw [List.mem_singleton.1 hNew]
      exact Or.inr rfl

end ReviewAssignment.Store
