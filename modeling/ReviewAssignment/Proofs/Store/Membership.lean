import ReviewAssignment.Proofs.Store.RosterWrites

/-!
# Who belongs where

The membership of users in teams is looked up from both ends: from a team, as the list of its members
(`membersOf`), and from a user, as the row of the user's team (`teamOf?`) or as the name of the team in
a batch (`teamNames`).  In a consistent store all three come from the one row that a user has among the
memberships:

* `Consistent.memberIds_teamOfRow`: every membership finds its user, so nobody is left out of a team and
  nobody is listed twice;
* `Consistent.mem_memberIds_iff`: a user is listed in a team exactly when the team is the one that is
  found for the user;
* `Consistent.lookup_teamNames`: the batch says the same.
-/

namespace ReviewAssignment.Store

variable {store : Store} {id : UserId} {user : User} {row : TeamRow}

/-! ### Users -/

theorem user?_some (hUser : store.user? id = some user) : user ∈ store.users ∧ user.id = id := by
  refine ⟨List.mem_of_find?_eq_some hUser, ?_⟩
  simpa using List.find?_some hUser

theorem hasUser_iff_exists : store.hasUser id = true ↔ ∃ user, store.user? id = some user := by
  rw [← Option.isSome_iff_exists, user?, List.find?_isSome, hasUser, List.any_eq_true]

theorem mem_membersOf_iff {team : TeamNumber} :
    user ∈ store.membersOf team ↔
      ∃ membership ∈ store.membershipsOf team, store.user? membership.user = some user := by
  rw [membersOf, List.mem_filterMap]
  simp only [List.mem_mergeSort, membershipsOf]

/-- Who is listed in a team is a user, with the record of the user. -/
theorem user?_of_mem_membersOf {team : TeamNumber} (hMember : user ∈ store.membersOf team) :
    store.user? user.id = some user := by
  obtain ⟨membership, -, hUser⟩ := mem_membersOf_iff.1 hMember
  rw [(user?_some hUser).2]
  exact hUser

/-- Whoever has to do with a pull request is a user. -/
theorem Consistent.hasUser_of_stored (h : store.Consistent) {id : PullRequestId} {pr : PullRequest}
    {user : UserId} (hStored : store.pullRequest? id = .ok (some pr))
    (hUser : user = pr.author ∨ user ∈ pr.reviewers.reviewers) : store.hasUser user = true := by
  obtain ⟨hRow, hReviewers⟩ := h.pullRequest?_eq_some_iff.1 hStored
  rcases hUser with rfl | hReviewer
  · exact h.authors pr.row (pullRequestRow?_some hRow).1
  · rw [hReviewers, h.reviewersOf_eq] at hReviewer
    obtain ⟨slot, hSlot, rfl⟩ := List.mem_map.1 hReviewer
    exact (h.slots slot (List.mem_of_mem_filter hSlot)).2

/-! ### From a team to its members -/

/-- The members are the memberships as they stand.  Members are numbered in the order of their rows,
so sorting them by position moves none. -/
theorem Consistent.membersOf_eq (h : store.Consistent) (team : TeamNumber) :
    store.membersOf team =
      (store.membershipsOf team).filterMap fun membership => store.user? membership.user := by
  rw [membersOf, ← membershipsOf, mergeSort_of_numbered (h.positions team)]

/-- **Every membership finds its user.** -/
theorem Consistent.memberIds_teamOfRow (h : store.Consistent) (row : TeamRow) :
    (store.teamOfRow row).memberIds =
      (store.membershipsOf row.number).map MembershipRow.user := by
  rw [Team.memberIds, teamOfRow, h.membersOf_eq, List.map_filterMap, ← List.filterMap_eq_map]
  refine List.filterMap_congr fun membership hMembership => ?_
  obtain ⟨user, hUser⟩ :=
    hasUser_iff_exists.1 (h.memberships membership (List.mem_of_mem_filter hMembership)).1
  rw [hUser, Option.map_some, (user?_some hUser).2]
  rfl

theorem Consistent.nodup_memberIds (h : store.Consistent) (row : TeamRow) :
    (store.teamOfRow row).memberIds.Nodup := by
  rw [h.memberIds_teamOfRow]
  exact h.members.sublist (List.filter_sublist.map _)

/-! ### From a user to the team -/

theorem Consistent.teamNamed?_eq_some_iff (h : store.Consistent) {name : TeamName} :
    store.teamNamed? name = some row ↔ row ∈ store.teams ∧ row.name = name := by
  refine ⟨teamNamed?_some, ?_⟩
  rintro ⟨hRow, rfl⟩
  exact find?_key h.teamNames hRow

theorem Consistent.exists_team (h : store.Consistent) {membership : MembershipRow}
    (hMembership : membership ∈ store.memberships) :
    ∃ row, (store.teams.find? fun row => row.number == membership.team) = some row := by
  obtain ⟨row, hRow, hNumber⟩ := List.mem_map.1 (hasTeam_iff.1 (h.memberships membership hMembership).2)
  rw [← hNumber]
  exact ⟨row, find?_key h.teamNumbers hRow⟩

theorem Consistent.teamOf?_eq_some_iff (h : store.Consistent) :
    store.teamOf? id = some row ↔
      row ∈ store.teams ∧ id ∈ (store.membershipsOf row.number).map MembershipRow.user := by
  rw [teamOf?, Option.bind_eq_bind, Option.bind_eq_some_iff]
  constructor
  · rintro ⟨membership, hMembership, hRow⟩
    have hUser : membership.user = id := by simpa using List.find?_some hMembership
    have hNumber : row.number = membership.team := by simpa using List.find?_some hRow
    refine ⟨List.mem_of_find?_eq_some hRow, List.mem_map.2 ⟨membership, ?_, hUser⟩⟩
    exact List.mem_filter.2 ⟨List.mem_of_find?_eq_some hMembership, beq_iff_eq.2 hNumber.symm⟩
  · rintro ⟨hRow, hMember⟩
    obtain ⟨membership, hMembership, rfl⟩ := List.mem_map.1 hMember
    obtain ⟨hMembership, hTeam⟩ := List.mem_filter.1 hMembership
    refine ⟨membership, find?_key h.members hMembership, ?_⟩
    rw [beq_iff_eq.1 hTeam]
    exact find?_key h.teamNumbers hRow

/-- **A user is listed in a team exactly when the team is found for the user.** -/
theorem Consistent.mem_memberIds_iff (h : store.Consistent) (hRow : row ∈ store.teams) :
    id ∈ (store.teamOfRow row).memberIds ↔ store.teamOf? id = some row := by
  rw [h.memberIds_teamOfRow, h.teamOf?_eq_some_iff]
  exact ⟨fun hMember => ⟨hRow, hMember⟩, fun hTeam => hTeam.2⟩

theorem Consistent.hasUser_of_teamOf? (h : store.Consistent) (hTeam : store.teamOf? id = some row) :
    store.hasUser id = true := by
  obtain ⟨-, hMember⟩ := h.teamOf?_eq_some_iff.1 hTeam
  obtain ⟨membership, hMembership, rfl⟩ := List.mem_map.1 hMember
  exact (h.memberships membership (List.mem_of_mem_filter hMembership)).1

/-- Looking a user up among the memberships of a batch, each of which finds its team. -/
theorem lookup_batch {users : List UserId} {rows : List MembershipRow}
    {team? : MembershipRow → Option TeamRow} (hId : id ∈ users)
    (hTeams : ∀ membership ∈ rows, ∃ row, team? membership = some row) :
    List.lookup id (rows.filterMap fun membership =>
        if users.contains membership.user then
          (team? membership).map fun row => (membership.user, row.name)
        else none) =
      ((rows.find? fun membership => membership.user == id).bind team?).map TeamRow.name := by
  induction rows with
  | nil => rfl
  | cons first rest ih =>
    obtain ⟨row, hRow⟩ := hTeams first List.mem_cons_self
    have hRest := ih fun membership hMem => hTeams membership (List.mem_cons_of_mem _ hMem)
    by_cases hFirst : first.user = id
    · subst hFirst
      simp [hId, hRow]
    · have hOther : (id == first.user) = false := beq_eq_false_iff_ne.2 (Ne.symm hFirst)
      rw [List.find?_cons_of_neg (by simpa using hFirst), ← hRest, List.filterMap_cons]
      by_cases hBatch : first.user ∈ users
      · simp [hBatch, hRow, List.lookup_cons, hOther]
      · simp [hBatch]

/-- **The batched lookup** of team names agrees with the lookup of one user's team. -/
theorem Consistent.lookup_teamNames (h : store.Consistent) {users : List UserId} (hId : id ∈ users) :
    List.lookup id (store.teamNames users) = (store.teamOf? id).map TeamRow.name := by
  exact lookup_batch hId fun membership => h.exists_team

end ReviewAssignment.Store
