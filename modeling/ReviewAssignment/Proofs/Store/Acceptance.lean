import ReviewAssignment.Operation.TeamUpsert
import ReviewAssignment.Proofs.Store.Attachment
import ReviewAssignment.Proofs.Store.RefusedWrites

/-!
# Which teams are accepted

A team can be written if its members are different and each of them is in no team or in the team of that
same name.  The memberships decide it: the rows of the team itself go before its members are attached
again, so only rows of other teams are in the way (`Consistent.taken_preparedFor_iff`), and a member whose
key is taken is refused when it is the member's turn (`attachMembers_append`).

The members who are in the way are the conflicts of the team.  It is written exactly when there are none
(`Consistent.exists_upsertTeam_iff`), and otherwise refused for the first of them
(`Consistent.upsertTeam_of_conflict`).
-/

namespace ReviewAssignment.Store

variable {store : Store} {team : Team} {id : UserId} {number : TeamNumber}

/-! ### Conflicts -/

/-- Every member is in no team or in the team of that same name. -/
def Unattached (store : Store) (team : Team) : Prop :=
  ∀ id ∈ team.memberIds, ∀ row, store.teamOf? id = some row → row.name = team.name

/-- The conflicts of a team: the members who belong to another team, in the order of the team, each with
the name of that other team. -/
def conflicts (store : Store) (team : Team) : List (UserId × TeamName) :=
  team.memberIds.filterMap fun id =>
    (store.teamOf? id).bind fun row => if row.name = team.name then none else some (id, row.name)

theorem conflict_eq_none_iff {found : Option TeamRow} {name : TeamName} :
    (found.bind fun row => if row.name = name then none else some (id, row.name)) = none ↔
      ∀ row, found = some row → row.name = name := by
  cases found with
  | none => simp
  | some row => simp

theorem conflicts_eq_nil_iff : store.conflicts team = [] ↔ store.Unattached team := by
  rw [conflicts, List.filterMap_eq_nil_iff]
  exact forall₂_congr fun id _ => conflict_eq_none_iff

/-- The batched lookup finds the conflicts. -/
theorem Consistent.claims_teamNames (h : store.Consistent) (team : Team) :
    Operation.claims team (store.teamNames team.memberIds) = store.conflicts team := by
  refine List.filterMap_congr fun id hId => ?_
  rw [h.lookup_teamNames hId]
  cases store.teamOf? id <;> rfl

/-- The first conflict comes after members who are not in the way. -/
theorem exists_of_conflicts_eq_cons {claim : UserId × TeamName} {others : List (UserId × TeamName)}
    (hConflicts : store.conflicts team = claim :: others) :
    ∃ before after row, team.memberIds = before ++ claim.1 :: after ∧
      (∀ id ∈ before, ∀ row, store.teamOf? id = some row → row.name = team.name) ∧
      store.teamOf? claim.1 = some row ∧ row.name ≠ team.name := by
  obtain ⟨before, id, after, hSplit, hBefore, hFirst, -⟩ := List.filterMap_eq_cons_iff.1 hConflicts
  obtain ⟨row, hRow, hClaim⟩ := Option.bind_eq_some_iff.1 hFirst
  split at hClaim
  · cases hClaim
  · next hOther =>
    cases hClaim
    exact ⟨before, after, row, hSplit, fun id hId => conflict_eq_none_iff.1 (hBefore id hId), hRow,
      hOther⟩

/-! ### Attaching -/

theorem insertMembership_of_taken {row : MembershipRow}
    (hTaken : row.user ∈ store.memberships.map MembershipRow.user) :
    store.insertMembership row = .error .takenKey := by
  have hAny : (store.memberships.any fun old => old.user == row.user) = true := by simpa using hTaken
  rw [insertMembership, if_pos hAny]

/-- **Members whose keys are free** are attached one after the other, before the others. -/
theorem attachMembers_append {before : List User} (rest : List User) (position : Nat)
    (hTeam : store.hasTeam number = true) (hUsers : ∀ member ∈ before, store.hasUser member.id = true)
    (hDistinct : (before.map User.id).Nodup)
    (hFree : ∀ member ∈ before, member.id ∉ store.memberships.map MembershipRow.user) :
    store.attachMembers number position (before ++ rest) =
      attachMembers
        { store with memberships := store.memberships ++ numberedMembers number position before } number
        (position + before.length) rest := by
  induction before generalizing store position with
  | nil => simp [numberedMembers]
  | cons member before ih =>
    obtain ⟨hOther, hLater⟩ := List.nodup_cons.1 hDistinct
    obtain ⟨hMember, hFreeLater⟩ := List.forall_mem_cons.1 hFree
    obtain ⟨hUser, hUsersLater⟩ := List.forall_mem_cons.1 hUsers
    let attached : Store :=
      { store with memberships := store.memberships ++ [⟨member.id, number, position⟩] }
    have hFirst : store.insertMembership ⟨member.id, number, position⟩ = .ok attached :=
      insertMembership_eq_ok_iff.2 ⟨hMember, hUser, hTeam, rfl⟩
    -- The key of the member is taken now, and the others have other keys.
    have hFreeNow : ∀ later ∈ before, later.id ∉ attached.memberships.map MembershipRow.user := by
      intro later hMem hTaken
      rw [List.map_append, List.mem_append, List.map_singleton, List.mem_singleton] at hTaken
      rcases hTaken with hOld | hSame
      · exact hFreeLater later hMem hOld
      · exact hOther (List.mem_map.2 ⟨later, hMem, hSame⟩)
    have hRest : attached.attachMembers number (position + 1) (before ++ rest) = _ :=
      ih (position + 1) hTeam hUsersLater hLater hFreeNow
    rw [List.append_assoc, Nat.add_assoc, Nat.add_comm 1] at hRest
    rw [List.cons_append, attachMembers, hFirst]
    exact hRest

/-! ### Upserts -/

/-- **What is in the way of a member**: a membership in another team. -/
theorem Consistent.taken_preparedFor_iff (h : store.Consistent) :
    id ∈ (store.preparedFor team).memberships.map MembershipRow.user ↔
      ∃ row, store.teamOf? id = some row ∧ row.name ≠ team.name := by
  rw [memberships_preparedFor, List.mem_map]
  constructor
  · rintro ⟨membership, hMem, rfl⟩
    obtain ⟨hMembership, hOther⟩ := List.mem_filter.1 hMem
    obtain ⟨row, hRow⟩ := h.exists_team hMembership
    have hNumber : row.number = membership.team := by simpa using List.find?_some hRow
    have hTeams := List.mem_of_find?_eq_some hRow
    refine ⟨row, h.teamOf?_eq_some_iff.2 ⟨hTeams, List.mem_map.2 ⟨membership, ?_, rfl⟩⟩,
      fun hName => ?_⟩
    · exact List.mem_filter.2 ⟨hMembership, beq_iff_eq.2 hNumber.symm⟩
    · have hSame := (h.ensureTeam_number_eq_iff hTeams).2 hName
      exact bne_iff_ne.1 hOther (hNumber.symm.trans hSame.symm)
  · rintro ⟨row, hTeam, hName⟩
    obtain ⟨hRow, hMember⟩ := h.teamOf?_eq_some_iff.1 hTeam
    obtain ⟨membership, hMem, hUser⟩ := List.mem_map.1 hMember
    obtain ⟨hMembership, hNumber⟩ := List.mem_filter.1 hMem
    refine ⟨membership, List.mem_filter.2 ⟨hMembership, bne_iff_ne.2 fun hSame => hName ?_⟩, hUser⟩
    exact (h.ensureTeam_number_eq_iff hRow).1 (hSame.symm.trans (beq_iff_eq.1 hNumber))

/-- Who is not in the way has a free key. -/
theorem Consistent.free_preparedFor (h : store.Consistent)
    (hFree : ∀ row, store.teamOf? id = some row → row.name = team.name) :
    id ∉ (store.preparedFor team).memberships.map MembershipRow.user := by
  rw [h.taken_preparedFor_iff]
  rintro ⟨row, hRow, hOther⟩
  exact hOther (hFree row hRow)

/-- The team of an upsert is there before its members are attached. -/
theorem hasTeam_preparedFor (store : Store) (team : Team) :
    (store.preparedFor team).hasTeam (store.ensureTeam team.name).1 = true := by
  have hEnsured : (store.ensureTeam team.name).2.hasTeam (store.ensureTeam team.name).1 = true := by
    rw [hasTeam_iff, ensureTeam]
    split
    · next row hRow => exact List.mem_map_of_mem (teamNamed?_some hRow).1
    · rw [List.map_append]
      exact List.mem_append_right _ (List.mem_singleton_self _)
  rw [preparedFor, foldl_putUser_eq]
  exact hEnsured

theorem hasUser_preparedFor {member : User} (hMember : member ∈ team.members) :
    (store.preparedFor team).hasUser member.id = true :=
  hasUser_foldl_putUser.2 (Or.inr (List.mem_map_of_mem hMember))

/-- **Which teams can be written.** -/
theorem Consistent.exists_upsertTeam_iff (h : store.Consistent) :
    (∃ written, store.upsertTeam team = .ok written) ↔
      team.memberIds.Nodup ∧ store.Unattached team := by
  constructor
  · rintro ⟨written, hWritten⟩
    -- The rows of the store after the write have different keys.
    have hKeys := (h.upsertTeam hWritten).members
    rw [upsertTeam_eq] at hWritten
    rw [memberships_attachMembers hWritten, List.map_append, map_user_numberedMembers,
      List.nodup_append] at hKeys
    obtain ⟨-, hDistinct, hApart⟩ := hKeys
    refine ⟨hDistinct, fun id hId row hRow => Classical.not_not.1 fun hOther => ?_⟩
    exact hApart id (h.taken_preparedFor_iff.2 ⟨row, hRow, hOther⟩) id hId rfl
  · rintro ⟨hDistinct, hFree⟩
    have hAttached := attachMembers_append [] 0 (hasTeam_preparedFor store team)
      (fun _ => hasUser_preparedFor) hDistinct fun member hMember =>
        h.free_preparedFor (hFree _ (List.mem_map_of_mem hMember))
    rw [List.append_nil] at hAttached
    exact ⟨_, (upsertTeam_eq store team).trans hAttached⟩

/-- **The first conflict is named** when a team cannot be written. -/
theorem Consistent.upsertTeam_of_conflict (h : store.Consistent) (hDistinct : team.memberIds.Nodup)
    {claim : UserId × TeamName} {others : List (UserId × TeamName)}
    (hConflicts : store.conflicts team = claim :: others) :
    store.upsertTeam team = .error (.validation
      ("user " ++ claim.1 ++ " already belongs to another team") (some "members")) := by
  obtain ⟨beforeIds, afterIds, row, hIds, hBefore, hRow, hOther⟩ :=
    exists_of_conflicts_eq_cons hConflicts
  obtain ⟨before, rest, hMembers, rfl, hRest⟩ := List.map_eq_append_iff.1 hIds
  obtain ⟨member, after, rfl, hId, rfl⟩ := List.map_eq_cons_iff.1 hRest
  have hBeforeMem : ∀ other ∈ before, other ∈ team.members := fun other hMem =>
    hMembers ▸ List.mem_append_left _ hMem
  rw [Team.memberIds, hMembers, List.map_append] at hDistinct
  have hTaken : member.id ∈ (store.preparedFor team).memberships.map MembershipRow.user :=
    h.taken_preparedFor_iff.2 ⟨row, hId ▸ hRow, hOther⟩
  rw [upsertTeam_eq, hMembers, attachMembers_append _ 0 (hasTeam_preparedFor store team)
    (fun other hMem => hasUser_preparedFor (hBeforeMem other hMem)) (List.nodup_append.1 hDistinct).1
    (fun other hMem => h.free_preparedFor (hBefore _ (List.mem_map_of_mem hMem))),
    Store.attachMembers, insertMembership_of_taken, hId]
  · rfl
  · rw [List.map_append]
    exact List.mem_append_left _ hTaken

/-- What a team of different members is refused for. -/
theorem Consistent.upsertTeam_eq_error (h : store.Consistent) (hDistinct : team.memberIds.Nodup)
    {cause : Failure} (hError : store.upsertTeam team = .error cause) :
    ∃ claim others, store.conflicts team = claim :: others ∧ cause = .validation
      ("user " ++ claim.1 ++ " already belongs to another team") (some "members") := by
  cases hConflicts : store.conflicts team with
  | nil =>
    obtain ⟨written, hWritten⟩ :=
      h.exists_upsertTeam_iff.2 ⟨hDistinct, conflicts_eq_nil_iff.1 hConflicts⟩
    cases hError.symm.trans hWritten
  | cons claim others =>
    rw [h.upsertTeam_of_conflict hDistinct hConflicts] at hError
    exact ⟨claim, others, rfl, (Except.error.inj hError).symm⟩

end ReviewAssignment.Store
