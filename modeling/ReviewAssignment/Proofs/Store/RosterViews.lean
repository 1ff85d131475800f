import ReviewAssignment.Proofs.Store.Acceptance
import ReviewAssignment.Proofs.Store.Activity

/-!
# What the roster shows

The roster is looked at in three ways: a user is looked up by identifier (`user?`), a team with its
members by name (`teamShown?`), and the name of a team by one of its members (`teamNameOf?`).  The
numbers that the store gives to its teams show in none of the three.  Reviews are not part of the roster,
and a write to the roster leaves them alone (`RosterOnly.pullRequest?`, `RosterOnly.reviewsOf`).

An upsert writes over the entries of its members and of its team, and leaves all other entries as they
were (`Consistent.user?_upsertTeam`, `Consistent.teamShown?_upsertTeam`,
`Consistent.teamNameOf?_upsertTeam`).  Other teams need an argument: their members are users too, whose
records an upsert may write; but nobody belongs to two teams, so a member of another team is no member of
the one that is written.  Of all the other calls only the activity switch of a member changes how a team is
shown (`Effect.teamShown?`).

Upserts of different teams that are accepted in both orders name different users
(`Consistent.notMem_of_upserted`), so they write over different entries, and the order does not show
(`Consistent.sameRoster_upserts`).  Nor does it show whether an upsert is made once or twice
(`Consistent.exists_upserted_again`).
-/

namespace ReviewAssignment

def Team.member? (team : Team) (id : UserId) : Option User :=
  team.members.find? fun member => member.id == id

theorem Team.member?_eq_none_iff {team : Team} {id : UserId} :
    team.member? id = none ↔ id ∉ team.memberIds := by
  simp [member?, memberIds]

theorem Team.member?_some {team : Team} {id : UserId} {member : User}
    (hMember : team.member? id = some member) : member ∈ team.members ∧ member.id = id := by
  refine ⟨List.mem_of_find?_eq_some hMember, ?_⟩
  simpa using List.find?_some hMember

namespace Store

variable {store written other : Store} {team : Team} {row : TeamRow} {name : TeamName} {user : UserId}

/-! ### Reviews -/

theorem RosterOnly.pullRequest? (h : RosterOnly store written) (id : PullRequestId) :
    written.pullRequest? id = store.pullRequest? id := by
  rw [Store.pullRequest?, Store.pullRequest?, h.pullRequestRow?, h.reviewersOf]

theorem RosterOnly.reviewsOf (h : RosterOnly store written) (user : UserId) :
    written.reviewsOf user = store.reviewsOf user := by
  have hRows : written.pullRequestRow? = store.pullRequestRow? := funext h.pullRequestRow?
  rw [Store.reviewsOf, Store.reviewsOf, h.slots, hRows]

theorem RosterOnly.reviewerLoads (h : RosterOnly store written) :
    written.reviewerLoads = store.reviewerLoads := by
  have hLoad : written.load = store.load := by
    funext user
    rw [load, load, h.slots]
  rw [Store.reviewerLoads, Store.reviewerLoads, h.slots, hLoad]

theorem RosterOnly.reviewerCounts (h : RosterOnly store written) :
    written.reviewerCounts = store.reviewerCounts := by
  rw [Store.reviewerCounts, Store.reviewerCounts, h.pullRequests, h.slots]

/-! ### Teams and users -/

def teamShown? (store : Store) (name : TeamName) : Option Team :=
  (store.teamNamed? name).map store.teamOfRow

def teamNameOf? (store : Store) (user : UserId) : Option TeamName :=
  (store.teamOf? user).map TeamRow.name

/-- The team of a user is the team with the name that is found for the user. -/
theorem Consistent.map_teamOfRow_teamOf? (h : store.Consistent) (user : UserId) :
    (store.teamOf? user).map store.teamOfRow = (store.teamNameOf? user).bind store.teamShown? := by
  rw [teamNameOf?]
  cases hTeam : store.teamOf? user with
  | none => rfl
  | some row =>
    have hRow := (h.teamOf?_eq_some_iff.1 hTeam).1
    have hNamed : store.teamNamed? row.name = some row := h.teamNamed?_eq_some_iff.2 ⟨hRow, rfl⟩
    rw [Option.map_some, Option.map_some, Option.bind_some, teamShown?, hNamed, Option.map_some]

/-- Who is listed in a team that is shown is a user with this record, whose team it is. -/
theorem Consistent.of_mem_teamShown? (h : store.Consistent) (hTeam : store.teamShown? name = some team)
    {member : User} (hMember : member ∈ team.members) :
    store.user? member.id = some member ∧ store.teamNameOf? member.id = some name := by
  obtain ⟨row, hRow, rfl⟩ := Option.map_eq_some_iff.1 hTeam
  obtain ⟨hMem, rfl⟩ := teamNamed?_some hRow
  refine ⟨user?_of_mem_membersOf hMember, ?_⟩
  rw [teamNameOf?, (h.mem_memberIds_iff hMem).1 (List.mem_map_of_mem hMember), Option.map_some]

/-! ### Upserts -/

/-- A team has a row once its name is looked for to be written. -/
theorem mem_teams_ensureTeam_self (store : Store) (name : TeamName) :
    ⟨(store.ensureTeam name).1, name⟩ ∈ (store.ensureTeam name).2.teams := by
  rw [ensureTeam]
  cases hNamed : store.teamNamed? name with
  | some found =>
    obtain ⟨hFound, rfl⟩ := teamNamed?_some hNamed
    exact hFound
  | none => exact List.mem_append_right _ (List.mem_singleton_self _)

/-- The members of an upsert are different, and each is in no team or in the team of that name. -/
theorem Consistent.of_upsertTeam (h : store.Consistent) (hWritten : store.upsertTeam team = .ok written) :
    team.memberIds.Nodup ∧ store.Unattached team :=
  h.exists_upsertTeam_iff.1 ⟨written, hWritten⟩

/-- **Which records are found after an upsert**: those that came with it, and the old ones. -/
theorem Consistent.user?_upsertTeam (h : store.Consistent)
    (hWritten : store.upsertTeam team = .ok written) (id : UserId) :
    written.user? id = (team.member? id).or (store.user? id) := by
  cases hMember : team.member? id with
  | none =>
    rw [user?_upsertTeam_of_notMem hWritten (Team.member?_eq_none_iff.1 hMember), Option.none_or]
  | some member =>
    obtain ⟨hMem, rfl⟩ := Team.member?_some hMember
    rw [user?_upsertTeam_of_mem hWritten (h.of_upsertTeam hWritten).1 hMem, Option.some_or]

theorem mem_teams_upsertTeam_self (hWritten : store.upsertTeam team = .ok written) :
    ⟨(store.ensureTeam team.name).1, team.name⟩ ∈ written.teams := by
  rw [teams_upsertTeam hWritten]
  exact mem_teams_ensureTeam_self store team.name

/-- A row after an upsert is the row of the team that was written, or was there before and belongs to
another team. -/
theorem mem_teams_upsertTeam_iff
    (hWritten : store.upsertTeam team = .ok written) (hOther : row.name ≠ team.name) :
    row ∈ written.teams ↔ row ∈ store.teams := by
  refine ⟨fun hRow => (mem_teams_upsertTeam hWritten hRow).resolve_right hOther, fun hRow => ?_⟩
  rw [teams_upsertTeam hWritten]
  exact mem_teams_ensureTeam _ hRow

/-- The memberships of every other team are those before the upsert. -/
theorem Consistent.membershipsOf_upsertTeam (h : store.Consistent)
    (hWritten : store.upsertTeam team = .ok written) (hRow : row ∈ store.teams)
    (hOther : row.name ≠ team.name) :
    written.membershipsOf row.number = store.membershipsOf row.number := by
  refine membershipsOf_upsertTeam_of_ne hWritten fun hSame => hOther ?_
  exact (h.ensureTeam_number_eq_iff hRow).1 hSame.symm

/-- The users of the memberships that an upsert writes, in order, are its members. -/
theorem filterMap_user?_numberedMembers {number : TeamNumber} {position : Nat} {members : List User}
    (hRecords : ∀ member ∈ members, store.user? member.id = some member) :
    ((numberedMembers number position members).filterMap fun membership =>
      store.user? membership.user) = members := by
  induction members generalizing position with
  | nil => rfl
  | cons member rest ih =>
    obtain ⟨hFirst, hRest⟩ := List.forall_mem_cons.1 hRecords
    rw [numberedMembers, List.filterMap_cons, hFirst, ih hRest]

/-- The positions of the memberships that an upsert writes are counted up. -/
theorem map_position_numberedMembers (number : TeamNumber) (position : Nat) (members : List User) :
    (numberedMembers number position members).map MembershipRow.position =
      List.range' position members.length := by
  induction members generalizing position with
  | nil => rfl
  | cons member rest ih => rw [numberedMembers, List.map_cons, ih, List.length_cons, List.range'_succ]

/-- A team is found by its name once the name is looked for to be written. -/
theorem teamNamed?_ensureTeam_self (store : Store) (name : TeamName) :
    (store.ensureTeam name).2.teamNamed? name = some ⟨(store.ensureTeam name).1, name⟩ := by
  rw [ensureTeam]
  cases hNamed : store.teamNamed? name with
  | some found =>
    obtain ⟨-, rfl⟩ := teamNamed?_some hNamed
    exact hNamed
  | none =>
    simp only
    rw [teamNamed?, List.find?_append, ← teamNamed?, hNamed, Option.none_or]
    simp

/-- The team that was written is shown as it was handed in, if its members are different. -/
theorem teamShown?_upsertTeam_self (hWritten : store.upsertTeam team = .ok written)
    (hDistinct : team.memberIds.Nodup) : written.teamShown? team.name = some team := by
  have hNamed : written.teamNamed? team.name = some ⟨(store.ensureTeam team.name).1, team.name⟩ := by
    rw [teamNamed?, teams_upsertTeam hWritten]
    exact teamNamed?_ensureTeam_self store team.name
  have hMembers : written.membersOf (store.ensureTeam team.name).1 = team.members := by
    have hRows : written.memberships.filter (fun row => row.team == (store.ensureTeam team.name).1) =
        numberedMembers (store.ensureTeam team.name).1 0 team.members :=
      membershipsOf_upsertTeam_self hWritten
    have hPositions : (numberedMembers (store.ensureTeam team.name).1 0 team.members).map
        MembershipRow.position = List.range
          (numberedMembers (store.ensureTeam team.name).1 0 team.members).length := by
      rw [← List.length_map MembershipRow.position, map_position_numberedMembers, List.length_range',
        List.range_eq_range']
    rw [membersOf, hRows, mergeSort_of_numbered hPositions]
    exact filterMap_user?_numberedMembers fun member hMember =>
      user?_upsertTeam_of_mem hWritten hDistinct hMember
  rw [teamShown?, hNamed, Option.map_some, teamOfRow, hMembers]

theorem Consistent.teamShown?_upsertTeam_self (h : store.Consistent)
    (hWritten : store.upsertTeam team = .ok written) :
    written.teamShown? team.name = some team :=
  Store.teamShown?_upsertTeam_self hWritten (h.of_upsertTeam hWritten).1

theorem Consistent.teamShown?_upsertTeam_of_ne (h : store.Consistent)
    (hWritten : store.upsertTeam team = .ok written) (hOther : name ≠ team.name) :
    written.teamShown? name = store.teamShown? name := by
  have hAfter := h.upsertTeam hWritten
  have hNamed : written.teamNamed? name = store.teamNamed? name := by
    refine Option.ext fun row => ?_
    rw [hAfter.teamNamed?_eq_some_iff, h.teamNamed?_eq_some_iff]
    refine and_congr_left fun hName => mem_teams_upsertTeam_iff hWritten ?_
    rw [hName]
    exact hOther
  rw [teamShown?, teamShown?, hNamed]
  cases hRow : store.teamNamed? name with
  | none => rfl
  | some row =>
    obtain ⟨hMem, hName⟩ := teamNamed?_some hRow
    rw [← hName] at hOther
    have hMembers : written.membersOf row.number = store.membersOf row.number := by
      rw [hAfter.membersOf_eq, h.membersOf_eq, h.membershipsOf_upsertTeam hWritten hMem hOther]
      -- A member of another team is not among the members of the upsert, and so keeps the record.
      refine List.filterMap_congr fun membership hMembership => ?_
      refine user?_upsertTeam_of_notMem hWritten fun hMember => hOther ?_
      refine (h.of_upsertTeam hWritten).2 _ hMember row (h.teamOf?_eq_some_iff.2 ⟨hMem, ?_⟩)
      exact List.mem_map_of_mem hMembership
    rw [Option.map_some, Option.map_some, teamOfRow, teamOfRow, hMembers]

/-- **Which teams are shown after an upsert.** -/
theorem Consistent.teamShown?_upsertTeam (h : store.Consistent)
    (hWritten : store.upsertTeam team = .ok written) (name : TeamName) :
    written.teamShown? name = if name = team.name then some team else store.teamShown? name := by
  split
  · next hName =>
    rw [hName]
    exact h.teamShown?_upsertTeam_self hWritten
  · next hOther => exact h.teamShown?_upsertTeam_of_ne hWritten hOther

/-- A member of an upsert belongs to the team that was written. -/
theorem Consistent.teamOf?_upsertTeam_of_mem (h : store.Consistent)
    (hWritten : store.upsertTeam team = .ok written) (hMember : user ∈ team.memberIds) :
    written.teamOf? user = some ⟨(store.ensureTeam team.name).1, team.name⟩ := by
  refine (h.upsertTeam hWritten).teamOf?_eq_some_iff.2 ⟨mem_teams_upsertTeam_self hWritten, ?_⟩
  rw [membershipsOf_upsertTeam_self hWritten, map_user_numberedMembers]
  exact hMember

/-- Whoever is not a member belongs to a team as before, but no more to the one that was written. -/
theorem Consistent.teamOf?_upsertTeam_of_notMem_iff (h : store.Consistent)
    (hWritten : store.upsertTeam team = .ok written) (hOut : user ∉ team.memberIds) :
    written.teamOf? user = some row ↔ store.teamOf? user = some row ∧ row.name ≠ team.name := by
  have hAfter := h.upsertTeam hWritten
  rw [hAfter.teamOf?_eq_some_iff, h.teamOf?_eq_some_iff]
  constructor
  · rintro ⟨hRow, hUser⟩
    have hOther : row.name ≠ team.name := by
      intro hName
      have hSame : row = ⟨(store.ensureTeam team.name).1, team.name⟩ :=
        List.inj_on_of_nodup_map hAfter.teamNames hRow (mem_teams_upsertTeam_self hWritten) hName
      rw [hSame, membershipsOf_upsertTeam_self hWritten, map_user_numberedMembers] at hUser
      exact hOut hUser
    have hOld := (mem_teams_upsertTeam_iff hWritten hOther).1 hRow
    rw [h.membershipsOf_upsertTeam hWritten hOld hOther] at hUser
    exact ⟨⟨hOld, hUser⟩, hOther⟩
  · rintro ⟨⟨hRow, hUser⟩, hOther⟩
    refine ⟨(mem_teams_upsertTeam_iff hWritten hOther).2 hRow, ?_⟩
    rw [h.membershipsOf_upsertTeam hWritten hRow hOther]
    exact hUser

/-- **Which team a user belongs to after an upsert**: its members to its team, and nobody else. -/
theorem Consistent.teamNameOf?_upsertTeam (h : store.Consistent)
    (hWritten : store.upsertTeam team = .ok written) (user : UserId) :
    written.teamNameOf? user =
      if user ∈ team.memberIds then some team.name
      else (store.teamNameOf? user).filter fun name => name != team.name := by
  split
  · next hMember => rw [teamNameOf?, h.teamOf?_upsertTeam_of_mem hWritten hMember, Option.map_some]
  · next hOut =>
    refine Option.ext fun name => ?_
    rw [Option.filter_eq_some_iff, teamNameOf?, teamNameOf?, Option.map_eq_some_iff,
      Option.map_eq_some_iff]
    simp only [h.teamOf?_upsertTeam_of_notMem_iff hWritten hOut, bne_iff_ne]
    constructor
    · rintro ⟨row, ⟨hTeam, hOther⟩, rfl⟩
      exact ⟨⟨row, hTeam, rfl⟩, hOther⟩
    · rintro ⟨⟨row, hTeam, rfl⟩, hOther⟩
      exact ⟨row, ⟨hTeam, hOther⟩, rfl⟩

/-! ### All calls -/

/-- The activity switch shows in the records of the members, and in nothing else. -/
theorem teamShown?_setActive (store : Store) (id : UserId) (active : Bool) (name : TeamName) :
    (store.setActive id active).2.teamShown? name = (store.teamShown? name).map fun team =>
      { team with members := team.members.map fun old =>
          if old.id = id then { old with active } else old } := by
  have hNamed : (store.setActive id active).2.teamNamed? name = store.teamNamed? name := by
    rw [setActive_eq]
    rfl
  have hMemberships : (store.setActive id active).2.memberships = store.memberships := by
    rw [setActive_eq]
  rw [teamShown?, teamShown?, hNamed, Option.map_map]
  congr 1
  funext row
  simp only [Function.comp_apply, teamOfRow, membersOf, hMemberships, List.map_filterMap,
    user?_setActive]

/-- **How a team that is shown changes**: by an upsert under its name, or by the activity switch of a
member. -/
theorem Effect.teamShown? {call : Call} (h : store.Effect call written) (hStore : store.Consistent)
    (name : TeamName) :
    written.teamShown? name = store.teamShown? name ∨
      (∃ team, call = .upsertTeam team ∧ team.name = name ∧ store.upsertTeam team = .ok written) ∨
      ∃ user active team, call = .setActive user active ∧
        written = (store.setActive user active).2 ∧ store.teamShown? name = some team ∧
        user ∈ team.memberIds := by
  cases h with
  | @upsertTeam team _ hWritten =>
    by_cases hName : name = team.name
    · exact .inr (.inl ⟨team, rfl, hName.symm, hWritten⟩)
    · exact .inl (hStore.teamShown?_upsertTeam_of_ne hWritten hName)
  | @setActive user active =>
    cases hTeam : store.teamShown? name with
    | none =>
      left
      rw [teamShown?_setActive, hTeam, Option.map_none]
    | some team =>
      by_cases hUser : user ∈ team.memberIds
      · exact .inr (.inr ⟨user, active, team, rfl, rfl, rfl, hUser⟩)
      · left
        have hMembers : (team.members.map fun old =>
            if old.id = user then { old with active } else old) = team.members := by
          refine (List.map_congr_left (g := id) fun old hOld => if_neg fun hId => ?_).trans
            (List.map_id _)
          exact hUser (List.mem_map.2 ⟨old, hOld, hId⟩)
        rw [teamShown?_setActive, hTeam, Option.map_some, hMembers]
  | insertPullRequest hWritten =>
    obtain ⟨-, -, rfl⟩ := insertPullRequest_eq_ok hWritten
    exact .inl rfl
  | _ => exact .inl rfl

/-! ### Stores that show the same roster -/

/-- Two stores show the same roster, whatever numbers they give to their teams. -/
structure SameRoster (store other : Store) : Prop where
  users : ∀ id, store.user? id = other.user? id
  teams : ∀ name, store.teamShown? name = other.teamShown? name
  teamNames : ∀ user, store.teamNameOf? user = other.teamNameOf? user

/-- **Nobody is in two upserts** of different teams when the second is accepted after the first. -/
theorem Consistent.notMem_of_upserted {first second : Team} (h : store.Consistent)
    (hNames : first.name ≠ second.name) (hFirst : store.upsertTeam first = .ok written)
    (hSecond : written.upsertTeam second = .ok other) (hUser : user ∈ first.memberIds) :
    user ∉ second.memberIds := by
  intro hMember
  have hTeam := h.teamOf?_upsertTeam_of_mem hFirst hUser
  exact hNames (((h.upsertTeam hFirst).of_upsertTeam hSecond).2 user hMember _ hTeam)

/-- **Upserts of different teams, in either order,** leave stores that show the same roster. -/
theorem Consistent.sameRoster_upserts {first second : Team} {firstLeft secondLeft one two : Store}
    (h : store.Consistent) (hNames : first.name ≠ second.name)
    (hFirst : store.upsertTeam first = .ok firstLeft) (hOne : firstLeft.upsertTeam second = .ok one)
    (hSecond : store.upsertTeam second = .ok secondLeft)
    (hTwo : secondLeft.upsertTeam first = .ok two) : one.SameRoster two := by
  have hFirstLeft := h.upsertTeam hFirst
  have hSecondLeft := h.upsertTeam hSecond
  have hApart : ∀ user ∈ first.memberIds, user ∉ second.memberIds := fun user =>
    h.notMem_of_upserted hNames hFirst hOne
  refine ⟨fun id => ?_, fun name => ?_, fun user => ?_⟩
  · rw [hFirstLeft.user?_upsertTeam hOne, h.user?_upsertTeam hFirst, hSecondLeft.user?_upsertTeam hTwo,
      h.user?_upsertTeam hSecond]
    by_cases hId : id ∈ first.memberIds
    · rw [Team.member?_eq_none_iff.2 (hApart id hId), Option.none_or, Option.none_or]
    · rw [Team.member?_eq_none_iff.2 hId, Option.none_or, Option.none_or]
  · rw [hFirstLeft.teamShown?_upsertTeam hOne, h.teamShown?_upsertTeam hFirst,
      hSecondLeft.teamShown?_upsertTeam hTwo, h.teamShown?_upsertTeam hSecond]
    by_cases hName : name = first.name
    · subst hName
      simp [hNames]
    · simp [hName]
  · rw [hFirstLeft.teamNameOf?_upsertTeam hOne, h.teamNameOf?_upsertTeam hFirst,
      hSecondLeft.teamNameOf?_upsertTeam hTwo, h.teamNameOf?_upsertTeam hSecond]
    by_cases hUser : user ∈ first.memberIds
    · simp [hUser, hApart user hUser, hNames]
    · by_cases hOther : user ∈ second.memberIds
      · simp [hUser, hOther, Option.filter_some, hNames.symm]
      · simp [hUser, hOther, Option.filter_filter, Bool.and_comm]

/-- **An upsert that is made once more** is accepted, and leaves a store that shows the same roster. -/
theorem Consistent.exists_upserted_again (h : store.Consistent)
    (hWritten : store.upsertTeam team = .ok written) :
    ∃ again, written.upsertTeam team = .ok again ∧ again.SameRoster written := by
  have hAfter := h.upsertTeam hWritten
  have hDistinct := (h.of_upsertTeam hWritten).1
  have hFree : written.Unattached team := by
    intro user hUser row hTeam
    rw [h.teamOf?_upsertTeam_of_mem hWritten hUser, Option.some.injEq] at hTeam
    rw [← hTeam]
  obtain ⟨again, hAgain⟩ := hAfter.exists_upsertTeam_iff.2 ⟨hDistinct, hFree⟩
  refine ⟨again, hAgain, fun id => ?_, fun name => ?_, fun user => ?_⟩
  · rw [hAfter.user?_upsertTeam hAgain, h.user?_upsertTeam hWritten, ← Option.or_assoc, Option.or_self]
  · rw [hAfter.teamShown?_upsertTeam hAgain, h.teamShown?_upsertTeam hWritten]
    split <;> rfl
  · rw [hAfter.teamNameOf?_upsertTeam hAgain, h.teamNameOf?_upsertTeam hWritten]
    split
    · rfl
    · rw [Option.filter_filter]
      simp

end Store

end ReviewAssignment
