import ReviewAssignment.Proofs.Alone
import ReviewAssignment.Proofs.Interleaving.Lawful
import ReviewAssignment.Proofs.Store.Membership

/-!
# What the lookups show

A team can be looked up by its name and by one of its members, and a user's profile names the user's
team.  Each of the three goes its own way through the tables.  `Service.views_agree` says that in every
store the service comes to they tell the same story, and that a user who has once been found is found
for good.

Each lookup refuses a blank key, asks the store and complains if nothing is found; `Operation.lookedUp`
is what they have in common.  In a sound store they come from the rows as `Store.Sound.teamByName_iff`,
`Store.Sound.teamByMember_iff` and `Store.Sound.profile_iff` say.
-/

namespace ReviewAssignment

variable {α β : Type}

def Store.profileOf (store : Store) (user : User) : Profile :=
  ⟨user, ((store.teamOf? user.id).map TeamRow.name).getD ""⟩

/-! ### The lookups without company -/

namespace Operation

open Program

/-- What a lookup comes to, by its key and by what the store has found for it. -/
def lookedUp (key field : String) (missing : Failure) (found : Option α) : Except Failure α :=
  if Text.isBlank key then .error (.validation (field ++ " must not be empty") (some field))
  else found.elim (.error missing) .ok

variable {key field : String} {missing : Failure} {found : Option α}

theorem map_lookedUp_eq_ok_iff {wrap : α → β} (hWrap : Function.Injective wrap) {result : α} :
    (lookedUp key field missing found).map wrap = .ok (wrap result) ↔
      Text.isBlank key = false ∧ found = some result := by
  rw [lookedUp]
  cases Text.isBlank key with
  | true => simp [Except.map]
  | false =>
    cases found with
    | none => simp [Except.map]
    | some other => simp [Except.map, hWrap.eq_iff]

theorem map_lookedUp_eq_missing_iff {wrap : α → β}
    (hMissing : missing ≠ .validation (field ++ " must not be empty") (some field)) :
    (lookedUp key field missing found).map wrap = .error missing ↔
      Text.isBlank key = false ∧ found = none := by
  rw [lookedUp]
  cases Text.isBlank key with
  | true => simp [Except.map, hMissing.symm]
  | false => cases found <;> simp [Except.map]

variable {outside : Surroundings} {session : Session}

theorem reached_teamByName (name : TeamName) :
    (teamByName name).reached outside session =
      (Program.ofExcept (lookedUp name "team_name" (Failure.notFound "Team" (some name))
        ((session.store.teamNamed? name).map session.store.teamOfRow)), session) := by
  rw [teamByName, require_eq, lookedUp]
  split
  · rfl
  · change ((ask (.teamNamed name) >>= _).reached outside session) = _
    rw [reached_read_bind rfl, reached_bind, reached_readTeam]
    exact reached_ofOption _

theorem reached_teamByMember (user : UserId) :
    (teamByMember user).reached outside session =
      (Program.ofExcept (lookedUp user "user_id" (Failure.notFound "Team for user" (some user))
        ((session.store.teamOf? user).map session.store.teamOfRow)), session) := by
  rw [teamByMember, require_eq, lookedUp]
  split
  · rfl
  · change ((readTeamOf user >>= _).reached outside session) = _
    rw [reached_bind, reached_readTeamOf]
    exact reached_ofOption _

theorem reached_profile (hStore : session.store.Consistent) (user : UserId) :
    (profile user).reached outside session =
      (Program.ofExcept (lookedUp user "user_id" (Failure.notFound "User" (some user))
        ((session.store.user? user).map session.store.profileOf)), session) := by
  rw [profile, require_eq, lookedUp]
  split
  · rfl
  · change ((loadUser user >>= _).reached outside session) = _
    rw [reached_bind, reached_loadUser]
    cases session.store.user? user with
    | none => rfl
    | some record =>
      change (Program.done (⟨record, (List.lookup record.id
        (session.store.teamNames [record.id])).getD ""⟩ : Profile), session) = _
      rw [hStore.lookup_teamNames (List.mem_singleton_self record.id)]
      rfl

end Operation

/-! ### The lookups and the rows -/

namespace Store.Sound

open Operation

variable {store : Store} {settings : Settings} {outside : Program.Surroundings} {draws readings : Nat}
  {name : TeamName} {user : UserId}

/-- **A team is found by its name** as its row and its members have it. -/
theorem teamByName_iff (h : store.Sound) {team : Team} :
    (((Request.teamByName name).program settings).run outside ⟨store, draws, readings⟩).1 =
        .ok (.team team) ↔
      ∃ row ∈ store.teams, row.name = name ∧ store.teamOfRow row = team := by
  change (((teamByName name).answering Reply.team _).run outside _).1 = _ ↔ _
  rw [(Program.run_answering _ _ (reached_teamByName name)).1,
    map_lookedUp_eq_ok_iff fun _ _ => Reply.team.inj, Option.map_eq_some_iff]
  constructor
  · rintro ⟨-, row, hRow, hTeam⟩
    obtain ⟨hMem, hName⟩ := teamNamed?_some hRow
    exact ⟨row, hMem, hName, hTeam⟩
  · rintro ⟨row, hMem, rfl, hTeam⟩
    exact ⟨h.teamsNamed row hMem, row, h.toConsistent.teamNamed?_eq_some_iff.2 ⟨hMem, rfl⟩, hTeam⟩

/-- **A team is found by a member** as the row found for the member and its members have it. -/
theorem teamByMember_iff (h : store.Sound) {team : Team} :
    (((Request.teamByMember user).program settings).run outside ⟨store, draws, readings⟩).1 =
        .ok (.team team) ↔
      ∃ row, store.teamOf? user = some row ∧ store.teamOfRow row = team := by
  change (((teamByMember user).answering Reply.team _).run outside _).1 = _ ↔ _
  rw [(Program.run_answering _ _ (reached_teamByMember user)).1,
    map_lookedUp_eq_ok_iff fun _ _ => Reply.team.inj, Option.map_eq_some_iff]
  refine ⟨And.right, fun hFound => ⟨?_, hFound⟩⟩
  obtain ⟨row, hRow, -⟩ := hFound
  exact h.usersNamed user (h.toConsistent.hasUser_of_teamOf? hRow)

/-- A user has no team to be found exactly when no row is found for the user. -/
theorem teamByMember_missing_iff (h : store.Sound) (hUser : store.hasUser user = true) :
    (((Request.teamByMember user).program settings).run outside ⟨store, draws, readings⟩).1 =
        .error (.notFound "Team for user" (some user)) ↔
      store.teamOf? user = none := by
  have hOther : Failure.notFound "Team for user" (some user) ≠
      .validation ("user_id" ++ " must not be empty") (some "user_id") := nofun
  change (((teamByMember user).answering Reply.team _).run outside _).1 = _ ↔ _
  rw [(Program.run_answering _ _ (reached_teamByMember user)).1,
    map_lookedUp_eq_missing_iff hOther, Option.map_eq_none_iff]
  exact ⟨And.right, fun hNone => ⟨h.usersNamed user hUser, hNone⟩⟩

/-- **A profile** shows the record of the user and the team found for the user. -/
theorem profile_iff (h : store.Sound) {shown : Profile} :
    (((Request.profile user).program settings).run outside ⟨store, draws, readings⟩).1 =
        .ok (.profile shown) ↔
      ∃ record, store.user? user = some record ∧ store.profileOf record = shown := by
  change (((profile user).answering Reply.profile _).run outside _).1 = _ ↔ _
  rw [(Program.run_answering _ _ (reached_profile h.toConsistent user)).1,
    map_lookedUp_eq_ok_iff fun _ _ => Reply.profile.inj, Option.map_eq_some_iff]
  refine ⟨And.right, fun hFound => ⟨?_, hFound⟩⟩
  obtain ⟨record, hRecord, -⟩ := hFound
  exact h.usersNamed user (hasUser_iff_exists.2 ⟨record, hRecord⟩)

/-- Who is listed in a team that is found by its name, is listed in the team found by the user. -/
theorem listed_iff (h : store.Sound) {team : Team} :
    (∃ row ∈ store.teams, row.name = name ∧ store.teamOfRow row = team) ∧ user ∈ team.memberIds ↔
      ∃ row, store.teamOf? user = some row ∧ row.name = name ∧ store.teamOfRow row = team := by
  constructor
  · rintro ⟨⟨row, hRow, hName, rfl⟩, hUser⟩
    exact ⟨row, (h.toConsistent.mem_memberIds_iff hRow).1 hUser, hName, rfl⟩
  · rintro ⟨row, hTeam, hName, rfl⟩
    have hRow := (h.toConsistent.teamOf?_eq_some_iff.1 hTeam).1
    exact ⟨⟨row, hRow, hName, rfl⟩, (h.toConsistent.mem_memberIds_iff hRow).2 hTeam⟩

theorem exists_profile (h : store.Sound) (hUser : store.hasUser user = true) :
    ∃ shown, (((Request.profile user).program settings).run outside ⟨store, draws, readings⟩).1 =
      .ok (.profile shown) := by
  obtain ⟨record, hRecord⟩ := hasUser_iff_exists.1 hUser
  exact ⟨_, h.profile_iff.2 ⟨record, hRecord, rfl⟩⟩

/-- A profile names no team exactly when none is found for the user: no team has an empty name. -/
theorem teamName_profileOf_eq_empty_iff (h : store.Sound) {record : User} :
    (store.profileOf record).teamName = "" ↔ store.teamOf? record.id = none := by
  rw [profileOf]
  cases hRow : store.teamOf? record.id with
  | none => simp
  | some row =>
    have hNamed := h.teamsNamed row (h.toConsistent.teamOf?_eq_some_iff.1 hRow).1
    have hName : row.name ≠ "" := fun hEmpty => by
      rw [hEmpty, Text.isBlank_empty] at hNamed
      cases hNamed
    simp [hName]

/-- A profile names a team exactly when the team found for the user has that name. -/
theorem profile_named_iff (h : store.Sound) (hName : Text.isBlank name = false) :
    (∃ record, (((Request.profile user).program settings).run outside ⟨store, draws, readings⟩).1 =
        .ok (.profile ⟨record, name⟩)) ↔
      ∃ row, store.teamOf? user = some row ∧ row.name = name := by
  simp only [h.profile_iff]
  constructor
  · rintro ⟨record, found, hFound, hShown⟩
    have hTeamName : (store.profileOf found).teamName = name := congrArg Profile.teamName hShown
    rw [profileOf, (user?_some hFound).2] at hTeamName
    cases hRow : store.teamOf? user with
    | none =>
      -- A profile without a team names the empty text, which is blank.
      rw [hRow] at hTeamName
      rw [← hTeamName] at hName
      cases hName.symm.trans Text.isBlank_empty
    | some row =>
      rw [hRow] at hTeamName
      exact ⟨row, rfl, hTeamName⟩
  · rintro ⟨row, hRow, rfl⟩
    obtain ⟨record, hRecord⟩ := hasUser_iff_exists.1 (h.toConsistent.hasUser_of_teamOf? hRow)
    refine ⟨record, record, hRecord, ?_⟩
    rw [profileOf, (user?_some hRecord).2, hRow]
    rfl

end Store.Sound

/-! ### All views together -/

/-- How the views of the membership agree, by what the requests are answered and what they are answered
later on.

* A team that is found by its name has this name, and lists nobody twice.
* A user is listed in a team, as it is found by its name, exactly when this very team is found by the
  user, and exactly when the user's profile names it.
* The record listed in a team is the one that the profile of the member shows.
* A profile names no team exactly when none is found by the user.
* The author and every reviewer of every pull request have a profile.
* Who has a profile has one later on. -/
structure Store.ViewsAgree (store : Store) (answer later : Request → Except Failure Reply) : Prop where
  named : ∀ name team, answer (.teamByName name) = .ok (.team team) →
    team.name = name ∧ team.memberIds.Nodup
  byMember : ∀ user team, answer (.teamByName team.name) = .ok (.team team) ∧ user ∈ team.memberIds ↔
    answer (.teamByMember user) = .ok (.team team)
  byProfile : ∀ user name, Text.isBlank name = false →
    ((∃ team, answer (.teamByName name) = .ok (.team team) ∧ user ∈ team.memberIds) ↔
      ∃ record, answer (.profile user) = .ok (.profile ⟨record, name⟩))
  records : ∀ name team, answer (.teamByName name) = .ok (.team team) → ∀ member ∈ team.members,
    answer (.profile member.id) = .ok (.profile ⟨member, name⟩)
  teamless : ∀ user shown, answer (.profile user) = .ok (.profile shown) →
    (shown.teamName = "" ↔
      answer (.teamByMember user) = .error (.notFound "Team for user" (some user)))
  known : ∀ id pr, store.pullRequest? id = .ok (some pr) →
    ∀ user, user = pr.author ∨ user ∈ pr.reviewers.reviewers →
      ∃ shown, answer (.profile user) = .ok (.profile shown)
  lasting : ∀ user shown, answer (.profile user) = .ok (.profile shown) →
    ∃ again, later (.profile user) = .ok (.profile again)

/-- **The views of the membership agree** in every store that the service comes to, and who has a profile
has one at every later point of the run. -/
theorem Service.views_agree (before after : List Action) (settings : Settings)
    (outside : Program.Surroundings) (draws readings : Nat) :
    let ask := fun (actions : List Action) (request : Request) =>
      ((request.program settings).run outside ⟨(run actions).store, draws, readings⟩).1
    (run before).store.ViewsAgree (ask before) (ask (before ++ after)) := by
  intro ask
  have h := (lawful_run before).sound
  refine ⟨fun name team hTeam => ?_, fun user team => ?_, fun user name hName => ?_,
    fun name team hTeam member hMember => ?_, fun user shown hShown => ?_,
    fun id pr hStored user hUser => ?_, fun user shown hShown => ?_⟩
  · obtain ⟨row, -, hName, rfl⟩ := h.teamByName_iff.1 hTeam
    exact ⟨hName, h.toConsistent.nodup_memberIds row⟩
  · rw [h.teamByName_iff, h.teamByMember_iff, h.listed_iff]
    constructor
    · rintro ⟨row, hRow, -, hTeam⟩
      exact ⟨row, hRow, hTeam⟩
    · rintro ⟨row, hRow, rfl⟩
      exact ⟨row, hRow, rfl, rfl⟩
  · rw [h.profile_named_iff hName]
    simp only [ask, h.teamByName_iff, h.listed_iff]
    constructor
    · rintro ⟨-, row, hRow, hSame, -⟩
      exact ⟨row, hRow, hSame⟩
    · rintro ⟨row, hRow, hSame⟩
      exact ⟨_, row, hRow, hSame, rfl⟩
  · obtain ⟨row, hRow, rfl, rfl⟩ := h.teamByName_iff.1 hTeam
    refine h.profile_iff.2 ⟨member, Store.user?_of_mem_membersOf hMember, ?_⟩
    rw [Store.profileOf, (h.toConsistent.mem_memberIds_iff hRow).1 (List.mem_map_of_mem hMember)]
    rfl
  · obtain ⟨record, hRecord, rfl⟩ := h.profile_iff.1 hShown
    rw [h.teamName_profileOf_eq_empty_iff, (Store.user?_some hRecord).2,
      h.teamByMember_missing_iff (Store.hasUser_iff_exists.2 ⟨record, hRecord⟩)]
  · exact h.exists_profile (h.toConsistent.hasUser_of_stored hStored hUser)
  · obtain ⟨record, hRecord, -⟩ := h.profile_iff.1 hShown
    refine (lawful_run (before ++ after)).sound.exists_profile ?_
    exact (leads_run before after).evolves.users user (Store.hasUser_iff_exists.2 ⟨record, hRecord⟩)

end ReviewAssignment
