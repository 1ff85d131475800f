import ReviewAssignment.Proofs.Alone.TeamUpserts

/-!
# What an accepted upsert changes

An upsert that is accepted shows from then on as it was handed in: the team lists its members as they came,
and each of them has the record that came and this team.  Whoever was in the team and is left out has no
team.  All else stays: the records of everybody who is not named, every other team, every pull request,
list and report (`Service.upsert_effect`).

How long the team is shown like this is a matter of all clients.  `Service.teamShown?_step` says what one
step can do to a team: nothing, unless it is the write of a client who upserts a team of the same name or
switches a member.  So a team that was shown is shown until there is such a step (`Service.teamShown?_run`).
-/

namespace ReviewAssignment

open Program Operation
open Store (Call)

namespace Store

variable {store written : Store} {team : Team} {user : UserId}

theorem Consistent.reviewsOf_eq_nil (h : store.Consistent) (hUnknown : store.user? user = none) :
    store.reviewsOf user = [] := by
  have hNobody : ¬store.hasUser user = true := by
    rw [hasUser_iff_exists, hUnknown]
    rintro ⟨record, ⟨⟩⟩
  have hSlots : (store.slots.filter fun row => row.reviewer == user) = [] := by
    refine List.filter_eq_nil_iff.2 fun row hRow hUser => hNobody ?_
    rw [← beq_iff_eq.1 hUser]
    exact (h.slots row hRow).2
  rw [reviewsOf, hSlots, List.filterMap_nil, List.mergeSort_nil, List.map_nil]

/-- Which team a profile names after an upsert: the team that was written for its members, and for
everybody else the team that the profile named before, unless it is the one that was written. -/
theorem Consistent.profileOf_upsertTeam (h : store.Consistent)
    (hWritten : store.upsertTeam team = .ok written) (record : User) :
    written.profileOf record =
      ⟨record, if record.id ∈ team.memberIds then team.name
        else if (store.profileOf record).teamName = team.name then ""
        else (store.profileOf record).teamName⟩ := by
  change (⟨record, (written.teamNameOf? record.id).getD ""⟩ : Profile) =
    ⟨record, if record.id ∈ team.memberIds then team.name
      else if (store.teamNameOf? record.id).getD "" = team.name then ""
      else (store.teamNameOf? record.id).getD ""⟩
  rw [h.teamNameOf?_upsertTeam hWritten]
  split
  · rfl
  · cases store.teamNameOf? record.id with
    | none => simp
    | some name =>
      rw [Option.getD_some, Option.filter_some]
      by_cases hSame : name = team.name <;> simp [hSame]

end Store

namespace Request

variable {settings : Settings} {outside : Surroundings} {draws readings : Nat} {store written : Store}
  {team : Team}

/-- The list of a user stays, or it is the empty list of a user who came with the upsert. -/
theorem reviews_upserted (h : store.Consistent) (hWritten : store.upsertTeam team = .ok written)
    (hNamed : ∀ member ∈ team.members, Text.isBlank member.id = false) (user : UserId) :
    (((reviews user).program settings).run outside ⟨written, draws, readings⟩).1 =
        (((reviews user).program settings).run outside ⟨store, draws, readings⟩).1 ∨
      store.user? user = none ∧ user ∈ team.memberIds ∧
        (((reviews user).program settings).run outside ⟨written, draws, readings⟩).1 =
          .ok (.reviews []) := by
  rw [run_reviews, run_reviews]
  simp only [(Store.rosterOnly_upsertTeam hWritten).reviewsOf]
  by_cases hMember : user ∈ team.memberIds
  · obtain ⟨member, hMem, rfl⟩ := List.mem_map.1 hMember
    rw [Store.user?_upsertTeam_of_mem hWritten (h.of_upsertTeam hWritten).1 hMem]
    cases hUser : store.user? member.id with
    | none =>
      rw [h.reviewsOf_eq_nil hUser, Option.map_some, lookedUp_some (hNamed member hMem)]
      exact .inr ⟨rfl, hMember, rfl⟩
    | some record => exact .inl rfl
  · rw [Store.user?_upsertTeam_of_notMem hWritten hMember]
    exact .inl rfl

/-- Who is left out of a team has no team, and the same record as before. -/
theorem left_out (h : store.Sound) (hLeft : written.Sound) (hWritten : store.upsertTeam team = .ok written)
    {former : Team} (hFormer : store.teamShown? team.name = some former) {member : User}
    (hMember : member ∈ former.members) (hOut : member.id ∉ team.memberIds) :
    (((profile member.id).program settings).run outside ⟨written, draws, readings⟩).1 =
        .ok (.profile ⟨member, ""⟩) ∧
      (((teamByMember member.id).program settings).run outside ⟨written, draws, readings⟩).1 =
        .error (.notFound "Team for user" (some member.id)) := by
  obtain ⟨hUser, hName⟩ := h.toConsistent.of_mem_teamShown? hFormer hMember
  have hKept : written.user? member.id = some member :=
    (Store.user?_upsertTeam_of_notMem hWritten hOut).trans hUser
  have hNone : written.teamNameOf? member.id = none := by
    rw [h.toConsistent.teamNameOf?_upsertTeam hWritten, if_neg hOut, hName]
    simp [Option.filter_some]
  constructor
  · refine hLeft.profile_iff.2 ⟨member, hKept, ?_⟩
    exact congrArg (fun name : Option TeamName => (⟨member, name.getD ""⟩ : Profile)) hNone
  · have hThere : written.hasUser member.id = true := Store.hasUser_iff_exists.2 ⟨member, hKept⟩
    exact (hLeft.teamByMember_missing_iff hThere).2 (Option.map_eq_none_iff.1 hNone)

end Request

/-! ### Steps -/

namespace Request

variable {settings : Settings} {deeds : List Move} {request : Request}

theorem eq_of_writes_roster {call : Call} (h : request.Writes settings deeds call) :
    (∀ team, call = .upsertTeam team → request = .upsertTeam team) ∧
      ∀ user active, call = .setActive user active → request = .setActive user active := by
  cases request with
  | upsertTeam team =>
    obtain ⟨-, rfl⟩ := h
    exact ⟨fun other hSame => congrArg Request.upsertTeam (Call.upsertTeam.inj hSame), nofun⟩
  | setActive user active =>
    obtain ⟨-, rfl⟩ := h
    refine ⟨nofun, fun other switched hSame => ?_⟩
    obtain ⟨rfl, rfl⟩ := Call.setActive.inj hSame
    rfl
  | create =>
    obtain ⟨_, _, -, -, rfl⟩ := h
    exact ⟨nofun, nofun⟩
  | merge =>
    obtain ⟨_, -, rfl⟩ := h
    exact ⟨nofun, nofun⟩
  | reassign =>
    obtain ⟨-, _, rfl⟩ := h
    exact ⟨nofun, nofun⟩
  | _ => cases h

end Request

namespace Service

/-- Nothing of the history is ever lost. -/
theorem mem_history_run {before : List Action} {event : Event} (after : List Action)
    (hEvent : event ∈ (run before).history) : event ∈ (run (before ++ after)).history := by
  induction after using List.reverseRecOn with
  | nil =>
    rw [List.append_nil]
    exact hEvent
  | append_singleton after action ih =>
    rw [← List.append_assoc, run_concat]
    rcases (run (before ++ after)).step_cases action with hIdle | hEnter | hMove
    · rw [hIdle]
      exact ih
    · obtain ⟨settings, request, -, hStep⟩ := hEnter
      rw [hStep]
      exact ih
    · obtain ⟨client, raw, moment, actor, move, rest, -, -, -, hStep⟩ := hMove
      rw [hStep]
      exact List.mem_append_left _ ih

/-- A step writes to the team with a name.  A client takes it who upserts a team with this name, and
the store takes the team; or a client who switches the activity of a user listed in the team.  However
the run goes on, the client is not answered with a failure. -/
def WritesTeam (before : List Action) (action : Action) (name : TeamName) : Prop :=
  ∃ client actor, (run before).clients[client]? = some actor ∧ action.advances client = true ∧
    ((∃ team, actor.request = .upsertTeam team ∧ team.name = name ∧
        (run before).store.upsertTeam team = .ok (run (before ++ [action])).store) ∨
      ∃ user active team, actor.request = .setActive user active ∧
        (run before).store.teamShown? name = some team ∧ user ∈ team.memberIds ∧
        (run (before ++ [action])).store = ((run before).store.setActive user active).2) ∧
    ∀ after cause, (run (before ++ action :: after)).outcome? client ≠ some (.error cause)

/-- Whose write takes effect is not answered with a failure. -/
theorem not_failed_of_applied {before : List Action} {client raw : Nat} {moment : Time.Instant}
    {actor : Client} {call : Call} {rest : Program Reply}
    (hActor : (run before).clients[client]? = some actor)
    (hNext : actor.rest.next? (run before).store raw moment = some (.asked call (run before).store, rest))
    (hApplied : call.applied ((run before).store.perform call).1 = true) (after : List Action)
    (cause : Failure) :
    (run (before ++ .advance client raw moment :: after)).outcome? client ≠ some (.error cause) := by
  intro hOutcome
  have hEvent : ⟨client, .asked call (run before).store⟩ ∈
      (run (before ++ [.advance client raw moment])).history := by
    rw [run_concat, step_of_next? hActor hNext]
    exact List.mem_append_right _ (List.mem_singleton_self _)
  have hKept := mem_history_run after hEvent
  rw [List.append_assoc] at hKept
  exact Bool.eq_false_iff.1 (not_applied_of_failed hKept hOutcome) hApplied

/-- **What a step can do to a team**: leave it as it is shown, or write to it. -/
theorem teamShown?_step (before : List Action) (action : Action) (name : TeamName) :
    (run (before ++ [action])).store.teamShown? name = (run before).store.teamShown? name ∨
      WritesTeam before action name := by
  have hLawful := lawful_run before
  have hStore := hLawful.sound.toConsistent
  rcases (run before).step_cases action with hIdle | hEnter | hMove
  · left
    rw [run_concat, hIdle]
  · obtain ⟨settings, request, -, hStep⟩ := hEnter
    left
    rw [run_concat, hStep]
    rfl
  · obtain ⟨client, raw, moment, actor, move, rest, rfl, hActor, hNext, hStep⟩ := hMove
    have hAfter : (run (before ++ [.advance client raw moment])).store =
        move.after (run before).store := by
      rw [run_concat, hStep]
      rfl
    cases move with
    | asked call found =>
      obtain rfl := found_of_next? hNext
      have hAllowed := ((hLawful.abides client actor hActor).next hStore.leads_refl hNext).1
      rw [hAfter]
      rcases (hStore.effect_perform call).teamShown? hStore name with hSame | hUpsert | hSwitch
      · exact .inl hSame
      · obtain ⟨team, rfl, hName, hWritten⟩ := hUpsert
        have hRequest := (Request.eq_of_writes_roster (hAllowed rfl).2).1 team rfl
        refine .inr ⟨client, actor, hActor, Action.advances_self .., .inl ⟨team, hRequest, hName, ?_⟩, ?_⟩
        · rw [hAfter]
          exact hWritten
        · refine not_failed_of_applied hActor hNext ?_
          rw [Store.perform, hWritten]
          rfl
      · obtain ⟨user, active, team, rfl, hWritten, hTeam, hUser⟩ := hSwitch
        have hRequest := (Request.eq_of_writes_roster (hAllowed rfl).2).2 user active rfl
        refine .inr ⟨client, actor, hActor, Action.advances_self ..,
          .inr ⟨user, active, team, hRequest, hTeam, hUser, ?_⟩, ?_⟩
        · rw [hAfter]
          exact hWritten
        · refine not_failed_of_applied hActor hNext ?_
          rw [Store.perform, Store.setActive_eq]
          obtain ⟨member, hMember, rfl⟩ := List.mem_map.1 hUser
          exact Store.hasUser_iff_exists.2 ⟨member, (hStore.of_mem_teamShown? hTeam hMember).1⟩
    | _ =>
      left
      rw [hAfter]
      rfl

/-- **A team is shown** as it was until a step writes to it. -/
theorem teamShown?_run {team : Team} (before after : List Action) (name : TeamName)
    (hTeam : (run before).store.teamShown? name = some team) :
    (run (before ++ after)).store.teamShown? name = some team ∨
      ∃ early action late, after = early ++ action :: late ∧
        (run (before ++ early)).store.teamShown? name = some team ∧
        WritesTeam (before ++ early) action name := by
  induction after using List.reverseRecOn with
  | nil =>
    rw [List.append_nil]
    exact .inl hTeam
  | append_singleton after action ih =>
    rcases ih with hStill | ⟨early, other, late, rfl, hFacts⟩
    · rcases teamShown?_step (before ++ after) action name with hSame | hWrites
      · left
        rw [← List.append_assoc, hSame, hStill]
      · exact .inr ⟨after, action, [], rfl, hStill, hWrites⟩
    · refine .inr ⟨early, other, late ++ [action], ?_, hFacts⟩
      rw [List.append_assoc, List.cons_append]

/-! ### Accepted upserts -/

/-- What an upsert changes that is accepted, by what requests are answered in the store that it finds,
the store that it leaves and those that a run comes to.

* The team that is found by its name is the team as it was handed in.
* The profile of each member shows the record that came with the team, and the name of the team.
* Whoever was in the team and is left out belongs to no team, with the same record as before.
* Whoever is not named keeps the record, and the profile shows the same team as before, or no team if it was
  this one.
* What is answered to any other team name is the same as before.
* So are all pull requests, the lists of all users, except that a user who came with the upsert has an empty
  list, and both reports.
* Whatever the clients do, a step of the service leaves the answer for this name as it is, or it writes to
  the team: it upserts a team of this name, or switches the activity of a member.
* So from any point of a run with this store on, the answer is the team that was handed in, until such a
  step. -/
structure UpsertEffect (team : Team) (earlier left : Store)
    (ask : Store → Request → Except Failure Reply) : Prop where
  shown : ask left (.teamByName team.name) = .ok (.team team)
  members : ∀ member ∈ team.members,
    ask left (.profile member.id) = .ok (.profile ⟨member, team.name⟩)
  leftOut : ∀ former, ask earlier (.teamByName team.name) = .ok (.team former) →
    ∀ member ∈ former.members, member.id ∉ team.memberIds →
      ask left (.profile member.id) = .ok (.profile ⟨member, ""⟩) ∧
      ask left (.teamByMember member.id) = .error (.notFound "Team for user" (some member.id))
  others : ∀ user, user ∉ team.memberIds → left.user? user = earlier.user? user ∧
    ∀ shown, ask earlier (.profile user) = .ok (.profile shown) →
      ask left (.profile user) = .ok (.profile
        ⟨shown.user, if shown.teamName = team.name then "" else shown.teamName⟩)
  otherTeams : ∀ name, name ≠ team.name →
    ask left (.teamByName name) = ask earlier (.teamByName name)
  pullRequests : ∀ id, left.pullRequest? id = earlier.pullRequest? id
  reviews : ∀ user, ask left (.reviews user) = ask earlier (.reviews user) ∨
    earlier.user? user = none ∧ user ∈ team.memberIds ∧ ask left (.reviews user) = .ok (.reviews [])
  loads : ask left .reviewerLoads = ask earlier .reviewerLoads
  counts : ask left .reviewerCounts = ask earlier .reviewerCounts
  step : ∀ later action,
    ask (run (later ++ [action])).store (.teamByName team.name) =
      ask (run later).store (.teamByName team.name) ∨ WritesTeam later action team.name
  lasting : ∀ whole after, (run whole).store = left →
    ask (run (whole ++ after)).store (.teamByName team.name) = .ok (.team team) ∨
      ∃ early action late, after = early ++ action :: late ∧
        ask (run (whole ++ early)).store (.teamByName team.name) = .ok (.team team) ∧
        WritesTeam (whole ++ early) action team.name

/-- **What an accepted upsert changes**, in every store that the service comes to. -/
theorem upsert_effect (before : List Action) {turn : Turn} {team : Team}
    (hRequest : turn.request = .upsertTeam team) (hSucceeds : turn.Succeeds (run before).store)
    (settings : Settings) (outside : Program.Surroundings) (draws readings : Nat) :
    let ask := fun (store : Store) (request : Request) =>
      ((request.program settings).run outside ⟨store, draws, readings⟩).1
    UpsertEffect team (run before).store (turn.left (run before).store) ask := by
  intro ask
  let earlier := (run before).store
  let left := turn.left earlier
  have hSound := (lawful_run before).sound
  have hStore : earlier.Consistent := hSound.toConsistent
  obtain ⟨hFault, hWritten⟩ := Turn.upserted hStore hRequest hSucceeds
  change earlier.upsertTeam team = .ok left at hWritten
  obtain ⟨hNamed, hMembersNamed⟩ := not_blank_of_teamFault? hFault
  have hLeft : left.Sound := hSound.upsertTeam hNamed hMembersNamed hWritten
  have hOnly : earlier.RosterOnly left := Store.rosterOnly_upsertTeam hWritten
  have hTeam : left.teamShown? team.name = some team := hStore.teamShown?_upsertTeam_self hWritten
  refine ⟨Request.run_teamByName_eq_ok_iff.2 ⟨hNamed, hTeam⟩, fun member hMember => ?_,
    fun former hFormer member hMember hOut => ?_,
    fun user hOut => ⟨Store.user?_upsertTeam_of_notMem hWritten hOut, fun shown hProfile => ?_⟩,
    fun name hOther => ?_, hOnly.pullRequest?, Request.reviews_upserted hStore hWritten hMembersNamed,
    ?_, ?_, fun later action => ?_, fun whole after hWhole => ?_⟩
  · have hUser : left.user? member.id = some member :=
      Store.user?_upsertTeam_of_mem hWritten (nodup_of_teamFault? hFault) hMember
    refine hLeft.profile_iff.2 ⟨member, hUser, ?_⟩
    have hMem : member.id ∈ team.memberIds := List.mem_map_of_mem hMember
    rw [hStore.profileOf_upsertTeam hWritten, if_pos hMem]
  · have hFormerShown := (Request.run_teamByName_eq_ok_iff.1 hFormer).2
    exact Request.left_out hSound hLeft hWritten hFormerShown hMember hOut
  · obtain ⟨record, hUser, rfl⟩ := hSound.profile_iff.1 hProfile
    refine hLeft.profile_iff.2 ⟨record, (Store.user?_upsertTeam_of_notMem hWritten hOut).trans hUser, ?_⟩
    rw [← (Store.user?_some hUser).2] at hOut
    rw [hStore.profileOf_upsertTeam hWritten, if_neg hOut]
    rfl
  · simp only [ask]
    rw [Request.run_teamByName, Request.run_teamByName,
      hStore.teamShown?_upsertTeam_of_ne hWritten hOther]
  · exact congrArg (fun loads => Except.ok (Reply.loads loads)) hOnly.reviewerLoads
  · exact congrArg (fun counts => Except.ok (Reply.counts counts)) hOnly.reviewerCounts
  · refine (teamShown?_step later action team.name).imp_left fun hSame => ?_
    simp only [ask]
    rw [Request.run_teamByName, Request.run_teamByName, hSame]
  · have hThere : (run whole).store.teamShown? team.name = some team := hWhole.symm ▸ hTeam
    rcases teamShown?_run whole after team.name hThere with hStill | ⟨early, action, late, hFacts⟩
    · exact .inl (Request.run_teamByName_eq_ok_iff.2 ⟨hNamed, hStill⟩)
    · refine .inr ⟨early, action, late, hFacts.1, ?_, hFacts.2.2⟩
      exact Request.run_teamByName_eq_ok_iff.2 ⟨hNamed, hFacts.2.1⟩

/-- Bob is left out of his team, and others take his place. -/
theorem upsert_effect_of_left_out :
    let backend : Team := ⟨"backend", [⟨"b", "Bob", true⟩]⟩
    let changed : Team := ⟨"backend", [⟨"c", "Cy", true⟩, ⟨"a", "Ann", false⟩]⟩
    let store := (run (.enter default (.upsertTeam backend) ::
      List.replicate 3 (.advance 0 0 default))).store
    let turn := fun request => (⟨default, request, ⟨fun _ => 0, fun _ => default⟩, 0, 0⟩ : Turn)
    let left := (turn (.upsertTeam changed)).left store
    (turn (.teamByName "backend")).answer store = .ok (.team backend) ∧
      (turn (.teamByName "backend")).answer left = .ok (.team changed) ∧
      (turn (.profile "b")).answer left = .ok (.profile ⟨⟨"b", "Bob", true⟩, ""⟩) := by
  intro backend changed store turn left
  have hBefore : (turn (.teamByName "backend")).answer store = .ok (.team backend) := by
    decide +kernel
  have hSucceeds : (turn (.upsertTeam changed)).Succeeds store := ⟨.team changed, by decide +kernel⟩
  have hEffect := upsert_effect _ rfl hSucceeds default ⟨fun _ => 0, fun _ => default⟩ 0 0
  have hOut := hEffect.leftOut backend hBefore ⟨"b", "Bob", true⟩ (by decide) (by decide)
  exact ⟨hBefore, hEffect.shown, hOut.1⟩

end Service

end ReviewAssignment
