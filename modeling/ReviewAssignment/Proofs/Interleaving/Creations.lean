import ReviewAssignment.Proofs.Alone
import ReviewAssignment.Proofs.Alone.Lock
import ReviewAssignment.Proofs.FirstReviewers
import ReviewAssignment.Proofs.Interleaving.Causes

/-!
# How creations are answered

A creation reads the team of the author, draws reviewers among its members and inserts the pull request.
Others may write in between; the reviewers are drawn from the team as it was read, and whether the
identifier is taken is found out by the insertion.  Nothing else can go wrong there: the members of a team
are different users, and no user is ever lost, so the slots are not refused and the rows refer to what is
there (`Request.openWith_answered`).

So the insertion settles the answer (`Request.settled`).  Of all clients who insert under one identifier,
one has the pull request in the store and is answered with it, and all others are told that the identifier
is taken (`Service.raced_run`).
-/

namespace ReviewAssignment

open Store (Call)

variable {α β : Type}

/-! ### Drawing first -/

namespace Program

variable {outside : Surroundings}

/-- A run that draws first goes on with what is drawn. -/
theorem run_ofDraws_bind (draws : Draws β) (next : β → Program α) (session : Session) :
    let taken := draws.run outside.source session.draws
    let rest := (next taken.1).run outside { session with draws := session.draws + taken.2.length }
    (ofDraws draws >>= next).run outside session =
      (rest.1, { rest.2 with drawn := taken.2 ++ rest.2.drawn }) := by
  induction draws generalizing session with
  | done result => rfl
  | draw others choose ih =>
    let choice := Draws.alternative (outside.source session.draws) others
    have hStep : (ofDraws (.draw others choose) >>= next).run outside session =
        let inner := (ofDraws (choose choice) >>= next).run outside
          { session with draws := session.draws + 1 }
        (inner.1, { inner.2 with drawn := ⟨others + 1, choice⟩ :: inner.2.drawn }) := rfl
    have hRest := ih choice { session with draws := session.draws + 1 }
    simp only [Nat.add_assoc, Nat.add_comm 1] at hRest
    rw [hStep, hRest]
    rfl

theorem answering_ofDraws_bind (wrap : α → β) (operation : String) {γ : Type} (draws : Draws γ)
    (next : γ → Program α) :
    (ofDraws draws >>= next).answering wrap operation =
      ofDraws draws >>= fun result => (next result).answering wrap operation := by
  induction draws with
  | done result => rfl
  | draw others choose ih => exact congrArg (Program.draw others) (funext ih)

theorem abides_of_nothing_asked {contract : Contract α} (program : Program α)
    (hAllows : ∀ deeds deed, contract.allows deeds deed)
    (hConcludes : ∀ deeds store outcome, contract.concludes deeds store outcome) (deeds : List Move)
    (store : Store) : program.Abides contract deeds store := by
  refine obeys_of_free ?_ program (fun _ _ _ _ => hConcludes _ _ _) (fun _ _ _ _ => hConcludes _ _ _) _
  exact ⟨fun _ _ _ hRest _ _ => ⟨fun _ => hAllows _ _, hRest _ _⟩, fun _ => trivial,
    fun _ _ hRest _ => ⟨hAllows _ _, hRest _ _⟩, fun _ _ hRest => hRest _⟩

end Program

/-! ### The steps of a creation -/

namespace Operation

open Program

variable {outside : Surroundings} {session : Session} {limit : Nat} {id : PullRequestId} {name : String}
  {author : UserId}

/-- What a creation does once it has read the team. -/
def openWith (limit : Nat) (id : PullRequestId) (name : String) (author : UserId) (team : Team) :
    Program PullRequest := do
  let selected ← .ofDraws (selectReviewers team author limit)
  insertOpened id name author (← .ofExcept (Slots.ofList selected))

theorem create_of_blank {blank : String × String}
    (hBlank : (Request.create id name author).required.find? (fun field => Text.isBlank field.1) =
      some blank) : create limit id name author =
        .fail (.validation (blank.2 ++ " must not be empty") (some blank.2)) := by
  rw [create, require_eq, require_eq, require_eq]
  by_cases hId : Text.isBlank id = true
  · simp only [Request.required, List.find?_cons, hId, Option.some.injEq] at hBlank
    rw [if_pos hId, ← hBlank]
    rfl
  by_cases hName : Text.isBlank name = true
  · simp only [Request.required, List.find?_cons, hId, hName, Option.some.injEq] at hBlank
    rw [if_neg hId, if_pos hName, ← hBlank]
    rfl
  by_cases hAuthor : Text.isBlank author = true
  · simp only [Request.required, List.find?_cons, hId, hName, hAuthor, Option.some.injEq] at hBlank
    rw [if_neg hId, if_neg hName, if_pos hAuthor, ← hBlank]
    rfl
  · simp [Request.required, hId, hName, hAuthor] at hBlank

/-- A creation without a blank field reads the team of the author first. -/
theorem exists_create_eq_note
    (hFields : (Request.create id name author).required.find? (fun field => Text.isBlank field.1) =
      none) :
    ∃ entry, create limit id name author = .note entry (readTeamOf author >>= fun team? =>
      ofOption (.notFound "Team for author" (some author)) team? >>=
        openWith limit id name author) := by
  simp only [Request.required, List.find?_eq_none, List.forall_mem_cons] at hFields
  obtain ⟨hId, hName, hAuthor, -⟩ := hFields
  rw [create, require_eq, require_eq, require_eq, if_neg hId, if_neg hName, if_neg hAuthor]
  exact ⟨_, rfl⟩

theorem reached_insertOpened (reviewers : Slots) :
    let pr : PullRequest :=
      ⟨id, name, author, .opened, reviewers, outside.clock session.readings, none⟩
    (insertOpened id name author reviewers).reached outside session =
      (Program.ofExcept ((session.store.insertPullRequest pr).map fun _ => pr),
        { session with
          store := (session.store.commit (session.store.insertPullRequest pr)).2
          readings := session.readings + 1 }) := by
  intro pr
  change (Program.reached outside (ofExcept (session.store.commit
    (session.store.insertPullRequest pr)).1 >>= _)
      { session with
        store := (session.store.commit (session.store.insertPullRequest pr)).2
        readings := session.readings + 1 }) = _
  cases session.store.insertPullRequest pr <;> rfl

theorem run_readPullRequest (outside : Surroundings) (session : Session) (id : PullRequestId) :
    ((readPullRequest id).run outside session).1 = session.store.pullRequest? id :=
  (run_of_reached (reached_readPullRequest id)).1

end Operation

/-! ### How a creation is answered -/

/-- How a creation is answered that has read a team, by what its insertion finds.  If the identifier is
taken, it says so and leaves the store as it was.  If it is free, the pull request is open and has exactly
the reviewers selected from the team as it was read, and reading it back gives the same. -/
structure CreationAnswered (settings : Settings) (id : PullRequestId) (name : String) (author : UserId)
    (team : Team) (outside : Program.Surroundings) (session : Program.Session)
    (served : Except Failure Reply × Program.Trace) : Prop where
  taken : ∀ row, session.store.pullRequestRow? id = some row →
    served.1 = .error (.alreadyExists id) ∧ served.2.session.store = session.store
  free : session.store.pullRequestRow? id = none → ∃ pr, served.1 = .ok (.pullRequest pr) ∧
    pr.row = ⟨id, name, author, .opened, outside.clock session.readings, none⟩ ∧
    pr.reviewers.reviewers =
      ((selectReviewers team author settings.maxReviewers).run outside.source session.draws).1 ∧
    ∀ outside, ((Operation.readPullRequest id).run outside served.2.session).1 = .ok (some pr)
  drawn : served.2.drawn =
    ((selectReviewers team author settings.maxReviewers).run outside.source session.draws).2

namespace Request

open Program Operation

variable {store : Store} {team : Team} {settings : Settings} {outside : Surroundings}
  {session : Session} {id : PullRequestId} {name : String} {author : UserId}

/-- **A creation that has read a team of users** can fail for the identifier only. -/
theorem openWith_answered (settings : Settings) (id : PullRequestId) (name : String)
    (outside : Surroundings) (session : Session) (hStore : session.store.Consistent)
    (hAuthor : session.store.hasUser author = true) (hStaffs : session.store.Staffs team)
    (operation : String) :
    CreationAnswered settings id name author team outside session
      (((openWith settings.maxReviewers id name author team).answering Reply.pullRequest operation).run
        outside session) := by
  have hSelected := (selectReviewers_all team author settings.maxReviewers).run outside.source
    session.draws
  rw [openWith, answering_ofDraws_bind, run_ofDraws_bind]
  generalize hSelection : (selectReviewers team author settings.maxReviewers).run outside.source
    session.draws = selection at hSelected
  obtain ⟨selected, drawn⟩ := selection
  have hNodup : selected.Nodup := hSelected.nodup hStaffs.distinct
  rw [Slots.ofList_of_nodup hNodup]
  let pr : PullRequest :=
    ⟨id, name, author, .opened, ⟨selected, hNodup⟩, outside.clock session.readings, none⟩
  have hUsers : session.store.HasUsersOf pr :=
    ⟨hAuthor, fun reviewer hReviewer => hStaffs.users reviewer (hSelected.mem_memberIds hReviewer)⟩
  -- Drawing leaves the store to the insertion as it was.
  let drawnFrom : Session := { session with draws := session.draws + drawn.length }
  have hReached : (insertOpened id name author ⟨selected, hNodup⟩).reached outside drawnFrom =
      (Program.ofExcept ((session.store.insertPullRequest pr).map fun _ => pr),
        { drawnFrom with
          store := (session.store.commit (session.store.insertPullRequest pr)).2
          readings := session.readings + 1 }) := reached_insertOpened _
  obtain ⟨hAnswer, hLeft⟩ := run_answering Reply.pullRequest operation hReached
  have hDrawn := drawn_answering Reply.pullRequest operation hReached
  refine ⟨fun row hRow => ?_, fun hRow => ?_, ?_⟩
  · obtain ⟨hMem, hId⟩ := Store.pullRequestRow?_some hRow
    rw [Store.insertPullRequest_of_mem (List.mem_map.2 ⟨row, hMem, hId⟩)] at hAnswer hLeft
    have hUnchanged := congrArg Session.store hLeft
    exact ⟨hAnswer, hUnchanged⟩
  · obtain ⟨hWritten, hStored⟩ := hStore.insertPullRequest_of_free hUsers hRow
    rw [hWritten] at hAnswer hLeft
    refine ⟨pr, hAnswer, rfl, (congrArg Prod.fst hSelection).symm, fun later => ?_⟩
    have hWrittenLeft := congrArg Session.store hLeft
    refine (run_readPullRequest later _ id).trans (Eq.trans ?_ hStored)
    exact congrArg (fun left : Store => left.pullRequest? id) hWrittenLeft
  · have hAll := (congrArg (drawn ++ ·) hDrawn).trans (List.append_nil drawn)
    exact hAll.trans (congrArg Prod.snd hSelection).symm

theorem create_program_eq (settings : Settings) (id : PullRequestId) (name : String) (author : UserId) :
    (create id name author).program settings =
      (Operation.create settings.maxReviewers id name author).answering Reply.pullRequest
        "create_pull_request" :=
  rfl

/-- A creation with a blank field is refused for the first one, before anything is read. -/
theorem run_create_of_blank (settings : Settings) (outside : Surroundings) (session : Session)
    {blank : String × String}
    (hBlank : (create id name author).required.find? (fun field => Text.isBlank field.1) = some blank) :
    let served := ((create id name author).program settings).run outside session
    served.1 = .error (.validation (blank.2 ++ " must not be empty") (some blank.2)) ∧
      served.2.session = session ∧ served.2.drawn = [] := by
  simp only [create_program_eq, create_of_blank hBlank]
  exact ⟨rfl, rfl, rfl⟩

/-- A creation without a blank field asks for the team of the author and, if there is one, for its
members. -/
theorem exists_create_program_eq (settings : Settings)
    (hFields : (create id name author).required.find? (fun field => Text.isBlank field.1) = none) :
    ∃ entry rest, (create id name author).program settings = .note entry (.call (.teamOf author) rest) ∧
      (∀ outside session, ((rest none).run outside session).1 =
          .error (.notFound "Team for author" (some author)) ∧
        ((rest none).run outside session).2.session = session) ∧
      ∀ row, ∃ choose, rest (some row) = .call (.membersOf row.number) choose ∧
        ∀ members, choose members = (openWith settings.maxReviewers id name author
          ⟨row.name, members⟩).answering Reply.pullRequest "create_pull_request" := by
  obtain ⟨entry, hCreate⟩ : ∃ entry, Operation.create settings.maxReviewers id name author = _ :=
    exists_create_eq_note hFields
  let rest (row? : Option TeamRow) : Program Reply :=
    (readTeam row? >>= fun team? => ofOption (.notFound "Team for author" (some author)) team? >>=
      openWith settings.maxReviewers id name author).answering Reply.pullRequest "create_pull_request"
  let choose (row : TeamRow) (members : List User) : Program Reply :=
    (openWith settings.maxReviewers id name author ⟨row.name, members⟩).answering Reply.pullRequest
      "create_pull_request"
  refine ⟨entry, rest, ?_, fun outside session => ⟨rfl, rfl⟩,
    fun row => ⟨choose row, rfl, fun _ => rfl⟩⟩
  rw [create_program_eq, hCreate]
  rfl

/-! ### What the insertion settles -/

/-- **The insertion of a creation** is one of a pull request of users, and it settles the answer. -/
def settled (request : Request) : Contract Reply :=
  match request with
  | .create _ _ _ =>
    { allows := fun _ deed =>
        ∀ pr found, deed = .asked (.insertPullRequest pr) found → found.HasUsersOf pr
      concludes := fun deeds _ outcome =>
        ∀ pr found, .asked (.insertPullRequest pr) found ∈ deeds →
          outcome = if (Move.asked (.insertPullRequest pr) found).applied then .ok (.pullRequest pr)
            else .error (.alreadyExists pr.id) }
  | _ => ⟨fun _ _ => True, fun _ _ _ => True⟩

/-- A creation inserts a pull request of users, and is answered by what comes of it. -/
theorem create_settled (hStore : store.Consistent) (id : PullRequestId) (name : String)
    (author : UserId) :
    ((create id name author).steps settings).Abides (create id name author).settled [] store := by
  refine create_inserts hStore id name author (fun _ _ _ _ _ hMem => nomatch hMem)
    (fun _ _ _ hDeed => nomatch hDeed) fun moment inserted at' hUsers _ => ⟨?_, fun later => ?_⟩
  · rintro _ _ ⟨⟩
    exact hUsers
  · intro pr found hMem
    rcases List.mem_cons.1 hMem with hRead | hLast
    · cases hRead
    · cases List.mem_singleton.1 hLast
      rfl

/-- Every request is settled by its insertion, if it makes one. -/
theorem abides_settled (settings : Settings) (request : Request) (store : Store)
    (hStore : store.Consistent) : (request.program settings).Abides request.settled [] store := by
  cases request with
  | create id name author => exact .reporting _ (create_settled hStore id name author)
  | _ => exact abides_of_nothing_asked _ (fun _ _ => trivial) (fun _ _ _ => trivial) _ _

end Request

/-! ### Races -/

namespace Service

variable {actions : List Action} {client : Nat} {pr : PullRequest} {found : Store}

/-- Who inserts a pull request asked for it, and it is open. -/
theorem exists_inserter
    (hEvent : ⟨client, .asked (.insertPullRequest pr) found⟩ ∈ (run actions).history) :
    ∃ actor, (run actions).clients[client]? = some actor ∧
      actor.request = .create pr.id pr.name pr.author ∧ pr.status = .opened ∧ pr.mergedAt = none := by
  obtain ⟨actor, before, hActor, -, hProper, hWrites⟩ := exists_writer hEvent rfl
  obtain ⟨-, -, hStatus, hMerged, -⟩ := hProper
  refine ⟨actor, hActor, ?_, hStatus, hMerged⟩
  cases hRequest : actor.request with
  | create id name author =>
    rw [hRequest] at hWrites
    obtain ⟨reviewers, createdAt, -, -, hCall⟩ := hWrites
    obtain rfl := Call.insertPullRequest.inj hCall
    rfl
  | _ =>
    rw [hRequest] at hWrites
    simp [Request.Writes] at hWrites

/-- What an insertion finds: a store that the service had come to, with the users in it. -/
theorem exists_found_of_insertion
    (hEvent : ⟨client, .asked (.insertPullRequest pr) found⟩ ∈ (run actions).history) :
    ∃ early late, actions = early ++ late ∧ found = (run early).store ∧ found.HasUsersOf pr := by
  obtain ⟨early, raw, moment, late, actor, rest, rfl, hActor, hNext, hStep⟩ :=
    exists_action_of_mem_history hEvent
  have hFound := found_of_next? hNext
  refine ⟨early, _, rfl, hFound, ?_⟩
  -- The client is the one who made the move, so that the request is a creation.
  have hMoved : ⟨client, .asked (.insertPullRequest pr) found⟩ ∈
      (run (early ++ [.advance client raw moment])).history := by
    rw [hStep]
    exact List.mem_append_right _ (List.mem_singleton_self _)
  obtain ⟨moved, hMovedActor, hRequest, -⟩ := exists_inserter hMoved
  rw [hStep, advance, List.getElem?_set_self (List.getElem?_eq_some_iff.1 hActor).1] at hMovedActor
  obtain rfl := Option.some.inj hMovedActor
  have hStore := (lawful_run early).sound.toConsistent
  have hAbides := abides_run (fun settings => Request.abides_settled settings) early client actor hActor
  rw [show actor.request = _ from hRequest] at hAbides
  exact (hAbides.next hStore.leads_refl hNext).1 rfl pr found rfl

/-- After an insertion there is a pull request, inserted by it or before it. -/
theorem exists_row_of_insertion
    (hEvent : ⟨client, .asked (.insertPullRequest pr) found⟩ ∈ (run actions).history) :
    ∃ row, (run actions).store.pullRequestRow? pr.id = some row := by
  obtain ⟨early, late, rfl, rfl, hUsers⟩ := exists_found_of_insertion hEvent
  cases hRow : (run early).store.pullRequestRow? pr.id with
  | some row =>
    obtain ⟨next, hNext, -⟩ := (leads_run early late).evolves.pullRequests pr.id row hRow
    exact ⟨next, hNext⟩
  | none =>
    have hStore := (lawful_run early).sound.toConsistent
    obtain ⟨hWritten, -⟩ := hStore.insertPullRequest_of_free hUsers hRow
    have hApplied : (Move.asked (.insertPullRequest pr) (run early).store).applied = true := by
      rw [Move.applied, Store.perform, hWritten]
      rfl
    have hMem : ⟨client, pr⟩ ∈ (run (early ++ late)).creations pr.id :=
      mem_creations_iff.2 ⟨rfl, _, hEvent, hApplied⟩
    refine Option.ne_none_iff_exists'.1 fun hMissing => ?_
    rw [((recorded_run _ _).missing hMissing).1] at hMem
    cases hMem

theorem outcome_of_insertion
    (hEvent : ⟨client, .asked (.insertPullRequest pr) found⟩ ∈ (run actions).history)
    {outcome : Except Failure Reply} (hOutcome : (run actions).outcome? client = some outcome) :
    outcome = if (Move.asked (.insertPullRequest pr) found).applied then .ok (.pullRequest pr)
      else .error (.alreadyExists pr.id) := by
  obtain ⟨actor, hActor, hRequest, -⟩ := exists_inserter hEvent
  have hStore := (lawful_run actions).sound.toConsistent
  have hAbides := abides_run (fun settings => Request.abides_settled settings) actions client actor hActor
  rw [hRequest] at hAbides
  rw [outcome?, hActor, Option.bind_some] at hOutcome
  exact hAbides.outcome hStore.leads_refl hOutcome pr found (mem_deedsOf_movesOf.2 ⟨hEvent, rfl⟩)

/-- A race for an identifier.  Of all clients who have inserted under it, one has created the pull
request.  Whoever of them has been answered was answered with this pull request, if it is this client, and
with `alreadyExists` if it is not; and the pull request that is stored is the one of this client, in
everything until a reviewer is swapped or it is merged, and in its name, its author and the moment of its
creation for good. -/
structure Raced (service : Service) (id : PullRequestId) (winner : Creation) : Prop where
  creations : service.creations id = [winner]
  inserted : ∃ found, ⟨winner.client, .asked (.insertPullRequest winner.pr) found⟩ ∈ service.history
  won : ∀ outcome, service.outcome? winner.client = some outcome →
    outcome = .ok (.pullRequest winner.pr)
  lost : ∀ client pr found, ⟨client, .asked (.insertPullRequest pr) found⟩ ∈ service.history →
    pr.id = id → client ≠ winner.client → ∀ outcome, service.outcome? client = some outcome →
      outcome = .error (.alreadyExists id)
  stored : ∃ row, service.store.pullRequestRow? id = some row ∧ row.name = winner.pr.name ∧
    row.author = winner.pr.author ∧ row.createdAt = winner.pr.createdAt
  untouched : service.swaps id = [] → service.merges id = [] →
    service.store.pullRequest? id = .ok (some winner.pr)

/-- **Every race has one winner.** -/
theorem raced_run
    (hEvent : ⟨client, .asked (.insertPullRequest pr) found⟩ ∈ (run actions).history) :
    ∃ winner, (run actions).Raced pr.id winner := by
  obtain ⟨row, hRow⟩ := exists_row_of_insertion hEvent
  obtain ⟨winner, slots, hCreations, hName, hAuthor, hCreatedAt, hSlots, hReviewers, hMerges⟩ :=
    (recorded_run actions pr.id).present row hRow
  obtain ⟨hId, before, hWon, hApplied⟩ :=
    mem_creations_iff.1 (hCreations ▸ List.mem_singleton_self winner)
  refine ⟨winner, hCreations, ⟨before, hWon⟩, fun outcome hOutcome => ?_, ?_,
    ⟨row, hRow, hName, hAuthor, hCreatedAt⟩, fun hSwaps hNone => ?_⟩
  · rw [outcome_of_insertion hWon hOutcome, if_pos hApplied]
  · intro contender other at' hOther hSame hContender outcome hOutcome
    rw [outcome_of_insertion hOther hOutcome, if_neg, hSame]
    intro hAlso
    have hMem : ⟨contender, other⟩ ∈ (run actions).creations pr.id :=
      mem_creations_iff.2 ⟨hSame, at', hOther, hAlso⟩
    rw [hCreations] at hMem
    exact hContender (congrArg Creation.client (List.mem_singleton.1 hMem))
  · have hSound := (lawful_run actions).sound
    obtain ⟨-, -, -, hOpened, hUnmerged⟩ := exists_inserter hWon
    obtain ⟨hMem, hRowId⟩ := Store.pullRequestRow?_some hRow
    have hMoment : row.mergedAt = none := by
      rw [hNone] at hMerges
      exact Option.toList_eq_nil_iff.1 hMerges.symm
    have hStatus : row.status = .opened := by
      cases hCase : row.status with
      | opened => rfl
      | merged =>
        have hMerged := (hSound.mergedAt row hMem).1 hCase
        rw [hMoment] at hMerged
        cases hMerged
    have hSame : row = winner.pr.row := by
      rw [PullRequest.row, PullRequestRow.mk.injEq]
      exact ⟨hRowId.trans hId.symm, hName, hAuthor, hStatus.trans hOpened.symm, hCreatedAt,
        hMoment.trans hUnmerged.symm⟩
    rw [hSwaps] at hSlots
    obtain rfl : winner.pr.reviewers = slots := Except.ok.inj hSlots
    exact hSound.toConsistent.pullRequest?_eq_some_iff.2 ⟨hSame ▸ hRow, hReviewers⟩

/-- **How a creation is answered, and who wins a race of creations.**

A creation with a blank field is refused for the first one, in whatever store.  Otherwise it reads the team
of the author; it is refused if there is none.  If there is one, it reads the members, in a store that
others may have come to by then, and whatever others do before its insertion, it is answered as
`CreationAnswered` says, by the store that the insertion finds.  There is no other answer.

If clients have inserted under one identifier in a run, then one of them has created the pull request, and
the others are told that the identifier is taken (`Raced`). -/
theorem creations_answered (settings : Settings) (id : PullRequestId) (name : String) (author : UserId) :
    (∀ blank, (Request.create id name author).required.find? (fun field => Text.isBlank field.1) =
        some blank → ∀ outside session,
      let served := ((Request.create id name author).program settings).run outside session
      served.1 = .error (.validation (blank.2 ++ " must not be empty") (some blank.2)) ∧
        served.2.session = session ∧ served.2.drawn = []) ∧
    ((Request.create id name author).required.find? (fun field => Text.isBlank field.1) = none →
      ∃ entry rest, (Request.create id name author).program settings =
          .note entry (.call (.teamOf author) rest) ∧
        ∀ before : List Action,
          ((run before).store.teamOf? author = none → ∀ outside session,
            ((rest none).run outside session).1 =
                .error (.notFound "Team for author" (some author)) ∧
              ((rest none).run outside session).2.session = session) ∧
          ∀ row, (run before).store.teamOf? author = some row →
            ∃ choose, rest (some row) = .call (.membersOf row.number) choose ∧
              ∀ midway between outside draws readings,
                let team := (run (before ++ midway)).store.teamOfRow row
                let session := ⟨(run (before ++ midway ++ between)).store, draws, readings⟩
                CreationAnswered settings id name author team outside session
                  ((choose team.members).run outside session)) ∧
    ∀ actions, (∃ client pr found, ⟨client, .asked (.insertPullRequest pr) found⟩ ∈
        (run actions).history ∧ pr.id = id) → ∃ winner, (run actions).Raced id winner := by
  refine ⟨fun blank hBlank outside session => ?_, fun hFields => ?_, fun actions hRace => ?_⟩
  · exact Request.run_create_of_blank settings outside session hBlank
  · obtain ⟨entry, rest, hProgram, hMissing, hTeam⟩ := Request.exists_create_program_eq settings hFields
    refine ⟨entry, rest, hProgram, fun before => ⟨fun _ => hMissing, fun row hRow => ?_⟩⟩
    obtain ⟨choose, hChoose, hOpen⟩ := hTeam row
    refine ⟨choose, hChoose, fun midway between outside draws readings => ?_⟩
    have hFirst := leads_run before midway
    have hSecond := leads_run (before ++ midway) between
    have hStore := (lawful_run before).sound.toConsistent
    -- The author is a user from the first call on, and the members are from the second on.
    have hAuthor := (hFirst.trans hSecond).evolves.users author (hStore.hasUser_of_teamOf? hRow)
    have hStaffs := (hFirst.consistent.staffs_teamOfRow row).of_leads hSecond
    simp only [hOpen]
    exact Request.openWith_answered settings id name outside _ hSecond.consistent hAuthor hStaffs _
  · obtain ⟨client, pr, found, hEvent, rfl⟩ := hRace
    exact raced_run hEvent

end Service

end ReviewAssignment
