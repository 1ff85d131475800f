import ReviewAssignment.Proofs.Alone.Manner

/-!
# Waiting for the write lock

While another client holds the write lock beyond the deadline, a request comes as far as its first write.
`Request.locked_run` compares its run with the run without the lock: up to the first write they are the
same, and whatever that write would have come to, the locked run ends there with the expired deadline
(`Program.KeepsTo.run_underLock`).  Nothing was written until then, and nothing is drawn after a write, so
the store is as it was and the draws are the same.

A run that is made later, from the same draws, differs by the clock alone.  A request that does not look
at the clock is answered as before.  A creation looks at it once, when the reviewers are chosen
(`Operation.create_eq`), and the moment it gets has no influence on whether the pull request is inserted.
-/

namespace ReviewAssignment

open Time (Instant)
open Store (Call)

variable {α β : Type}

/-! ### The calls of a run -/

namespace Program

variable (outside : Surroundings) {program : Program α}

def calls (outside : Surroundings) : Program α → Session → List Call
  | .done _, _ => []
  | .fail _, _ => []
  | .call asked next, session =>
    asked :: (next (session.store.perform asked).1).calls outside
      { session with store := (session.store.perform asked).2 }
  | .draw others next, session =>
    (next (Draws.alternative (outside.source session.draws) others)).calls outside
      { session with draws := session.draws + 1 }
  | .clock next, session =>
    (next (outside.clock session.readings)).calls outside
      { session with readings := session.readings + 1 }
  | .note _ rest, session => rest.calls outside session

theorem calls_reporting (operation : String) (program : Program α) (session : Session) :
    (program.reporting operation).calls outside session = program.calls outside session := by
  induction program generalizing session with
  | done result => rfl
  | fail cause => rfl
  | call asked rest ih =>
    exact congrArg _ (ih _ { session with store := (session.store.perform asked).2 })
  | draw others rest ih => exact ih _ { session with draws := session.draws + 1 }
  | clock rest ih => exact ih _ { session with readings := session.readings + 1 }
  | note entry rest ih => exact ih session

/-- Reporting a failure adds to the log and to nothing else. -/
theorem run_reporting (operation : String) (program : Program α) (session : Session) :
    ((program.reporting operation).run outside session).1 = (program.run outside session).1 ∧
      ((program.reporting operation).run outside session).2.session =
        (program.run outside session).2.session ∧
      ((program.reporting operation).run outside session).2.drawn =
        (program.run outside session).2.drawn := by
  induction program generalizing session with
  | done result => exact ⟨rfl, rfl, rfl⟩
  | fail cause => exact ⟨rfl, rfl, rfl⟩
  | call asked rest ih => exact ih _ { session with store := (session.store.perform asked).2 }
  | draw others rest ih =>
    obtain ⟨hAnswer, hSession, hDrawn⟩ :=
      ih (Draws.alternative (outside.source session.draws) others)
        { session with draws := session.draws + 1 }
    exact ⟨hAnswer, hSession, congrArg (List.cons _) hDrawn⟩
  | clock rest ih => exact ih _ { session with readings := session.readings + 1 }
  | note entry rest ih => exact ih session

/-- **A run under the lock.**  It makes the draws of the run without the lock and leaves the store as it
was, and it is answered alike unless that run comes to a write. -/
theorem KeepsTo.run_underLock {manner : Manner} (h : program.KeepsTo manner false) (millis : Nat)
    (session : Session) :
    ((program.underLock millis).run outside session).1 =
        (if ∃ call ∈ program.calls outside session, call.isWrite = true
          then .error (.deadlineExceeded millis) else (program.run outside session).1) ∧
      ((program.underLock millis).run outside session).2.drawn =
        (program.run outside session).2.drawn ∧
      ((program.underLock millis).run outside session).2.session.store = session.store := by
  induction program generalizing session with
  | done result => simp [underLock, run, calls]
  | fail cause => simp [underLock, run, calls]
  | call asked rest ih =>
    have hRest : (rest (session.store.perform asked).1).KeepsTo manner (false || asked.isWrite) :=
      h.2 _
    rw [underLock]
    cases hWrite : asked.isWrite with
    | true =>
      rw [hWrite] at hRest
      rw [if_pos rfl, if_pos ⟨asked, List.mem_cons_self, hWrite⟩]
      exact ⟨rfl, (hRest.drawn_of_written _ _).symm, rfl⟩
    | false =>
      rw [hWrite] at hRest
      obtain ⟨hAnswer, hDrawn, hStore⟩ :=
        ih _ hRest { session with store := (session.store.perform asked).2 }
      rw [if_neg Bool.false_ne_true, run, run, calls]
      simp only [List.mem_cons, exists_eq_or_imp, hWrite, Bool.false_eq_true, false_or]
      exact ⟨hAnswer, hDrawn, hStore.trans (Store.perform_of_not_isWrite _ hWrite)⟩
  | draw others rest ih =>
    obtain ⟨hAnswer, hDrawn, hStore⟩ := ih _
      (h.2 (Draws.alternative (outside.source session.draws) others))
      { session with draws := session.draws + 1 }
    exact ⟨hAnswer, congrArg (List.cons _) hDrawn, hStore⟩
  | clock rest ih => exact ih _ (h.2 _) { session with readings := session.readings + 1 }
  | note entry rest ih => exact ih h session

/-! ### One program after another -/

theorem bind_done (program : Program α) : program.bind .done = program := by
  induction program with
  | done result => rfl
  | fail cause => rfl
  | call asked rest ih => exact congrArg _ (funext ih)
  | draw others rest ih => exact congrArg _ (funext ih)
  | clock rest ih => exact congrArg _ (funext ih)
  | note entry rest ih => exact congrArg _ ih

theorem bind_bind {γ : Type} (program : Program α) (second : α → Program β)
    (third : β → Program γ) :
    (program.bind second).bind third = program.bind fun result => (second result).bind third := by
  induction program with
  | done result => rfl
  | fail cause => rfl
  | call asked rest ih => exact congrArg _ (funext ih)
  | draw others rest ih => exact congrArg _ (funext ih)
  | clock rest ih => exact congrArg _ (funext ih)
  | note entry rest ih => exact congrArg _ ih

instance : LawfulMonad Program :=
  LawfulMonad.mk' Program bind_done (fun _ _ => rfl) bind_bind

/-- First one program, then another: the second runs from where the first has come to. -/
theorem run_bind (first : Program α) (next : α → Program β) (session : Session) :
    ((first >>= next).run outside session).1 =
      (first.run outside session).1.bind fun result =>
        ((next result).run outside (first.run outside session).2.session).1 := by
  induction first generalizing session with
  | done result => rfl
  | fail cause => rfl
  | call asked rest ih => exact ih _ { session with store := (session.store.perform asked).2 }
  | draw others rest ih => exact ih _ { session with draws := session.draws + 1 }
  | clock rest ih => exact ih _ { session with readings := session.readings + 1 }
  | note entry rest ih => exact ih session

theorem run_map (wrap : α → β) (program : Program α) (session : Session) :
    ((program >>= fun result => pure (wrap result)).run outside session).1 =
      (program.run outside session).1.map wrap := by
  rw [run_bind]
  cases (program.run outside session).1 <;> rfl

end Program

/-! ### The moment of a creation -/

namespace Store

variable {store other : Store}

/-- Two stores that differ in no more than what pull requests are like. -/
structure SameKeys (store other : Store) : Prop where
  users : store.users = other.users
  pullRequestIds :
    store.pullRequests.map PullRequestRow.id = other.pullRequests.map PullRequestRow.id
  slots : store.slots = other.slots

theorem SameKeys.any_id (h : store.SameKeys other) (id : PullRequestId) :
    (store.pullRequests.any fun row => row.id == id) =
      other.pullRequests.any fun row => row.id == id := by
  have hAny : ∀ rows : List PullRequestRow,
      (rows.any fun row => row.id == id) = (rows.map PullRequestRow.id).any fun key => key == id := by
    intro rows
    rw [List.any_map]
    rfl
  rw [hAny, hAny, h.pullRequestIds]

theorem SameKeys.hasUser (h : store.SameKeys other) (user : UserId) :
    store.hasUser user = other.hasUser user := by
  rw [Store.hasUser, h.users, Store.hasUser]

/-- Whether slots are added, and what for they are refused, is a matter of keys. -/
theorem SameKeys.insertSlots (h : store.SameKeys other) (id : PullRequestId) (slot : Nat)
    (reviewers : List UserId) :
    (store.insertSlots id slot reviewers).map (fun _ => ()) =
      (other.insertSlots id slot reviewers).map fun _ => () := by
  induction reviewers generalizing store other slot with
  | nil => rfl
  | cons reviewer rest ih =>
    simp only [Store.insertSlots, insertSlot, h.slots, h.any_id, h.hasUser]
    split
    · rfl
    · split
      · refine ih ?_ (slot + 1)
        exact ⟨h.users, h.pullRequestIds, rfl⟩
      · rfl

theorem insertPullRequestRow_moment (store : Store) (row : PullRequestRow) (moment : Instant) :
    (∃ violation,
      store.insertPullRequestRow { row with createdAt := moment } = .error violation ∧
        store.insertPullRequestRow row = .error violation) ∨
    ∃ later given, store.insertPullRequestRow { row with createdAt := moment } = .ok later ∧
      store.insertPullRequestRow row = .ok given ∧ later.SameKeys given := by
  by_cases hTaken : (store.pullRequests.any fun old => old.id == row.id) = true
  · exact .inl ⟨.takenKey, if_pos hTaken, if_pos hTaken⟩
  · by_cases hUser : store.hasUser row.author = true
    · refine .inr ⟨_, _, (if_neg hTaken).trans (if_pos hUser), (if_neg hTaken).trans (if_pos hUser),
        rfl, ?_, rfl⟩
      rw [List.map_append, List.map_append]
      rfl
    · exact .inl ⟨.missingReference, (if_neg hTaken).trans (if_neg hUser),
        (if_neg hTaken).trans (if_neg hUser)⟩

/-- The moment of creation has no influence on whether a pull request is inserted. -/
theorem insertPullRequest_moment (store : Store) (pr : PullRequest) (moment : Instant) :
    (store.insertPullRequest { pr with createdAt := moment }).map (fun _ => ()) =
      (store.insertPullRequest pr).map fun _ => () := by
  have hRow : { pr with createdAt := moment }.row = { pr.row with createdAt := moment } := rfl
  rw [insertPullRequest, insertPullRequest, hRow]
  rcases store.insertPullRequestRow_moment pr.row moment with
    ⟨violation, hLater, hGiven⟩ | ⟨later, given, hLater, hGiven, hKeys⟩
  · rw [hLater, hGiven]
  · rw [hLater, hGiven]
    have hSlots := hKeys.insertSlots pr.id 0 pr.reviewers.reviewers
    simp only
    cases hFirst : later.insertSlots pr.id 0 pr.reviewers.reviewers <;>
      cases hSecond : given.insertSlots pr.id 0 pr.reviewers.reviewers <;>
      rw [hFirst, hSecond] at hSlots <;> cases hSlots <;> rfl

end Store

namespace Operation

open Program

variable {outside : Surroundings} {id : PullRequestId} {name : String} {author : UserId}

def chooseReviewers (limit : Nat) (id : PullRequestId) (name : String) (author : UserId) :
    Program Slots := do
  require id "pull_request_id"
  require name "pull_request_name"
  require author "author_id"
  .log (.info ("Creating pull request " ++ id ++ " by " ++ author))
  let team ← .ofOption (.notFound "Team for author" (some author)) (← readTeamOf author)
  let selected ← .ofDraws (selectReviewers team author limit)
  .ofExcept (Slots.ofList selected)

def insertOpened (id : PullRequestId) (name : String) (author : UserId) (reviewers : Slots) :
    Program PullRequest := do
  let createdAt ← .now
  let pr : PullRequest := ⟨id, name, author, .opened, reviewers, createdAt, none⟩
  .ofExcept (← .ask (.insertPullRequest pr))
  .log (.debug ("Pull request " ++ id ++ " assigned to " ++ bracketed reviewers.reviewers))
  return pr

theorem create_eq (limit : Nat) (id : PullRequestId) (name : String) (author : UserId) :
    create limit id name author =
      chooseReviewers limit id name author >>= insertOpened id name author := by
  simp only [create, chooseReviewers, bind_assoc]
  rfl

/-- Reviewers are chosen without a look at the clock and without a write. -/
theorem chooseReviewers_keepsTo (limit : Nat) (id : PullRequestId) (name : String)
    (author : UserId) :
    (chooseReviewers limit id name author).KeepsTo ⟨none, False, False⟩ false := by
  refine .check_bind (fun _ _ => trivial) fun _ => .check_bind (fun _ _ => trivial) fun _ => ?_
  refine .check_bind (fun _ _ => trivial) fun _ => .log_bind ?_
  refine .looking_bind (readTeamOf_keepsTo author) fun team? => ?_
  refine .ofOption_bind (fun _ => trivial) fun team _ => ?_
  refine .ofDraws_bind rfl (selectReviewers_all team author limit) fun selected _ => ?_
  cases Slots.ofList selected <;> trivial

theorem run_insertOpened (reviewers : Slots) (session : Session) :
    ((insertOpened id name author reviewers).run outside session).1 =
      ((session.store.insertPullRequest ⟨id, name, author, .opened, reviewers,
        outside.clock session.readings, none⟩).map fun _ => ()).map fun _ =>
          ⟨id, name, author, .opened, reviewers, outside.clock session.readings, none⟩ := by
  change (Program.run outside (ofExcept (session.store.commit (session.store.insertPullRequest
    ⟨id, name, author, .opened, reviewers, outside.clock session.readings, none⟩)).1 >>= _) _).1 = _
  cases session.store.insertPullRequest
    ⟨id, name, author, .opened, reviewers, outside.clock session.readings, none⟩ <;> rfl

/-- A creation at another time comes to the same, but for the moment of creation. -/
theorem run_create_clock (limit : Nat) (id : PullRequestId) (name : String) (author : UserId)
    (outside : Surroundings) (session : Session) (clock : Nat → Instant) (readings : Nat) :
    ((create limit id name author).run { outside with clock } { session with readings }).1 =
      ((create limit id name author).run outside session).1.map fun pr =>
        { pr with createdAt := clock readings } := by
  obtain ⟨hAnswer, hSession, -⟩ := (chooseReviewers_keepsTo limit id name author).run_clock outside
    not_false clock session readings
  rw [create_eq, run_bind, run_bind, hAnswer, hSession]
  generalize (chooseReviewers limit id name author).run outside session = chosen
  cases chosen.1 with
  | error cause => rfl
  | ok reviewers =>
    have hMoment := chosen.2.session.store.insertPullRequest_moment ⟨id, name, author, .opened,
      reviewers, outside.clock chosen.2.session.readings, none⟩ (clock readings)
    change ((insertOpened id name author reviewers).run _ _).1 =
      ((insertOpened id name author reviewers).run _ _).1.map _
    rw [run_insertOpened, run_insertOpened]
    refine (congrArg (Except.map fun _ => _) hMoment).trans ?_
    cases Except.map (fun _ => ()) (chosen.2.session.store.insertPullRequest _) <;> rfl

end Operation

/-! ### Requests -/

/-- The reply with another moment of creation, if it shows a pull request. -/
def Reply.withCreatedAt (moment : Instant) : Reply → Reply
  | .pullRequest pr => .pullRequest { pr with createdAt := moment }
  | reply => reply

namespace Request

/-- Whether nothing is left of a request that is given up at its first write: it reads only, or it
writes in a transaction.  A merge and an activity switch are single statements outside a transaction, and
what becomes of an abandoned one is not said. -/
def rollsBack : Request → Prop
  | .merge _ | .setActive _ _ => False
  | _ => True

/-- A request at another time is answered alike, but for the moment of creation. -/
theorem run_clock (settings : Settings) (request : Request) (hRequest : request.rollsBack)
    (outside : Program.Surroundings) (session : Program.Session) (clock : Nat → Instant)
    (readings : Nat) :
    let now := (request.program settings).run outside session
    let later := (request.program settings).run { outside with clock } { session with readings }
    (request.readsClock → later.1 = now.1.map (Reply.withCreatedAt (clock readings))) ∧
      (¬request.readsClock → later.1 = now.1) := by
  intro now later
  refine ⟨fun hClock => ?_, fun hClock =>
    ((request.keepsTo settings).run_clock outside hClock clock session readings).1⟩
  cases request with
  | create id name author =>
    have hCreate := Operation.run_create_clock settings.maxReviewers id name author outside session
      clock readings
    have hReply : ∀ outside session, (((create id name author).program settings).run outside
        session).1 = ((Operation.create settings.maxReviewers id name author).run outside
          session).1.map .pullRequest := by
      intro outside session
      rw [program, (Program.run_reporting _ _ _ _).1, steps]
      exact Program.run_map outside _ _ session
    refine (hReply _ _).trans ?_
    rw [show now.1 = _ from hReply outside session, hCreate]
    cases ((Operation.create settings.maxReviewers id name author).run outside session).1 <;> rfl
  | merge => exact hRequest.elim
  | _ => exact absurd hClock not_false

/-- **The expired deadline leaves no trace.**  A request that reads only, or writes in a transaction, is
run once without a lock and once while another client holds the write lock beyond the deadline:

* if the free run ends before it makes a write, the locked run is answered alike;
* otherwise the locked run is answered with the expired deadline, whatever the write of the free run
  came to;
* both make the same draws;
* the locked run leaves the store exactly as it was;
* and when the request is run later without the lock, from the same point of the draws, it is answered as
  the free run was: a creation with the moment that the clock shows then, any other request with the very
  same answer. -/
theorem locked_run (store : Store) (settings : Settings) (request : Request)
    (hRequest : request.rollsBack) (outside : Program.Surroundings) (draws readings : Nat) :
    let free := (request.program settings).run outside ⟨store, draws, readings⟩
    let locked := (request.lockedProgram settings).run outside ⟨store, draws, readings⟩
    let calls := (request.program settings).calls outside ⟨store, draws, readings⟩
    ((∀ call ∈ calls, call.isWrite = false) → locked.1 = free.1) ∧
    ((∃ call ∈ calls, call.isWrite = true) →
      locked.1 = .error (.deadlineExceeded settings.deadline)) ∧
    locked.2.drawn = free.2.drawn ∧
    locked.2.session.store = store ∧
    ∀ (clock : Nat → Instant) (readings : Nat),
      let later := (request.program settings).run { outside with clock }
        ⟨locked.2.session.store, draws, readings⟩
      (request.readsClock → later.1 = free.1.map (Reply.withCreatedAt (clock readings))) ∧
        (¬request.readsClock → later.1 = free.1) := by
  intro free locked calls
  have hSteps : (request.steps settings).KeepsTo request.manner false := request.steps_keepsTo settings
  obtain ⟨hAnswer, hDrawn, hStore⟩ :=
    hSteps.run_underLock outside settings.deadline ⟨store, draws, readings⟩
  obtain ⟨hLockedAnswer, hLockedSession, hLockedDrawn⟩ :=
    Program.run_reporting outside request.operation
      ((request.steps settings).underLock settings.deadline) ⟨store, draws, readings⟩
  obtain ⟨hFreeAnswer, -, hFreeDrawn⟩ :=
    Program.run_reporting outside request.operation (request.steps settings)
      ⟨store, draws, readings⟩
  have hCalls : calls = (request.steps settings).calls outside ⟨store, draws, readings⟩ :=
    Program.calls_reporting _ _ _ _
  have hLeft : locked.2.session.store = store :=
    (congrArg Program.Session.store hLockedSession).trans hStore
  refine ⟨fun hNone => ?_, fun hWrite => ?_, ?_, hLeft, fun clock readings => ?_⟩
  · rw [hCalls] at hNone
    rw [show locked.1 = _ from hLockedAnswer, hAnswer, if_neg, ← hFreeAnswer]
    · rfl
    · rintro ⟨call, hCall, hWrite⟩
      rw [hNone call hCall] at hWrite
      cases hWrite
  · rw [hCalls] at hWrite
    rw [show locked.1 = _ from hLockedAnswer, hAnswer, if_pos hWrite]
  · exact hLockedDrawn.trans (hDrawn.trans hFreeDrawn.symm)
  · rw [hLeft]
    exact run_clock settings request hRequest outside ⟨store, draws, _⟩ clock readings

/-- A creation under an identifier that is taken: without the lock the insertion is refused, under the
lock it is never reached. -/
theorem locked_creation_of_taken :
    let moment : Instant := ⟨0, 0⟩
    let store := ((Store.empty.perform (.upsertTeam ⟨"t", [⟨"a", "Ann", true⟩]⟩)).2.perform
      (.insertPullRequest ⟨"p", "n", "a", .opened, ⟨[], by decide⟩, moment, none⟩)).2
    let outside : Program.Surroundings := ⟨fun _ => 0, fun _ => moment⟩
    (((create "p" "n" "a").program default).run outside ⟨store, 0, 0⟩).1 =
        .error (.alreadyExists "p") ∧
      (((create "p" "n" "a").lockedProgram default).run outside ⟨store, 0, 0⟩).1 =
        .error (.deadlineExceeded 5000) := by
  intro moment store outside
  refine ⟨by decide +kernel, ?_⟩
  refine (locked_run store default (create "p" "n" "a") trivial outside 0 0).2.1
    ⟨.insertPullRequest ⟨"p", "n", "a", .opened, ⟨[], by decide⟩, moment, none⟩, ?_, rfl⟩
  decide +kernel

end Request

end ReviewAssignment
