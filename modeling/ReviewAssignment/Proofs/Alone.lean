import ReviewAssignment.Operation.Request

/-!
# Programs without company

What a program comes to when no other client is around.  `Program.reached` is how far it gets by itself:
to its first draw, or to its end if it draws nothing.  The lemmas below follow the ways in which
programs are put together, so that an operation is carried out by rewriting, and the readings that the
operations share are carried out once.
-/

namespace ReviewAssignment

variable {α β : Type} {outside : Program.Surroundings} {session later : Program.Session}

namespace Program

/-- **How far a program gets by itself**: what is left of it at its first draw or at its end, and where
the service stands then. -/
def reached (outside : Surroundings) (program : Program α) (session : Session) :
    Program α × Session :=
  ((program.untilDraw outside session).1, (program.untilDraw outside session).2.session)

variable (program : Program α)

/-- First one program, then another: the second goes on with what the first came to. -/
theorem reached_bind (next : α → Program β) :
    (program >>= next).reached outside session =
      ((program.reached outside session).1 >>= next).reached outside
        (program.reached outside session).2 := by
  induction program generalizing session with
  | call asked rest ih => exact ih _
  | clock rest ih => exact ih _
  | note entry rest ih => exact ih
  | _ => rfl

/-- A program runs on from its first draw. -/
theorem run_eq_run_reached :
    (program.run outside session).1 =
        ((program.reached outside session).1.run outside (program.reached outside session).2).1 ∧
      (program.run outside session).2.session =
        ((program.reached outside session).1.run outside
          (program.reached outside session).2).2.session := by
  induction program generalizing session with
  | call asked rest ih => exact ih _
  | clock rest ih => exact ih _
  | note entry rest ih => exact ih
  | _ => exact ⟨rfl, rfl⟩

variable {program}

/-- A program that draws nothing has run when it gets to its end. -/
theorem run_of_reached {given : Except Failure α}
    (h : program.reached outside session = (Program.ofExcept given, later)) :
    (program.run outside session).1 = given ∧ (program.run outside session).2.session = later := by
  rw [run_eq_run_reached program |>.1, run_eq_run_reached program |>.2, h]
  cases given <;> exact ⟨rfl, rfl⟩

theorem exists_of_draws (h : program.draws = true) :
    ∃ others next, program = .draw others next := by
  cases program with
  | draw others next => exact ⟨others, next, rfl⟩
  | _ => cases h

/-! ### The program of a request -/

/-- The program of a request whose operation is given: what it comes to is wrapped up, and a failure is
reported under the name of the operation. -/
def answering (wrap : α → β) (operation : String) (program : Program α) : Program β :=
  (program >>= fun result => pure (wrap result)).reporting operation

/-- A request runs on from where its operation has got to by itself. -/
theorem run_answering_reached (wrap : α → β) (operation : String) (program : Program α)
    (outside : Surroundings) (session : Session) :
    let whole := (program.answering wrap operation).run outside session
    let onward := ((program.reached outside session).1.answering wrap operation).run outside
      (program.reached outside session).2
    whole.1 = onward.1 ∧ whole.2.session = onward.2.session ∧ whole.2.drawn = onward.2.drawn := by
  induction program generalizing session with
  | call asked rest ih => exact ih _ _
  | clock rest ih => exact ih _ _
  | note entry rest ih => exact ih session
  | _ => exact ⟨rfl, rfl, rfl⟩

/-- A request is answered with what its operation came to, wrapped up. -/
theorem run_answering (wrap : α → β) (operation : String) {given : Except Failure α}
    (h : program.reached outside session = (Program.ofExcept given, later)) :
    ((program.answering wrap operation).run outside session).1 = given.map wrap ∧
      ((program.answering wrap operation).run outside session).2.session = later := by
  obtain ⟨hAnswer, hSession, -⟩ := run_answering_reached wrap operation program outside session
  rw [hAnswer, hSession, h]
  cases given <;> exact ⟨rfl, rfl⟩

theorem drawn_answering (wrap : α → β) (operation : String) {given : Except Failure α}
    (h : program.reached outside session = (Program.ofExcept given, later)) :
    ((program.answering wrap operation).run outside session).2.drawn = [] := by
  rw [(run_answering_reached wrap operation program outside session).2.2, h]
  cases given <;> rfl

/-- A request that draws draws what its operation draws. -/
theorem exists_draw_of_answering {wrap : α → β} {operation : String} {others : Nat}
    {next : Fin (others + 1) → Program β}
    (h : ((program.answering wrap operation).reached outside session).1 = .draw others next) :
    ∃ inner, (program.reached outside session).1 = .draw others inner ∧
      next = fun choice => (inner choice).answering wrap operation := by
  induction program generalizing session with
  | done result => cases h
  | fail cause => cases h
  | draw others inner ih =>
    cases h
    exact ⟨inner, rfl, rfl⟩
  | call asked rest ih => exact ih _ h
  | clock rest ih => exact ih _ h
  | note entry rest ih => exact ih h

/-! ### Steps -/

theorem reached_ask_bind {asked : Store.Call} {next : asked.Answer → Program β} :
    (ask asked >>= next).reached outside session =
      (next (session.store.perform asked).1).reached outside
        { session with store := (session.store.perform asked).2 } :=
  rfl

/-- Reading leaves the service where it stands. -/
theorem reached_read_bind {asked : Store.Call} {next : asked.Answer → Program β}
    (hRead : asked.isWrite = false) :
    (ask asked >>= next).reached outside session =
      (next (session.store.perform asked).1).reached outside session := by
  rw [reached_ask_bind, Store.perform_of_not_isWrite _ hRead]

theorem reached_ofOption {missing : Failure} (found : Option α) :
    (ofOption missing found).reached outside session =
      (Program.ofExcept (found.elim (.error missing) .ok), session) := by
  cases found <;> rfl

end Program

namespace Operation

open Program

theorem require_eq (value field : String) :
    require value field = if Text.isBlank value then .fail (.blank field) else .done () := by
  rw [require, blankFault?]
  split <;> rfl

theorem reached_readPullRequest (id : PullRequestId) :
    (readPullRequest id).reached outside session =
      (Program.ofExcept (session.store.pullRequest? id), session) := by
  rw [readPullRequest, Store.pullRequest?, reached_read_bind rfl,
    show (session.store.perform (.pullRequestRow id)).1 = session.store.pullRequestRow? id from rfl]
  cases session.store.pullRequestRow? id with
  | none => rfl
  | some row =>
    simp only
    rw [reached_read_bind rfl,
      show (session.store.perform (.reviewersOf id)).1 = session.store.reviewersOf id from rfl]
    cases row.assemble (session.store.reviewersOf id) <;> rfl

theorem reached_loadPullRequest {id : PullRequestId} {stored : Option PullRequest}
    (h : session.store.pullRequest? id = .ok stored) :
    (loadPullRequest id).reached outside session =
      (Program.ofExcept (stored.elim (.error (Failure.notFound "PullRequest" (some id))) .ok), session) := by
  rw [loadPullRequest, reached_bind, reached_readPullRequest, h]
  exact reached_ofOption stored

theorem reached_readTeam (row? : Option TeamRow) :
    (readTeam row?).reached outside session =
      (Program.ofExcept (.ok (row?.map session.store.teamOfRow)), session) := by
  cases row? <;> rfl

theorem reached_readTeamOf (user : UserId) :
    (readTeamOf user).reached outside session =
      (Program.ofExcept (.ok ((session.store.teamOf? user).map session.store.teamOfRow)), session) := by
  rw [readTeamOf, reached_read_bind rfl]
  exact reached_readTeam _

theorem reached_loadUser (id : UserId) :
    (loadUser id).reached outside session =
      (Program.ofExcept ((session.store.user? id).elim (.error (Failure.notFound "User" (some id))) .ok),
        session) := by
  rw [loadUser, reached_read_bind rfl]
  exact reached_ofOption _

end Operation

end ReviewAssignment
