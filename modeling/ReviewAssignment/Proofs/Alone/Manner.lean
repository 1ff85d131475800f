import ReviewAssignment.Operation.Request
import ReviewAssignment.Proofs.Rules
import ReviewAssignment.Proofs.Store.About

/-!
# What a program may do

Some properties of a program are read off its text, whatever the store answers and whatever is drawn:
which pull request it asks about, whether it writes, whether it looks at the clock, and that it draws
nothing any more once it has written.  `Program.KeepsTo` says this of a program and a `Manner`, and
`Request.keepsTo` says which manner the requests have.

From the manner it follows what a run depends on, and what it leaves alone:

* `Program.KeepsTo.drawn_of_written`: nothing is drawn after a write;
* `Program.KeepsTo.run_clock`: a program that does not look at the clock does the same at any time;
* `Program.KeepsTo.run_about`: a program that asks about one pull request does the same in every store
  that is the same about this pull request, and leaves the parts about the others alone.
-/

namespace ReviewAssignment

open Time (Instant)
open Store (Call)

variable {α β : Type}

structure Manner where
  /-- The one pull request that it may ask about, if it may not ask about all of them. -/
  about : Option PullRequestId
  /-- It may write. -/
  writes : Prop
  /-- It may look at the clock. -/
  clock : Prop

structure Manner.Allows (manner : Manner) (call : Call) : Prop where
  writes : call.isWrite = true → manner.writes
  about : ∀ id, manner.about = some id → call.Sees id ∧ ¬call.WritesRoster

/-- The manner of the parts of a program that only look around. -/
def Manner.looking (manner : Manner) : Manner :=
  { manner with writes := False, clock := False }

/-- The steps that a manner allows, by whether something has been written before: calls that are
allowed, readings of the clock if there may be any, and no draw after a write. -/
def Manner.rules (manner : Manner) : Rules Bool where
  call written asked rest := manner.Allows asked ∧ ∀ given, rest given (written || asked.isWrite)
  draw written := written = false
  clock written rest := manner.clock ∧ ∀ moment, rest moment written
  note written rest := rest written
  call_mono hRest hCall := ⟨hCall.1, fun given => hRest given _ (hCall.2 given)⟩
  clock_mono hRest hClock := ⟨hClock.1, fun moment => hRest moment _ (hClock.2 moment)⟩
  note_mono hRest hNote := hRest _ hNote

instance (manner : Manner) : manner.rules.Quiet := ⟨fun _ _ => rfl⟩

namespace Program

/-- **A program keeps to a manner**, from a point on at which it has written already or not. -/
def KeepsTo (manner : Manner) (written : Bool) (program : Program α) : Prop :=
  program.Obeys manner.rules (fun _ _ => True) (fun _ _ => True) written

variable {manner : Manner} {written : Bool}

/-- Looking around first makes no difference to what may be done next. -/
theorem Obeys.looking_bind {first : Program β} {next : β → Program α}
    (h : first.KeepsTo manner.looking written)
    (hNext : ∀ result, (next result).KeepsTo manner written) :
    (first >>= next).KeepsTo manner written := by
  induction first with
  | done result => exact hNext result
  | fail cause => trivial
  | call asked rest ih =>
    have hRead : asked.isWrite = false := Bool.eq_false_iff.2 h.1.writes
    refine ⟨⟨fun hWrite => absurd hWrite (Bool.eq_false_iff.1 hRead), h.1.about⟩, fun given => ?_⟩
    have hGiven := h.2 given
    rw [hRead, Bool.or_false] at hGiven ⊢
    exact ih given hGiven
  | draw others rest ih => exact ⟨h.1, fun choice => ih choice (h.2 choice)⟩
  | clock rest ih => exact absurd h.1 id
  | note entry rest ih => exact ih h

namespace KeepsTo

variable {program : Program α}

/-! ### What follows for a run -/

variable (outside : Surroundings)

/-- **After a write nothing is drawn.** -/
theorem drawn_of_written (h : program.KeepsTo manner true) (session : Session) :
    (program.run outside session).2.drawn = [] := by
  induction program generalizing session with
  | done result => rfl
  | fail cause => rfl
  | call asked rest ih => exact ih _ (h.2 _) { session with store := (session.store.perform asked).2 }
  | draw others rest ih => cases h.1
  | clock rest ih => exact ih _ (h.2 _) { session with readings := session.readings + 1 }
  | note entry rest ih => exact ih h session

/-- **A program that does not look at the clock** does the same at any time. -/
theorem run_clock (h : program.KeepsTo manner written) (hClock : ¬manner.clock)
    (clock : Nat → Instant) (session : Session) (readings : Nat) :
    (program.run { outside with clock } { session with readings }).1 =
        (program.run outside session).1 ∧
      (program.run { outside with clock } { session with readings }).2.session =
        { (program.run outside session).2.session with readings } ∧
      (program.run outside session).2.session.readings = session.readings := by
  induction program generalizing written session with
  | done result => exact ⟨rfl, rfl, rfl⟩
  | fail cause => exact ⟨rfl, rfl, rfl⟩
  | call asked rest ih =>
    exact ih _ (h.2 _) { session with store := (session.store.perform asked).2 }
  | draw others rest ih => exact ih _ (h.2 _) { session with draws := session.draws + 1 }
  | clock rest ih => exact absurd h.1 hClock
  | note entry rest ih => exact ih h session

variable {id other : PullRequestId}

/-- **A program that asks about one pull request** runs on the part about it as it runs on the whole
store. -/
theorem run_about (h : program.KeepsTo manner written) (hAbout : manner.about = some id)
    (session : Session) :
    program.run outside { session with store := session.store.about id } =
      ((program.run outside session).1,
        { (program.run outside session).2 with
          session := { (program.run outside session).2.session with
            store := (program.run outside session).2.session.store.about id } }) := by
  induction program generalizing written session with
  | done result => rfl
  | fail cause => rfl
  | call asked rest ih =>
    have hSame := Store.perform_about session.store (h.1.about id hAbout).1
    rw [run, run]
    simp only [hSame]
    exact ih _ (h.2 _) { session with store := (session.store.perform asked).2 }
  | draw others rest ih =>
    have hRest := ih (Draws.alternative (outside.source session.draws) others) (h.2 _)
      { session with draws := session.draws + 1 }
    rw [run, run]
    simp only at hRest ⊢
    rw [hRest]
  | clock rest ih => exact ih _ (h.2 _) { session with readings := session.readings + 1 }
  | note entry rest ih =>
    rw [run, run]
    simp only
    rw [ih h session]

/-- It leaves the parts about all other pull requests alone. -/
theorem about_run_of_ne (h : program.KeepsTo manner written) (hAbout : manner.about = some id)
    (session : Session) (hOther : other ≠ id) :
    (program.run outside session).2.session.store.about other = session.store.about other := by
  induction program generalizing written session with
  | done result => rfl
  | fail cause => rfl
  | call asked rest ih =>
    obtain ⟨hSees, hRoster⟩ := h.1.about id hAbout
    refine (ih _ (h.2 _) { session with store := (session.store.perform asked).2 }).trans ?_
    exact Store.about_perform_of_ne hSees hRoster hOther
  | draw others rest ih => exact ih _ (h.2 _) { session with draws := session.draws + 1 }
  | clock rest ih => exact ih _ (h.2 _) { session with readings := session.readings + 1 }
  | note entry rest ih => exact ih h session

end KeepsTo

end Program

/-! ### The operations -/

/-- A call that reads nothing but the roster is allowed to every program. -/
theorem Manner.allows_roster {manner : Manner} {call : Call} (hRead : call.isWrite = false)
    (hSees : ∀ id, call.Sees id) : manner.Allows call := by
  refine ⟨fun hWrite => absurd hWrite (Bool.eq_false_iff.1 hRead), fun id _ => ⟨hSees id, ?_⟩⟩
  cases call <;> first | exact not_false | cases hRead

/-- A call about one pull request is allowed to a program that may ask about it. -/
theorem Manner.allows_sees {manner : Manner} {call : Call} {id : PullRequestId}
    (hAbout : ∀ other, manner.about = some other → other = id) (hSees : call.Sees id)
    (hRoster : ¬call.WritesRoster) (hWrites : call.isWrite = true → manner.writes) :
    manner.Allows call :=
  ⟨hWrites, fun _ hOther => hAbout _ hOther ▸ ⟨hSees, hRoster⟩⟩

namespace Operation

open Program

variable {manner : Manner} {written : Bool} {id : PullRequestId}

theorem readTeam_keepsTo (row? : Option TeamRow) : (readTeam row?).KeepsTo manner written := by
  cases row? with
  | none => trivial
  | some row => exact .ask_bind ⟨Manner.allows_roster rfl fun _ => trivial, fun _ => trivial⟩

theorem readTeamOf_keepsTo (user : UserId) : (readTeamOf user).KeepsTo manner written :=
  .ask_bind ⟨Manner.allows_roster rfl fun _ => trivial, fun row? => readTeam_keepsTo row?⟩

theorem loadUser_keepsTo (user : UserId) : (loadUser user).KeepsTo manner written := by
  refine .ask_bind ⟨Manner.allows_roster rfl fun _ => trivial, fun user? => ?_⟩
  cases user? <;> trivial

theorem readProfile_keepsTo (user : User) : (readProfile user).KeepsTo manner written :=
  .ask_bind ⟨Manner.allows_roster rfl fun _ => trivial, fun _ => trivial⟩

theorem readPullRequest_keepsTo (hAbout : ∀ other, manner.about = some other → other = id) :
    (readPullRequest id).KeepsTo manner written := by
  have hAllows : ∀ call : Call, call.isWrite = false → call.Sees id → ¬call.WritesRoster →
      manner.Allows call := fun call hRead hSees hRoster =>
    Manner.allows_sees hAbout hSees hRoster fun hWrite => absurd hWrite (Bool.eq_false_iff.1 hRead)
  refine .ask_bind ⟨hAllows _ rfl rfl not_false, fun row? => ?_⟩
  cases row? with
  | none => trivial
  | some row =>
    exact .ask_bind ⟨hAllows _ rfl rfl not_false, fun reviewers =>
      .ofExcept_bind (fun _ _ => trivial) fun pr _ => trivial⟩

theorem loadPullRequest_keepsTo (hAbout : ∀ other, manner.about = some other → other = id) :
    (loadPullRequest id).KeepsTo manner written := by
  refine .looking_bind (readPullRequest_keepsTo hAbout) fun pr? => ?_
  cases pr? <;> trivial

/-- A creation looks around, draws, looks at the clock and writes. -/
theorem create_keepsTo (limit : Nat) (name : String) (author : UserId) :
    (create limit id name author).KeepsTo ⟨some id, True, True⟩ false := by
  refine .check_bind (fun _ _ => trivial) fun _ => .check_bind (fun _ _ => trivial) fun _ => ?_
  refine .check_bind (fun _ _ => trivial) fun _ => .log_bind ?_
  refine .looking_bind (readTeamOf_keepsTo author) fun team? => ?_
  refine .ofOption_bind (fun _ => trivial) fun team _ => ?_
  refine .ofDraws_bind rfl (selectReviewers_all team author limit) fun selected _ => ?_
  refine .ofExcept_bind (fun _ _ => trivial) fun reviewers _ => .now_bind ⟨trivial, fun createdAt => ?_⟩
  refine .ask_bind ⟨⟨fun _ => trivial, ?_⟩, fun given => ?_⟩
  · rintro - ⟨⟩
    exact ⟨rfl, not_false⟩
  · exact .ofExcept_bind (fun _ _ => trivial) fun _ _ => .log_bind trivial

/-- A merge looks at the clock, writes and reads back. -/
theorem merge_keepsTo : (merge id).KeepsTo ⟨some id, True, True⟩ false := by
  refine .check_bind (fun _ _ => trivial) fun _ => .log_bind (.now_bind ⟨trivial, fun moment => ?_⟩)
  refine .ask_bind ⟨⟨fun _ => trivial, ?_⟩, fun applied => ?_⟩
  · rintro - ⟨⟩
    exact ⟨rfl, not_false⟩
  · refine .looking_bind (loadPullRequest_keepsTo ?_) fun pr => ?_
    · rintro - ⟨⟩
      rfl
    · split
      · trivial
      · split
        · trivial
        · exact .log_bind trivial

theorem reassign_keepsTo (old : UserId) :
    (reassign id old).KeepsTo ⟨some id, True, False⟩ false := by
  have hAbout : ∀ other, some id = some other → other = id :=
    fun _ hSame => (Option.some.inj hSame).symm
  refine .check_bind (fun _ _ => trivial) fun _ => .check_bind (fun _ _ => trivial) fun _ => .log_bind ?_
  refine .looking_bind (loadPullRequest_keepsTo hAbout) fun pr => ?_
  refine .check_bind (fun _ _ => trivial) fun _ => ?_
  refine .looking_bind (readTeamOf_keepsTo old) fun team? => ?_
  refine .ofOption_bind (fun _ => trivial) fun team _ => ?_
  refine .ofDraws_bind rfl (pickReplacement_all _) fun picked _ => ?_
  refine .ofOption_bind (fun _ => trivial) fun replacement _ => ?_
  refine .ofExcept_bind (fun _ _ => trivial) fun _ _ => ?_
  refine .ask_bind ⟨⟨fun _ => trivial, ?_⟩, fun given => ?_⟩
  · rintro - ⟨⟩
    exact ⟨rfl, not_false⟩
  · refine .ofExcept_bind (fun _ _ => trivial) fun updated? _ => ?_
    cases updated? with
    | none => exact .looking_bind (loadPullRequest_keepsTo hAbout) fun _ => trivial
    | some updated =>
      refine .log_bind ?_
      split
      · exact .log_bind trivial
      · trivial

end Operation

/-! ### The requests -/

namespace Request

def pullRequest? : Request → Option PullRequestId
  | .create id _ _ | .merge id | .reassign id _ => some id
  | _ => none

def readsClock : Request → Prop
  | .create _ _ _ | .merge _ => True
  | _ => False

def manner (request : Request) : Manner :=
  ⟨request.pullRequest?, True, request.readsClock⟩

open Program Operation

/-- What a request may do. -/
theorem steps_keepsTo (settings : Settings) (request : Request) :
    (request.steps settings).KeepsTo request.manner false := by
  have hAll : ∀ {call : Call}, request.pullRequest? = none → request.manner.Allows call := by
    intro call hNone
    refine ⟨fun _ => trivial, fun id hId => ?_⟩
    cases hNone.symm.trans hId
  cases request with
  | create id name author => exact .map Reply.pullRequest (create_keepsTo settings.maxReviewers name author)
  | merge id => exact .map Reply.pullRequest merge_keepsTo
  | reassign id old => exact .map Reply.reassignment (reassign_keepsTo old)
  | upsertTeam team =>
    refine .map Reply.team (.check_bind (fun _ _ => trivial) fun _ => .log_bind ?_)
    refine .ask_bind ⟨hAll rfl, fun names => .check_bind (fun _ _ => trivial) fun _ => ?_⟩
    exact .ask_bind ⟨hAll rfl, fun _ => .ofExcept_bind (fun _ _ => trivial) fun _ _ => trivial⟩
  | setActive user active =>
    refine .map Reply.profile (.check_bind (fun _ _ => trivial) fun _ => .log_bind ?_)
    refine .ask_bind ⟨hAll rfl, fun known => ?_⟩
    cases known with
    | true => exact .looking_bind (loadUser_keepsTo user) fun record => readProfile_keepsTo record
    | false => trivial
  | teamByName name =>
    refine .map Reply.team (.check_bind (fun _ _ => trivial) fun _ => ?_)
    refine .ask_bind ⟨hAll rfl, fun row? => ?_⟩
    exact .looking_bind (readTeam_keepsTo row?) fun team? => by cases team? <;> trivial
  | teamByMember user =>
    refine .map Reply.team (.check_bind (fun _ _ => trivial) fun _ => ?_)
    refine .looking_bind (readTeamOf_keepsTo user) fun team? => ?_
    cases team? <;> trivial
  | profile user =>
    refine .map Reply.profile (.check_bind (fun _ _ => trivial) fun _ => ?_)
    exact .looking_bind (loadUser_keepsTo user) fun record => readProfile_keepsTo record
  | reviews user =>
    refine .map Reply.reviews (.check_bind (fun _ _ => trivial) fun _ => ?_)
    refine .looking_bind (loadUser_keepsTo user) fun record => ?_
    exact .ask_bind ⟨hAll rfl, fun _ => trivial⟩
  | reviewerLoads => exact .ask_bind ⟨hAll rfl, fun _ => trivial⟩
  | reviewerCounts => exact .ask_bind ⟨hAll rfl, fun _ => trivial⟩

theorem keepsTo (settings : Settings) (request : Request) :
    (request.program settings).KeepsTo request.manner false :=
  (request.steps_keepsTo settings).reporting request.operation

end Request

end ReviewAssignment
