import ReviewAssignment.Proofs.Alone.Manner
import ReviewAssignment.Proofs.Alone.Served
import ReviewAssignment.Proofs.Store.SameRows

/-!
# Operations on different pull requests

A creation, a merge or a reassignment asks about the one pull request that it names, and about the
roster, which it leaves alone.  So it does not notice what was done to other pull requests before it, and
two of them that name different pull requests may change places (`Turn.independent`).

The two orders may leave the rows of the two pull requests in different places of their tables.  Nothing
ever shows it: `Turn.answer_after_sameRows` says that whatever is asked next is answered alike.
-/

namespace ReviewAssignment

open Store (Call)

variable {α : Type} {store other : Store} {id part : PullRequestId}

/-! ### Stores with the same rows -/

/-- No program can tell stores with the same rows apart. -/
theorem Program.run_sameRows (program : Program α) (outside : Surroundings) (session : Session)
    (hSame : session.store.SameRows other) (hStore : session.store.Consistent) :
    (program.run outside session).1 = (program.run outside { session with store := other }).1 ∧
      (program.run outside session).2.session.store.SameRows
        (program.run outside { session with store := other }).2.session.store := by
  induction program generalizing session other with
  | done result => exact ⟨rfl, hSame⟩
  | fail cause => exact ⟨rfl, hSame⟩
  | call asked rest ih =>
    obtain ⟨hAnswer, hLeft⟩ := hSame.perform hStore asked
    have hRest := ih (session.store.perform asked).1
      { session with store := (session.store.perform asked).2 } hLeft (hStore.perform asked)
    rw [run, run]
    simp only at hRest ⊢
    rw [← hAnswer]
    exact hRest
  | draw others rest ih => exact ih _ { session with draws := session.draws + 1 } hSame hStore
  | clock rest ih => exact ih _ { session with readings := session.readings + 1 } hSame hStore
  | note entry rest ih => exact ih session hSame hStore

namespace Turn

variable {turn : Turn}

/-- **Stores with the same rows are the same to everybody**, now and later. -/
theorem answer_after_sameRows (hSame : store.SameRows other) (hReachable : store.Reachable)
    (turns : List Turn) (turn : Turn) :
    turn.answer (store.after turns) = turn.answer (other.after turns) := by
  induction turns generalizing store other with
  | nil => exact (Program.run_sameRows _ turn.outside ⟨store, turn.draws, turn.readings⟩ hSame
      hReachable.consistent).1
  | cons first rest ih =>
    refine ih ?_ (reachable_left hReachable)
    exact (Program.run_sameRows _ first.outside ⟨store, first.draws, first.readings⟩ hSame
      hReachable.consistent).2

/-! ### One operation -/

/-- An operation on a pull request sees no more of a store than what is about this pull request. -/
theorem outcome_of_about (hTurn : turn.request.pullRequest? = some id)
    (hSame : store.about id = other.about id) :
    turn.answer store = turn.answer other ∧
      (turn.left store).about id = (turn.left other).about id := by
  have hKeepsTo := Request.keepsTo turn.settings turn.request
  have hStore := hKeepsTo.run_about turn.outside hTurn ⟨store, turn.draws, turn.readings⟩
  have hOther := hKeepsTo.run_about turn.outside hTurn ⟨other, turn.draws, turn.readings⟩
  simp only [hSame] at hStore
  obtain ⟨hAnswer, hTrace⟩ := Prod.mk.inj (hStore.symm.trans hOther)
  have hLeft := congrArg (fun trace : Program.Trace => trace.session.store) hTrace
  exact ⟨hAnswer, hLeft⟩

/-- An operation on a pull request leaves everything about the others alone. -/
theorem about_left_of_ne (hTurn : turn.request.pullRequest? = some id) (hPart : part ≠ id) :
    (turn.left store).about part = store.about part :=
  (Request.keepsTo turn.settings turn.request).about_run_of_ne _ hTurn _ hPart

theorem roster_left (hTurn : turn.request.pullRequest? = some id) :
    (turn.left store).users = store.users ∧ (turn.left store).teams = store.teams ∧
      (turn.left store).lastTeam = store.lastTeam ∧
      (turn.left store).memberships = store.memberships := by
  -- The roster is in every part, so any part that is left alone shows that it is the same.
  obtain ⟨part, hPart⟩ : ∃ part : PullRequestId, part ≠ id := by
    by_cases hEmpty : id = ""
    · exact ⟨"a", by rw [hEmpty]; decide⟩
    · exact ⟨"", Ne.symm hEmpty⟩
  have hSame : (turn.left store).about part = store.about part := about_left_of_ne hTurn hPart
  exact ⟨(congrArg Store.users hSame :), (congrArg Store.teams hSame :),
    (congrArg Store.lastTeam hSame :), (congrArg Store.memberships hSame :)⟩

/-- A write to the roster leaves the pull requests alone. -/
theorem pullRequests_left (hStore : store.Consistent)
    (hTurn : (∃ team, turn.request = .upsertTeam team) ∨
      ∃ user active, turn.request = .setActive user active) :
    (turn.left store).pullRequests = store.pullRequests ∧
      (turn.left store).slots = store.slots := by
  by_cases hSucceeds : turn.Succeeds store
  · have hServed := served hStore hSucceeds
    have hOnly : store.RosterOnly (turn.left store) := by
      rcases hTurn with ⟨team, hRequest⟩ | ⟨user, active, hRequest⟩
      · rw [hRequest] at hServed
        exact Store.rosterOnly_upsertTeam hServed.of_upsertTeam.2
      · rw [hRequest] at hServed
        rw [hServed.of_setActive.2.2]
        exact Store.rosterOnly_setActive store user active
    exact ⟨hOnly.pullRequests, hOnly.slots⟩
  · rw [left_of_not_succeeds hStore hSucceeds]
    exact ⟨rfl, rfl⟩

/-! ### Two operations -/

theorem sameRows_of_ne {first second : Turn} (hFirst : first.request.pullRequest? = some id)
    (hSecond : second.request.pullRequest? = some part) (hOther : id ≠ part) :
    (second.left (first.left store)).SameRows (first.left (second.left store)) := by
  intro piece
  by_cases hId : piece = id
  · subst hId
    have hBefore : (second.left store).about piece = store.about piece :=
      about_left_of_ne hSecond hOther
    rw [about_left_of_ne hSecond hOther, (outcome_of_about hFirst hBefore).2]
  · rw [about_left_of_ne hFirst hId]
    by_cases hPart : piece = part
    · subst hPart
      exact (outcome_of_about hSecond (about_left_of_ne hFirst hId)).2
    · rw [about_left_of_ne hSecond hPart, about_left_of_ne hFirst hId, about_left_of_ne hSecond hPart]

/-- How two turns are independent in a store.

* Each is answered alike whether it is served first or second.
* Both orders leave the same users, teams and memberships, and the same rows of pull requests and slots,
  up to the order of the rows.
* No call of the store can tell the two orders apart, and no turn ever after. -/
structure IndependentIn (store : Store) (first second : Turn) : Prop where
  firstAnswer : first.answer (second.left store) = first.answer store
  secondAnswer : second.answer (first.left store) = second.answer store
  users : (second.left (first.left store)).users = (first.left (second.left store)).users
  teams : (second.left (first.left store)).teams = (first.left (second.left store)).teams
  lastTeam : (second.left (first.left store)).lastTeam = (first.left (second.left store)).lastTeam
  memberships :
    (second.left (first.left store)).memberships = (first.left (second.left store)).memberships
  pullRequests :
    (second.left (first.left store)).pullRequests.Perm (first.left (second.left store)).pullRequests
  slots : (second.left (first.left store)).slots.Perm (first.left (second.left store)).slots
  calls : ∀ call, ((second.left (first.left store)).perform call).1 =
    ((first.left (second.left store)).perform call).1
  later : ∀ turns turn, Turn.answer turn ((second.left (first.left store)).after turns) =
    Turn.answer turn ((first.left (second.left store)).after turns)

/-- **Operations on different pull requests are independent**: in every store that there can be, two turns,
each with its own draws and its own clock, whose requests are to create, merge or reassign different pull
requests.

And any such turn leaves the users, the teams, the memberships and every other pull request as they
were, while a turn that upserts a team or switches a user leaves all pull requests and slots as they
were. -/
theorem independent (hReachable : store.Reachable) :
    (∀ (first second : Turn) (id part : PullRequestId), first.request.pullRequest? = some id →
      second.request.pullRequest? = some part → id ≠ part → IndependentIn store first second) ∧
    (∀ (turn : Turn) (id : PullRequestId), turn.request.pullRequest? = some id →
      ((turn.left store).users = store.users ∧ (turn.left store).teams = store.teams ∧
        (turn.left store).lastTeam = store.lastTeam ∧
        (turn.left store).memberships = store.memberships) ∧
      ∀ other, other ≠ id → (turn.left store).pullRequest? other = store.pullRequest? other ∧
        (turn.left store).slotsOf other = store.slotsOf other) ∧
    ∀ turn : Turn, ((∃ team, turn.request = .upsertTeam team) ∨
        ∃ user active, turn.request = .setActive user active) →
      (turn.left store).pullRequests = store.pullRequests ∧
        (turn.left store).slots = store.slots := by
  refine ⟨fun first second id part hFirst hSecond hOther => ?_, fun turn id hTurn => ?_,
    fun turn hTurn => pullRequests_left hReachable.consistent hTurn⟩
  · have hSame : (second.left (first.left store)).SameRows (first.left (second.left store)) :=
      sameRows_of_ne hFirst hSecond hOther
    have hReachableOne : (second.left (first.left store)).Reachable :=
      reachable_left (reachable_left hReachable)
    exact ⟨(outcome_of_about hFirst (about_left_of_ne hSecond hOther)).1,
      (outcome_of_about hSecond (about_left_of_ne hFirst (Ne.symm hOther))).1, hSame.users, hSame.teams,
      (congrArg Store.lastTeam (hSame "") :), hSame.memberships, hSame.pullRequests, hSame.slots,
      fun call => (hSame.perform hReachableOne.consistent call).1,
      answer_after_sameRows hSame hReachableOne⟩
  · refine ⟨roster_left hTurn, fun other hOther => ?_⟩
    have hPart : (turn.left store).about other = store.about other := about_left_of_ne hTurn hOther
    rw [← Store.pullRequest?_about, ← Store.slotsOf_about, hPart, Store.pullRequest?_about,
      Store.slotsOf_about]
    exact ⟨rfl, rfl⟩

/-- Two creations.  Each order leaves the rows of the two pull requests in another order. -/
theorem creations_independent :
    let store := (Store.empty.perform (.upsertTeam ⟨"t", [⟨"a", "Ann", true⟩]⟩)).2
    let turn := fun request => (⟨default, request, ⟨fun _ => 0, fun _ => default⟩, 0, 0⟩ : Turn)
    let first := turn (.create "p" "n" "a")
    let second := turn (.create "q" "n" "a")
    let one := second.left (first.left store)
    let two := first.left (second.left store)
    one.pullRequests ≠ two.pullRequests ∧ one.pullRequests.Perm two.pullRequests ∧
      second.answer (first.left store) = second.answer store := by
  intro store turn first second one two
  have hReachable : store.Reachable := .call _ .empty
  have hIndependent := (independent hReachable).1 first second "p" "q" rfl rfl (by decide)
  exact ⟨by decide +kernel, hIndependent.pullRequests, hIndependent.secondAnswer⟩

end Turn

end ReviewAssignment
