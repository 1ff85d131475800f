import ReviewAssignment.Proofs.Alone.Readings
import ReviewAssignment.Proofs.Alone.Served
import ReviewAssignment.Proofs.Interleaving.Upserts

/-!
# The order of team upserts

Stores are told apart by what they answer.  What a lookup is answered depends on what the roster shows
(`Request.run_teamByName`, `Request.run_teamByMember`, `Request.run_profile`), and what a list or a report
is answered depends on the reviews; so two stores that show the same roster and have the same reviews give
the same answers (`Store.SameRoster.sameAnswers`), even if they number their teams differently.

From it, `Turn.upserts_commute`: the order of two upserts of different teams does not show, if they are
accepted in both orders, and neither does it show whether an upsert is made once or twice.
-/

namespace ReviewAssignment

open Program Operation

variable {store one two : Store} {turn : Turn} {team : Team}

/-! ### Stores with the same answers -/

/-- Two stores give the same answers to whatever is asked about users, teams, lists and reports, and
the same pull requests. -/
structure Store.SameAnswers (store other : Store) : Prop where
  reads : ∀ turn : Turn, turn.request.isRead = true → turn.answer store = turn.answer other
  pullRequests : ∀ id, store.pullRequest? id = other.pullRequest? id

/-- A profile shows the name of the team that a user belongs to. -/
theorem Store.SameRoster.profileOf (h : one.SameRoster two) : one.profileOf = two.profileOf := by
  funext user
  exact congrArg (fun name : Option TeamName => (⟨user, name.getD ""⟩ : Profile)) (h.teamNames user.id)

/-- **Nothing but the roster and the reviews is answered.** -/
theorem Store.SameRoster.sameAnswers (h : one.SameRoster two) (hOne : one.Consistent)
    (hTwo : two.Consistent) (hFirst : store.RosterOnly one) (hSecond : store.RosterOnly two) :
    one.SameAnswers two := by
  refine ⟨?_, fun id => (hFirst.pullRequest? id).trans (hSecond.pullRequest? id).symm⟩
  rintro ⟨settings, request, outside, draws, readings⟩ hRead
  have hTeams : one.teamShown? = two.teamShown? := funext h.teams
  rw [Turn.answer, Turn.outcome, Turn.answer, Turn.outcome]
  cases request with
  | teamByName name => rw [Request.run_teamByName, Request.run_teamByName, hTeams]
  | teamByMember user =>
    rw [Request.run_teamByMember hOne, Request.run_teamByMember hTwo, hTeams, h.teamNames]
  | profile user => rw [Request.run_profile hOne, Request.run_profile hTwo, h.users, h.profileOf]
  | reviews user =>
    rw [Request.run_reviews, Request.run_reviews, h.users, hFirst.reviewsOf, hSecond.reviewsOf]
  | reviewerLoads =>
    exact congrArg (fun loads => Except.ok (Reply.loads loads))
      (hFirst.reviewerLoads.trans hSecond.reviewerLoads.symm)
  | reviewerCounts =>
    exact congrArg (fun counts => Except.ok (Reply.counts counts))
      (hFirst.reviewerCounts.trans hSecond.reviewerCounts.symm)
  | _ => cases hRead

/-! ### Upserts -/

namespace Turn

/-- An accepted upsert has written its team. -/
theorem upserted (hStore : store.Consistent) (hRequest : turn.request = .upsertTeam team)
    (hSucceeds : turn.Succeeds store) :
    teamFault? team = none ∧ store.upsertTeam team = .ok (turn.left store) := by
  have hServed := served hStore hSucceeds
  rw [hRequest] at hServed
  exact hServed.of_upsertTeam

/-- An upsert that the store takes is accepted, if there is no complaint about the team itself. -/
theorem answer_upsert (hStore : store.Consistent) (hRequest : turn.request = .upsertTeam team)
    (hFault : teamFault? team = none) {written : Store} (hWritten : store.upsertTeam team = .ok written) :
    turn.answer store = .ok (.team team) ∧ turn.left store = written := by
  obtain ⟨hName, hNamed, hDistinct⟩ := teamFault?_eq_none_iff.1 hFault
  have hAdmits : store.Admits team := ⟨hName, hNamed, hDistinct, (hStore.of_upsertTeam hWritten).2⟩
  have hRun := (Request.run_upsertTeam turn.settings turn.outside ⟨store, turn.draws, turn.readings⟩
    hStore team).2 (Store.upsertFault?_eq_none_iff.2 hAdmits)
  rw [← hRequest] at hRun
  exact ⟨hRun.1, Except.ok.inj (hRun.2.symm.trans hWritten)⟩

/-- **The order of upserts does not show.**  In every store that there can be:

* if two teams with different names are upserted one after the other, and both upserts are accepted in the
  one order as well as in the other, then both orders leave stores that give the same answers;
* and an upsert that is accepted is accepted if it is made again at once, and then nothing is answered
  differently. -/
theorem upserts_commute (hReachable : store.Reachable) :
    (∀ (first second : Turn) (early late : Team), first.request = .upsertTeam early →
      second.request = .upsertTeam late → early.name ≠ late.name →
      first.Succeeds store → second.Succeeds (first.left store) →
      second.Succeeds store → first.Succeeds (second.left store) →
      (second.left (first.left store)).SameAnswers (first.left (second.left store))) ∧
    ∀ (first again : Turn) (team : Team), first.request = .upsertTeam team →
      again.request = .upsertTeam team → first.Succeeds store →
      again.answer (first.left store) = .ok (.team team) ∧
        (again.left (first.left store)).SameAnswers (first.left store) := by
  have hStore := hReachable.consistent
  refine ⟨fun first second early late hEarly hLate hNames hFirst hThen hSecond hBack => ?_,
    fun first again team hTeam hAgain hFirst => ?_⟩
  · have hFirstLeft : (first.left store).Consistent := (reachable_left hReachable).consistent
    have hSecondLeft : (second.left store).Consistent := (reachable_left hReachable).consistent
    have hEarlyWritten := (upserted hStore hEarly hFirst).2
    have hLateWritten := (upserted hStore hLate hSecond).2
    have hOneWritten := (upserted hFirstLeft hLate hThen).2
    have hTwoWritten := (upserted hSecondLeft hEarly hBack).2
    have hRoster := hStore.sameRoster_upserts hNames hEarlyWritten hOneWritten hLateWritten hTwoWritten
    refine hRoster.sameAnswers (hFirstLeft.upsertTeam hOneWritten) (hSecondLeft.upsertTeam hTwoWritten)
      ((Store.rosterOnly_upsertTeam hEarlyWritten).trans (Store.rosterOnly_upsertTeam hOneWritten)) ?_
    exact (Store.rosterOnly_upsertTeam hLateWritten).trans (Store.rosterOnly_upsertTeam hTwoWritten)
  · have hFirstLeft : (first.left store).Consistent := (reachable_left hReachable).consistent
    obtain ⟨hFault, hWritten⟩ := upserted hStore hTeam hFirst
    obtain ⟨written, hAgainWritten, hRoster⟩ := hStore.exists_upserted_again hWritten
    obtain ⟨hAnswer, rfl⟩ := answer_upsert hFirstLeft hAgain hFault hAgainWritten
    refine ⟨hAnswer, hRoster.sameAnswers (hFirstLeft.upsertTeam hAgainWritten) hFirstLeft
      (Store.rosterOnly_upsertTeam hAgainWritten) (.refl _)⟩

/-- Bob has been left out of his team.  One upsert takes him over, another one adds a team of others: the
two orders number the new teams differently, and nobody is told. -/
theorem upserts_commute_of_detached :
    let backend : Team := ⟨"backend", [⟨"a", "Ann", true⟩, ⟨"b", "Bob", true⟩]⟩
    let mobile : Team := ⟨"mobile", [⟨"c", "Cy", true⟩, ⟨"b", "Bob", false⟩]⟩
    let web : Team := ⟨"web", [⟨"d", "Dan", true⟩]⟩
    let upsert := fun team => (⟨default, .upsertTeam team, ⟨fun _ => 0, fun _ => default⟩, 0, 0⟩ : Turn)
    let store := Store.empty.after [upsert backend, upsert { backend with members := [⟨"a", "Ann", true⟩] }]
    let one := (upsert web).left ((upsert mobile).left store)
    let two := (upsert mobile).left ((upsert web).left store)
    one.teams ≠ two.teams ∧ one.SameAnswers two ∧
      ((upsert mobile).left ((upsert mobile).left store)).SameAnswers ((upsert mobile).left store) := by
  intro backend mobile web upsert store one two
  have hReachable : store.Reachable := Store.Reachable.empty.after _
  have hMobile : (upsert mobile).Succeeds store := ⟨.team mobile, by decide +kernel⟩
  have hWeb : (upsert web).Succeeds store := ⟨.team web, by decide +kernel⟩
  have hThen : (upsert web).Succeeds ((upsert mobile).left store) := ⟨.team web, by decide +kernel⟩
  have hBack : (upsert mobile).Succeeds ((upsert web).left store) :=
    ⟨.team mobile, by decide +kernel⟩
  obtain ⟨hOrders, hTwice⟩ := upserts_commute hReachable
  exact ⟨by decide +kernel,
    hOrders (upsert mobile) (upsert web) mobile web rfl rfl (by decide) hMobile hThen hWeb hBack,
    (hTwice (upsert mobile) (upsert mobile) mobile rfl rfl hMobile).2⟩

end Turn

end ReviewAssignment
