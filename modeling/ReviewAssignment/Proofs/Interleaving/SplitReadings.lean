import ReviewAssignment.Proofs.Interleaving.Lawful
import ReviewAssignment.Proofs.Store.Attachment

/-!
# Readings that take two calls

A pull request is read in two calls of the store, its row first and then its reviewers, and so is a team:
the row of the user's team first and then the members.  Others may write between the two calls, and what
is put together comes from two stores.

* For a pull request this is never seen (`split_reading_is_stored`): what is read is the whole pull request
  as it was stored at some moment from the first call to the second.  Slots change hands only while the
  pull request is open, and an open pull request has the row it had from the start; so either the row has
  not changed by the second call, or the reviewers have not since the pull request was merged.
* For a team it is seen (`team_reading_overtaken`): a user whose team is written anew without the user in
  between is shown a team that the user was never in.  This is the only way in which it happens
  (`team_of_split_reading`): in all other cases the team is the user's at the second call.

Both come from one step lemma each, `Store.Effect.reviewersOf` and `Store.Effect.teamOf?`, by induction on
the steps of the run in between.
-/

namespace ReviewAssignment

open Store (Call)

/-! ### One call -/

namespace Store

variable {store written later : Store} {id : PullRequestId} {row next : PullRequestRow}

/-- **When reviewers change.**  A call leaves the reviewers of a pull request alone, or the pull request is
open and the call leaves its row alone. -/
theorem Effect.reviewersOf {call : Call} (h : store.Effect call written)
    (hRow : store.pullRequestRow? id = some row) :
    written.reviewersOf id = store.reviewersOf id ∨
      row.status = .opened ∧ written.pullRequestRow? id = some row := by
  cases h with
  | nothing => exact Or.inl rfl
  | upsertTeam hWritten => exact Or.inl ((rosterOnly_upsertTeam hWritten).reviewersOf id)
  | setActive => exact Or.inl ((rosterOnly_setActive store _ _).reviewersOf id)
  | insertPullRequest hWritten =>
    obtain ⟨hFresh, -, rfl⟩ := insertPullRequest_eq_ok hWritten
    refine Or.inl (reviewersOf_withPullRequest_of_ne store ?_)
    rintro rfl
    rw [pullRequestRow?_eq_none_iff.2 hFresh] at hRow
    cases hRow
  | transition => exact Or.inl rfl
  | @replaceReviewer other old new given hGiven hOpened =>
    by_cases hSame : id = other
    · subst hSame
      obtain rfl : given = row := Option.some.inj (hGiven.symm.trans hRow)
      exact Or.inr ⟨hOpened, hRow⟩
    · exact Or.inl (reviewersOf_handedOver_of_ne store old new hSame)

/-- An open pull request has the row it had from the start. -/
theorem Sound.row_eq_of_becomes (h : store.Sound) (g : later.Sound)
    (hRow : store.pullRequestRow? id = some row) (hNext : later.pullRequestRow? id = some next)
    (hBecomes : row.Becomes next) (hOpened : next.status = .opened) : next = row := by
  have hStatus : row.status = .opened := by
    cases hOld : row.status with
    | opened => rfl
    | merged => rw [hBecomes.merged hOld, hOld] at hOpened; cases hOpened
  obtain ⟨hMem, hId⟩ := pullRequestRow?_some hRow
  obtain ⟨hMemNext, hIdNext⟩ := pullRequestRow?_some hNext
  -- Neither of the two rows is merged, so neither has a moment of a merge.
  have hMoment : row.mergedAt = none := by
    have hNone := mt (h.mergedAt row hMem).2
    rw [hStatus] at hNone
    simpa using hNone
  have hMomentNext : next.mergedAt = none := by
    have hNone := mt (g.mergedAt next hMemNext).2
    rw [hOpened] at hNone
    simpa using hNone
  rw [PullRequestRow.mk.injEq]
  exact ⟨hIdNext.trans hId.symm, hBecomes.name, hBecomes.author, hOpened.trans hStatus.symm,
    hBecomes.createdAt, hMomentNext.trans hMoment.symm⟩

end Store

/-! ### The steps of a run -/

namespace Service

/-- A step of the service is at most one call of the store. -/
theorem exists_effect_step (before : List Action) (action : Action) :
    ∃ call : Call, (run before).store.Effect call (run (before ++ [action])).store := by
  have hStore := (lawful_run before).sound.toConsistent
  rw [run_concat]
  rcases (run before).step_cases action with hIdle | hEnter | hMove
  · rw [hIdle]
    exact ⟨.reviewerLoads, .nothing⟩
  · obtain ⟨settings, request, -, hStep⟩ := hEnter
    rw [hStep]
    exact ⟨.reviewerLoads, .nothing⟩
  · obtain ⟨client, raw, moment, actor, move, rest, -, -, -, hStep⟩ := hMove
    rw [hStep]
    cases move with
    | asked call found => exact ⟨call, hStore.effect_perform call⟩
    | _ => exact ⟨.reviewerLoads, .nothing⟩

variable {id : PullRequestId} {row : PullRequestRow} {user : UserId} {team : TeamRow}

/-- A row and later reviewers were stored together at some moment in between. -/
theorem exists_moment_of_row (before between : List Action)
    (hRow : (run before).store.pullRequestRow? id = some row) :
    ∃ part, part <+: between ∧ (run (before ++ part)).store.pullRequestRow? id = some row ∧
      (run (before ++ part)).store.reviewersOf id = (run (before ++ between)).store.reviewersOf id := by
  induction between using List.reverseRecOn with
  | nil =>
    refine ⟨[], List.prefix_refl _, ?_, rfl⟩
    rw [List.append_nil]
    exact hRow
  | append_singleton between action ih =>
    obtain ⟨part, hPart, hRowThen, hReviewers⟩ := ih
    obtain ⟨next, hNext, hBecomes⟩ :=
      (leads_run before between).evolves.pullRequests id row hRow
    obtain ⟨call, hEffect⟩ := exists_effect_step (before ++ between) action
    rw [List.append_assoc] at hEffect
    rcases hEffect.reviewersOf hNext with hSame | ⟨hOpened, hKept⟩
    · -- The reviewers have not changed, so the earlier moment still serves.
      refine ⟨part, hPart.trans (List.prefix_append _ _), hRowThen, ?_⟩
      rw [hSame, hReviewers]
    · -- The pull request is open, so its row is the one that was read: the new moment serves.
      have hStill : next = row := (lawful_run before).sound.row_eq_of_becomes
        (lawful_run (before ++ between)).sound hRow hNext hBecomes hOpened
      refine ⟨between ++ [action], List.prefix_refl _, ?_, rfl⟩
      rw [hKept, hStill]

/-- No team row is lost on the way. -/
theorem mem_teams_run (before between : List Action) (hTeam : team ∈ (run before).store.teams) :
    team ∈ (run (before ++ between)).store.teams := by
  induction between using List.reverseRecOn with
  | nil =>
    rw [List.append_nil]
    exact hTeam
  | append_singleton between action ih =>
    obtain ⟨call, hEffect⟩ := exists_effect_step (before ++ between) action
    rw [List.append_assoc] at hEffect
    exact hEffect.mem_teams ih

/-- An upsert without the user: one step of the run writes the team with the name, and does not name
the user among its members. -/
def LeavesOut (before between : List Action) (name : TeamName) (user : UserId) : Prop :=
  ∃ early action late written, between = early ++ action :: late ∧ written.name = name ∧
    user ∉ written.memberIds ∧
    (run (before ++ early)).store.upsertTeam written =
      .ok (run (before ++ early ++ [action])).store

/-- A user stays in a team, unless the team is written without the user. -/
theorem teamOf?_run (before between : List Action)
    (hTeam : (run before).store.teamOf? user = some team) :
    (run (before ++ between)).store.teamOf? user = some team ∨
      LeavesOut before between team.name user := by
  induction between using List.reverseRecOn with
  | nil =>
    rw [List.append_nil]
    exact Or.inl hTeam
  | append_singleton between action ih =>
    have hStore := (lawful_run (before ++ between)).sound.toConsistent
    obtain ⟨call, hEffect⟩ := exists_effect_step (before ++ between) action
    rcases ih with hStill | hLeft
    · rcases hEffect.teamOf? hStore hStill with hAfter | ⟨written, -, hWritten, hName, hUser⟩
      · rw [List.append_assoc] at hAfter
        exact Or.inl hAfter
      · exact Or.inr ⟨between, action, [], written, rfl, hName, hUser, hWritten⟩
    · obtain ⟨early, other, late, written, rfl, hFacts⟩ := hLeft
      refine Or.inr ⟨early, other, late ++ [action], written, ?_, hFacts⟩
      rw [List.append_assoc, List.cons_append]

/-! ### Pull requests -/

/-- **A pull request that is read in two calls is one that was stored.**  Whatever the service does between
the call for the row and the call for the reviewers, the reading succeeds, and comes to the whole pull
request, or its absence, as it was stored at some moment from the first call to the second. -/
theorem split_reading_is_stored (before between : List Action) (id : PullRequestId) :
    let earlier := (run before).store
    let later := (run (before ++ between)).store
    ∃ rest, Operation.readPullRequest id = .call (.pullRequestRow id) rest ∧
      ∃ part stored, part <+: between ∧
        (run (before ++ part)).store.pullRequest? id = .ok stored ∧
        ∀ outside draws readings,
          ((rest (earlier.perform (.pullRequestRow id)).1).run outside ⟨later, draws, readings⟩).1 =
            .ok stored := by
  intro earlier later
  refine ⟨_, rfl, ?_⟩
  have hAnswer : (earlier.perform (.pullRequestRow id)).1 = earlier.pullRequestRow? id := rfl
  rw [hAnswer]
  cases hRow : earlier.pullRequestRow? id with
  | none =>
    refine ⟨[], none, List.nil_prefix, ?_, fun outside draws readings => rfl⟩
    rw [List.append_nil, Store.pullRequest?, hRow]
  | some row =>
    obtain ⟨part, hPart, hThen, hReviewers⟩ := exists_moment_of_row before between hRow
    have hStore := (lawful_run (before ++ part)).sound.toConsistent
    have hLater := (lawful_run (before ++ between)).sound.toConsistent
    have hSlots : (⟨later.reviewersOf id, hLater.nodup_reviewersOf id⟩ : Slots) =
        ⟨(run (before ++ part)).store.reviewersOf id, hStore.nodup_reviewersOf id⟩ :=
      Slots.ext hReviewers.symm
    refine ⟨part, _, hPart, hStore.pullRequest?_eq id, fun outside draws readings => ?_⟩
    rw [hThen, Option.map_some, ← hSlots]
    show ((Program.ofExcept (row.assemble (later.reviewersOf id)) >>= fun pr =>
      pure (some pr) : Program (Option PullRequest)).run outside _).1 = _
    rw [hLater.assemble_reviewersOf]
    rfl

/-! ### Teams -/

/-- **What a team that is read in two calls may be.**  A user without a team at the first call is told so.
Otherwise what is answered has the name of the user's team at the first call, and is the team of this name
as it stands at the second call.  It is the team that the user belonged to at some moment from the first
call to the second exactly when the user is among its members; and so it is, unless an upsert in between
left the user out. -/
theorem team_of_split_reading (before between : List Action) (user : UserId) :
    let earlier := (run before).store
    let later := (run (before ++ between)).store
    ∃ rest, Operation.readTeamOf user = .call (.teamOf user) rest ∧
      let answered := fun team? => ∀ outside draws readings,
        ((rest (earlier.perform (.teamOf user)).1).run outside ⟨later, draws, readings⟩).1 = .ok team?
      (earlier.teamOf? user = none ∧ answered none) ∨
        ∃ row team, earlier.teamOf? user = some row ∧ answered (some team) ∧
          later.teamNamed? row.name = some row ∧ later.teamOfRow row = team ∧
          ((∃ part now, part <+: between ∧ (run (before ++ part)).store.teamOf? user = some now ∧
              (run (before ++ part)).store.teamOfRow now = team) ↔ user ∈ team.memberIds) ∧
          (user ∈ team.memberIds ∨ LeavesOut before between row.name user) := by
  intro earlier later
  refine ⟨_, rfl, ?_⟩
  have hAnswer : (earlier.perform (.teamOf user)).1 = earlier.teamOf? user := rfl
  rw [hAnswer]
  cases hTeam : earlier.teamOf? user with
  | none => exact Or.inl ⟨rfl, fun outside draws readings => rfl⟩
  | some row =>
    have hEarlier := (lawful_run before).sound.toConsistent
    have hLater := (lawful_run (before ++ between)).sound.toConsistent
    have hRow : row ∈ later.teams := mem_teams_run before between (hEarlier.teamOf?_eq_some_iff.1 hTeam).1
    refine Or.inr ⟨row, later.teamOfRow row, rfl, fun outside draws readings => rfl,
      hLater.teamNamed?_eq_some_iff.2 ⟨hRow, rfl⟩, rfl, ⟨?_, ?_⟩, ?_⟩
    · rintro ⟨part, now, -, hNow, hSame⟩
      have hStore := (lawful_run (before ++ part)).sound.toConsistent
      have hThen := (hStore.teamOf?_eq_some_iff.1 hNow).1
      rw [← hSame]
      exact (hStore.mem_memberIds_iff hThen).2 hNow
    · intro hUser
      exact ⟨between, row, List.prefix_refl _, (hLater.mem_memberIds_iff hRow).1 hUser, rfl⟩
    · rw [hLater.mem_memberIds_iff hRow]
      exact teamOf?_run before between hTeam

def annAndBob : List Action :=
  [.enter default (.upsertTeam ⟨"t", [⟨"a", "Ann", true⟩, ⟨"b", "Bob", true⟩]⟩),
    .advance 0 0 default, .advance 0 0 default, .advance 0 0 default]

def bobAlone : List Action :=
  [.enter default (.upsertTeam ⟨"t", [⟨"b", "Bob", true⟩]⟩),
    .advance 1 0 default, .advance 1 0 default, .advance 1 0 default]

/-- **A reading of a team that is overtaken by an upsert** answers Ann with a team that she was in at no
moment from the first call to the second. -/
theorem team_reading_overtaken :
    let shown : Team := ⟨"t", [⟨"b", "Bob", true⟩]⟩
    (∃ rest, Operation.readTeamOf "a" = .call (.teamOf "a") rest ∧
      ∀ outside draws readings,
        ((rest ((run annAndBob).store.perform (.teamOf "a")).1).run outside
          ⟨(run (annAndBob ++ bobAlone)).store, draws, readings⟩).1 = .ok (some shown)) ∧
    "a" ∉ shown.memberIds ∧
    ∀ part now, part <+: bobAlone → (run (annAndBob ++ part)).store.teamOf? "a" = some now →
      (run (annAndBob ++ part)).store.teamOfRow now ≠ shown := by
  intro shown
  have hOut : "a" ∉ shown.memberIds := by decide
  refine ⟨⟨_, rfl, fun outside draws readings => ?_⟩, hOut, fun part now _ hNow hShown => hOut ?_⟩
  · have hFirst : ((run annAndBob).store.perform (.teamOf "a")).1 = some ⟨1, "t"⟩ := by decide +kernel
    have hSecond : (run (annAndBob ++ bobAlone)).store.teamOfRow ⟨1, "t"⟩ = shown := by
      decide +kernel
    rw [hFirst, ← hSecond]
    rfl
  · have hStore := (lawful_run (annAndBob ++ part)).sound.toConsistent
    rw [← hShown]
    exact (hStore.mem_memberIds_iff (hStore.teamOf?_eq_some_iff.1 hNow).1).2 hNow

end Service

end ReviewAssignment
