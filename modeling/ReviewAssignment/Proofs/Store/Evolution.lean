import ReviewAssignment.Proofs.Store.PullRequestWrites
import ReviewAssignment.Text.Characters

/-!
# How stores evolve

Two properties of the calls that the service makes.  `Sound` is what holds of every store that the
service has written: besides the rules of the tables, nobody reviews a pull request of their own, a
pull request has a merge moment exactly when it is merged, and no identifier or name is blank.
`Evolves` is what a client may count on while others write: users are never lost, a pull request
keeps its name, author, moment of creation and number of slots, and a merged one does not change at
all.

The store alone guarantees neither: it would take a blank name, or move a merged pull request back.
`Call.Proper` says which calls the service makes, and `Sound.perform` and `Consistent.evolves_perform`
say that these keep both properties.
-/

namespace ReviewAssignment

open Time (Instant)

/-- What happens to the row of a pull request: its name, author and moment of creation stay, and
once it is merged all of it stays. -/
structure PullRequestRow.Becomes (row next : PullRequestRow) : Prop where
  name : next.name = row.name
  author : next.author = row.author
  createdAt : next.createdAt = row.createdAt
  merged : row.status = .merged → next = row

theorem PullRequestRow.Becomes.refl (row : PullRequestRow) : row.Becomes row :=
  ⟨rfl, rfl, rfl, fun _ => rfl⟩

theorem PullRequestRow.Becomes.trans {first second third : PullRequestRow}
    (h : first.Becomes second) (g : second.Becomes third) : first.Becomes third := by
  refine ⟨g.name.trans h.name, g.author.trans h.author, g.createdAt.trans h.createdAt,
    fun hMerged => ?_⟩
  have hSame := h.merged hMerged
  rw [g.merged (hSame ▸ hMerged), hSame]

namespace Store

/-- **What is never lost**, from a store to a later one. -/
structure Evolves (store later : Store) : Prop where
  users : ∀ id, store.hasUser id → later.hasUser id
  pullRequests : ∀ id row, store.pullRequestRow? id = some row →
    ∃ next, later.pullRequestRow? id = some next ∧ row.Becomes next
  slots : ∀ id row, store.pullRequestRow? id = some row →
    (later.slotsOf id).length = (store.slotsOf id).length
  frozen : ∀ id row, store.pullRequestRow? id = some row → row.status = .merged →
    later.slotsOf id = store.slotsOf id

theorem Evolves.refl (store : Store) : store.Evolves store :=
  ⟨fun _ hUser => hUser, fun _ row hRow => ⟨row, hRow, .refl row⟩, fun _ _ _ => rfl,
    fun _ _ _ _ => rfl⟩

theorem Evolves.trans {first second third : Store} (h : first.Evolves second)
    (g : second.Evolves third) : first.Evolves third := by
  refine ⟨fun id hUser => g.users id (h.users id hUser), ?_, ?_, ?_⟩
  · intro id row hRow
    obtain ⟨next, hNext, hFirst⟩ := h.pullRequests id row hRow
    obtain ⟨last, hLast, hSecond⟩ := g.pullRequests id next hNext
    exact ⟨last, hLast, hFirst.trans hSecond⟩
  · intro id row hRow
    obtain ⟨next, hNext, -⟩ := h.pullRequests id row hRow
    rw [g.slots id next hNext, h.slots id row hRow]
  · intro id row hRow hMerged
    obtain ⟨next, hNext, hBecomes⟩ := h.pullRequests id row hRow
    have hSame := hBecomes.merged hMerged
    rw [g.frozen id next hNext (hSame ▸ hMerged), h.frozen id row hRow hMerged]

theorem Evolves.pullRequestRow?_merged {store later : Store} (h : store.Evolves later)
    {id : PullRequestId} {row : PullRequestRow} (hRow : store.pullRequestRow? id = some row)
    (hMerged : row.status = .merged) : later.pullRequestRow? id = some row := by
  obtain ⟨next, hNext, hBecomes⟩ := h.pullRequests id row hRow
  rw [hNext, hBecomes.merged hMerged]

theorem Evolves.reviewersOf_merged {store later : Store} (h : store.Evolves later)
    {id : PullRequestId} {row : PullRequestRow} (hRow : store.pullRequestRow? id = some row)
    (hMerged : row.status = .merged) : later.reviewersOf id = store.reviewersOf id :=
  reviewersOf_congr (h.frozen id row hRow hMerged)

theorem Evolves.pullRequest?_merged {store later : Store} (h : store.Evolves later)
    {id : PullRequestId} {row : PullRequestRow} (hRow : store.pullRequestRow? id = some row)
    (hMerged : row.status = .merged) : later.pullRequest? id = store.pullRequest? id := by
  rw [pullRequest?, pullRequest?, h.pullRequestRow?_merged hRow hMerged, hRow,
    h.reviewersOf_merged hRow hMerged]

theorem RosterOnly.evolves {store written : Store} (h : RosterOnly store written) :
    store.Evolves written :=
  ⟨h.users, fun id row hRow => ⟨row, (h.pullRequestRow? id).trans hRow, .refl row⟩,
    fun id _ _ => by rw [h.slotsOf id], fun id _ _ _ => h.slotsOf id⟩

theorem evolves_withPullRequest {store : Store} {pr : PullRequest}
    (hFresh : pr.id ∉ store.pullRequests.map PullRequestRow.id) :
    store.Evolves (store.withPullRequest pr) := by
  have hOther : ∀ id row, store.pullRequestRow? id = some row → pr.id ≠ id := by
    rintro id row hRow rfl
    rw [pullRequestRow?_eq_none_iff.2 hFresh] at hRow
    cases hRow
  refine ⟨fun _ hUser => hUser, fun id row hRow => ⟨row, ?_, .refl row⟩, fun id row hRow => ?_,
    fun id row hRow _ => ?_⟩
  · rw [pullRequestRow?_withPullRequest, hRow, Option.some_or]
  · rw [slotsOf_withPullRequest_of_ne store (hOther id row hRow)]
  · exact slotsOf_withPullRequest_of_ne store (hOther id row hRow)

theorem becomes_moveRow_merged (id : PullRequestId) (moment : Instant) (row : PullRequestRow) :
    row.Becomes (moveRow id .opened .merged moment row) := by
  refine ⟨moveRow_name .., moveRow_author .., moveRow_createdAt .., fun hMerged => ?_⟩
  rw [moveRow, if_neg]
  rintro ⟨-, hOpened⟩
  rw [hMerged] at hOpened
  cases hOpened

theorem evolves_moved_merged (store : Store) (id : PullRequestId) (moment : Instant) :
    store.Evolves (store.moved id .opened .merged moment) := by
  refine ⟨fun _ hUser => hUser, fun other row hRow => ⟨_, ?_, becomes_moveRow_merged id moment row⟩,
    fun _ _ _ => rfl, fun _ _ _ _ => rfl⟩
  rw [pullRequestRow?_moved, hRow, Option.map_some]

theorem evolves_handedOver {store : Store} {id : PullRequestId} {old new : UserId}
    {row : PullRequestRow} (hRow : store.pullRequestRow? id = some row)
    (hOpened : row.status = .opened) : store.Evolves (store.handedOver id old new) := by
  refine ⟨fun _ hUser => hUser, fun _ other hOther => ⟨other, hOther, .refl other⟩,
    fun other _ _ => ?_, fun other merged hMerged hStatus => ?_⟩
  · rw [slotsOf_handedOver, List.length_map]
  · refine slotsOf_handedOver_of_ne store old new ?_
    rintro rfl
    rw [hRow, Option.some.injEq] at hMerged
    rw [← hMerged, hOpened] at hStatus
    cases hStatus

/-! ### The calls of the service -/

/-- **The calls that the service makes.**  It writes no blank name or identifier, creates pull
requests open and without the author among the reviewers, merges open ones, and hands no slot to the
author. -/
def Call.Proper (store : Store) : Call → Prop
  | .upsertTeam team =>
    Text.isBlank team.name = false ∧ ∀ member ∈ team.members, Text.isBlank member.id = false
  | .insertPullRequest pr =>
    Text.isBlank pr.id = false ∧ Text.isBlank pr.name = false ∧ pr.status = .opened ∧
      pr.mergedAt = none ∧ pr.author ∉ pr.reviewers.reviewers
  | .transition _ expected next _ => expected = .opened ∧ next = .merged
  | .replaceReviewer id _ new => ∀ row, store.pullRequestRow? id = some row → new ≠ row.author
  | _ => True

theorem Effect.evolves {store written : Store} {call : Call} (h : store.Effect call written)
    (hProper : call.Proper store) : store.Evolves written := by
  cases h with
  | nothing => exact .refl store
  | upsertTeam hWritten => exact (rosterOnly_upsertTeam hWritten).evolves
  | setActive => exact (rosterOnly_setActive store _ _).evolves
  | insertPullRequest hWritten =>
    obtain ⟨hFresh, -, rfl⟩ := insertPullRequest_eq_ok hWritten
    exact evolves_withPullRequest hFresh
  | transition =>
    obtain ⟨rfl, rfl⟩ := hProper
    exact evolves_moved_merged store _ _
  | replaceReviewer hRow hOpened => exact evolves_handedOver hRow hOpened

/-- **What the calls of the service leave alone.** -/
theorem Consistent.evolves_perform {store : Store} (h : store.Consistent) {call : Call}
    (hProper : call.Proper store) : store.Evolves (store.perform call).2 :=
  (h.effect_perform call).evolves hProper

/-! ### Sound stores -/

/-- **What holds of every store that the service has written.** -/
structure Sound (store : Store) : Prop extends Consistent store where
  /-- Nobody reviews a pull request of their own. -/
  notOwn : ∀ row ∈ store.pullRequests, row.author ∉ store.reviewersOf row.id
  mergedAt : ∀ row ∈ store.pullRequests, row.status = .merged ↔ row.mergedAt.isSome = true
  teamsNamed : ∀ row ∈ store.teams, Text.isBlank row.name = false
  usersNamed : ∀ id, store.hasUser id → Text.isBlank id = false
  pullRequestsNamed : ∀ row ∈ store.pullRequests,
    Text.isBlank row.id = false ∧ Text.isBlank row.name = false

theorem sound_empty : Sound empty :=
  { consistent_empty with
    notOwn := fun _ hRow => nomatch hRow
    mergedAt := fun _ hRow => nomatch hRow
    teamsNamed := fun _ hRow => nomatch hRow
    usersNamed := fun _ hUser => nomatch hUser
    pullRequestsNamed := fun _ hRow => nomatch hRow }

/-- A write to the roster keeps what is sound about pull requests. -/
theorem Sound.of_rosterOnly {store written : Store} (h : store.Sound)
    (hOnly : RosterOnly store written) (hConsistent : written.Consistent)
    (hTeams : ∀ row ∈ written.teams, Text.isBlank row.name = false)
    (hUsers : ∀ id, written.hasUser id → Text.isBlank id = false) : written.Sound := by
  refine { hConsistent with notOwn := ?_, mergedAt := ?_, teamsNamed := hTeams,
                            usersNamed := hUsers, pullRequestsNamed := ?_ }
  · intro row hRow
    rw [hOnly.reviewersOf]
    exact h.notOwn row (hOnly.pullRequests ▸ hRow)
  · exact fun row hRow => h.mergedAt row (hOnly.pullRequests ▸ hRow)
  · exact fun row hRow => h.pullRequestsNamed row (hOnly.pullRequests ▸ hRow)

theorem Sound.upsertTeam {store written : Store} (h : store.Sound) {team : Team}
    (hName : Text.isBlank team.name = false)
    (hMembers : ∀ member ∈ team.members, Text.isBlank member.id = false)
    (hWritten : store.upsertTeam team = .ok written) : written.Sound := by
  refine h.of_rosterOnly (rosterOnly_upsertTeam hWritten) (h.toConsistent.upsertTeam hWritten)
    (fun row hRow => ?_) fun id hUser => ?_
  · rcases mem_teams_upsertTeam hWritten hRow with hOld | hNew
    · exact h.teamsNamed row hOld
    · rw [hNew]
      exact hName
  · rcases (hasUser_upsertTeam hWritten).1 hUser with hOld | hNew
    · exact h.usersNamed id hOld
    · obtain ⟨member, hMember, rfl⟩ := List.mem_map.1 hNew
      exact hMembers member hMember

theorem Sound.setActive {store : Store} (h : store.Sound) (id : UserId) (active : Bool) :
    (store.setActive id active).2.Sound := by
  refine h.of_rosterOnly (rosterOnly_setActive store id active)
    (h.toConsistent.setActive id active) ?_ fun user hUser => h.usersNamed user ?_
  · rw [setActive_eq]
    exact h.teamsNamed
  · rw [hasUser_iff, setActive_ids] at hUser
    exact hasUser_iff.2 hUser

theorem Sound.insertPullRequest {store written : Store} (h : store.Sound) {pr : PullRequest}
    (hProper : (Call.insertPullRequest pr).Proper store)
    (hWritten : store.insertPullRequest pr = .ok written) : written.Sound := by
  have hReviewers := h.toConsistent.reviewersOf_inserted hWritten
  have hConsistent := h.toConsistent.insertPullRequest hWritten
  obtain ⟨hId, hName, hStatus, hMoment, hAuthor⟩ := hProper
  obtain ⟨hFresh, -, rfl⟩ := insertPullRequest_eq_ok hWritten
  refine { hConsistent with notOwn := ?_, mergedAt := ?_, teamsNamed := h.teamsNamed,
                            usersNamed := h.usersNamed, pullRequestsNamed := ?_ }
  · intro row hRow
    rcases List.mem_append.1 hRow with hOld | hNew
    · have hOther : pr.id ≠ row.id := fun hSame => hFresh (hSame ▸ List.mem_map_of_mem hOld)
      rw [reviewersOf_withPullRequest_of_ne store hOther]
      exact h.notOwn row hOld
    · rw [List.mem_singleton.1 hNew]
      change pr.author ∉ (store.withPullRequest pr).reviewersOf pr.id
      rw [hReviewers]
      exact hAuthor
  · intro row hRow
    rcases List.mem_append.1 hRow with hOld | hNew
    · exact h.mergedAt row hOld
    · rw [List.mem_singleton.1 hNew]
      simp [PullRequest.row, hStatus, hMoment]
  · intro row hRow
    rcases List.mem_append.1 hRow with hOld | hNew
    · exact h.pullRequestsNamed row hOld
    · rw [List.mem_singleton.1 hNew]
      exact ⟨hId, hName⟩

theorem Sound.moved {store : Store} (h : store.Sound) (id : PullRequestId) (moment : Instant) :
    (store.moved id .opened .merged moment).Sound := by
  refine { h.toConsistent.moved id .opened .merged moment with
           notOwn := ?_, mergedAt := ?_, teamsNamed := h.teamsNamed, usersNamed := h.usersNamed,
           pullRequestsNamed := ?_ }
  · intro row hRow
    obtain ⟨old, hOld, rfl⟩ := List.mem_map.1 hRow
    rw [moveRow_author, moveRow_id]
    exact h.notOwn old hOld
  · intro row hRow
    obtain ⟨old, hOld, rfl⟩ := List.mem_map.1 hRow
    rw [moveRow]
    split
    · exact ⟨fun _ => rfl, fun _ => rfl⟩
    · exact h.mergedAt old hOld
  · intro row hRow
    obtain ⟨old, hOld, rfl⟩ := List.mem_map.1 hRow
    rw [moveRow_id, moveRow_name]
    exact h.pullRequestsNamed old hOld

theorem Sound.handedOver {store : Store} (h : store.Sound) {id : PullRequestId}
    {old new : UserId} (hNew : new ∉ store.reviewersOf id) (hUser : store.hasUser new = true)
    (hAuthor : ∀ row, store.pullRequestRow? id = some row → new ≠ row.author) :
    (store.handedOver id old new).Sound := by
  refine { h.toConsistent.handedOver old hNew hUser with
           notOwn := ?_, mergedAt := h.mergedAt, teamsNamed := h.teamsNamed,
           usersNamed := h.usersNamed, pullRequestsNamed := h.pullRequestsNamed }
  intro row hRow
  by_cases hId : row.id = id
  · subst hId
    rw [h.toConsistent.reviewersOf_handedOver old hNew hUser, List.mem_map]
    rintro ⟨user, hUser, hSame⟩
    by_cases hOld : user = old
    · rw [if_pos hOld] at hSame
      exact hAuthor row (h.toConsistent.pullRequestRow?_of_mem hRow) hSame
    · rw [if_neg hOld] at hSame
      exact h.notOwn row hRow (hSame ▸ hUser)
  · rw [reviewersOf_handedOver_of_ne store old new hId]
    exact h.notOwn row hRow

theorem Effect.sound {store written : Store} {call : Call} (h : store.Effect call written)
    (hStore : store.Sound) (hProper : call.Proper store) : written.Sound := by
  cases h with
  | nothing => exact hStore
  | upsertTeam hWritten => exact hStore.upsertTeam hProper.1 hProper.2 hWritten
  | setActive => exact hStore.setActive _ _
  | insertPullRequest hWritten => exact hStore.insertPullRequest hProper hWritten
  | transition =>
    obtain ⟨rfl, rfl⟩ := hProper
    exact hStore.moved _ _
  | replaceReviewer _ _ hNew hUser => exact hStore.handedOver hNew hUser hProper

/-- **The calls of the service keep a store sound.** -/
theorem Sound.perform {store : Store} (h : store.Sound) {call : Call}
    (hProper : call.Proper store) : (store.perform call).2.Sound :=
  (h.toConsistent.effect_perform call).sound h hProper

end Store

end ReviewAssignment
