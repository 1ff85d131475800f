import ReviewAssignment.Proofs.Interleaving.Contract
import ReviewAssignment.Proofs.Selection
import ReviewAssignment.Proofs.Slots
import ReviewAssignment.Proofs.TeamChecks

/-!
# The contract of each request

`Request.contract` says for each request which write it may make, and when, and what its answer
means.  A request makes at most one write.  Its answer is a failure only if that write did not take
effect, or was not made; and the answers to a creation, a merge and a reassignment tell what was
written, or what will be read from then on.

`Request.abides` shows that the program of every request keeps to its contract, from every consistent
store on and whatever other clients write in between.
-/

namespace ReviewAssignment

open Time (Instant)
open Store (Call)

namespace Request

/-- The write of a request, and the deeds before it. -/
def Writes (settings : Settings) (deeds : List Move) (call : Call) : Request → Prop
  | .upsertTeam team => deeds = [] ∧ call = .upsertTeam team
  | .setActive user active => deeds = [] ∧ call = .setActive user active
  | .create id name author =>
    ∃ reviewers createdAt, deeds = [.read createdAt] ∧ reviewers.size ≤ settings.maxReviewers ∧
      call = .insertPullRequest ⟨id, name, author, .opened, reviewers, createdAt, none⟩
  | .merge id => ∃ moment, deeds = [.read moment] ∧ call = .transition id .opened .merged moment
  | .reassign id old => deeds = [] ∧ ∃ new, call = .replaceReviewer id old new
  | _ => False

/-- What a reply tells about the deeds of its client and about the store. -/
def Answered (deeds : List Move) (store : Store) (reply : Reply) : Request → Prop
  | .create _ _ _ =>
    ∃ pr found, reply = .pullRequest pr ∧
      deeds = [.read pr.createdAt, .asked (.insertPullRequest pr) found] ∧
      (found.perform (.insertPullRequest pr)).1 = .ok ()
  | .merge id =>
    ∃ pr moment found, reply = .pullRequest pr ∧ pr.status = .merged ∧
      store.pullRequest? id = .ok (some pr) ∧
      deeds = [.read moment, .asked (.transition id .opened .merged moment) found]
  | .reassign id old =>
    ∃ outcome found, reply = .reassignment outcome ∧
      deeds = [.asked (.replaceReviewer id old outcome.replacedBy.id) found] ∧
      (found.perform (.replaceReviewer id old outcome.replacedBy.id)).1 =
        .ok (some outcome.pullRequest)
  | _ => True

/-- **The contract of a request.**  The clock is read before anything else is done. -/
def contract (settings : Settings) (request : Request) : Contract Reply where
  allows := fun deeds deed =>
    match deed with
    | .asked call found => call.Proper found ∧ request.Writes settings deeds call
    | _ => deeds = []
  concludes := fun deeds store outcome =>
    match outcome with
    | .ok reply => request.Answered deeds store reply
    | .error _ => ∀ move ∈ deeds, move.applied = false

end Request

/-! ### Checks of the input -/

namespace Operation

/-- A reassignment without a complaint replaces somebody who holds a slot. -/
theorem mem_reviewers_of_swapFault? {id : PullRequestId} {old : UserId} {pr : PullRequest}
    (h : swapFault? id old pr = none) : old ∈ pr.reviewers.reviewers := by
  rw [swapFault?] at h
  split at h
  · cases h
  · split at h
    · next hContains => exact List.contains_iff_mem.1 hContains
    · cases h

end Operation

/-! ### Looking around -/

namespace Operation

open Program

variable {store : Store}

theorem readTeam_finds (row? : Option TeamRow) :
    (readTeam row?).Finds (fun _ _ => True) store := by
  cases row? with
  | none => exact fun _ _ => trivial
  | some row => exact ⟨rfl, fun _ _ _ _ => trivial⟩

theorem readTeamOf_finds (user : UserId) : (readTeamOf user).Finds (fun _ _ => True) store :=
  ⟨rfl, fun later _ => readTeam_finds (later.teamOf? user)⟩

theorem loadUser_finds (id : UserId) :
    (loadUser id).Finds (fun _ outcome => store.hasUser id = true → outcome.isOk = true) store := by
  refine ⟨rfl, fun later hLater => ?_⟩
  change Obeys _ _ _ later (ofOption _ (later.user? id))
  cases hUser : later.user? id with
  | some user => exact fun _ _ _ => rfl
  | none =>
    intro last _ hThere
    obtain ⟨user, hMem, hSame⟩ := List.any_eq_true.1 (hLater.evolves.users id hThere)
    exact absurd hSame (List.find?_eq_none.1 hUser user hMem)

/-- A pull request as two calls read it: its row as it was at the first of them, and its reviewers
as they were at the second. -/
structure Loaded (store later : Store) (id : PullRequestId) (pr : PullRequest) (first second : Store) :
    Prop where
  before : store.Leads first
  between : first.Leads second
  after : second.Leads later
  row : first.pullRequestRow? id = some pr.row
  reviewers : pr.reviewers.reviewers = second.reviewersOf id

theorem loadPullRequest_finds (id : PullRequestId) :
    (loadPullRequest id).Finds (fun later outcome =>
      (∀ pr, outcome = .ok pr → ∃ first second, Loaded store later id pr first second) ∧
        (outcome.isOk = false → store.pullRequestRow? id = none)) store := by
  refine ⟨rfl, fun first hFirst => ?_⟩
  rw [show (first.perform (.pullRequestRow id)).1 = first.pullRequestRow? id from rfl]
  cases hRow : first.pullRequestRow? id with
  | none =>
    refine fun later _ => ⟨fun pr hPr => ?_, fun _ => ?_⟩
    · cases hPr
    · rw [← Option.not_isSome_iff_eq_none, Option.isSome_iff_exists]
      rintro ⟨row, hOld⟩
      obtain ⟨next, hNext, -⟩ := hFirst.evolves.pullRequests id row hOld
      rw [hRow] at hNext
      cases hNext
  | some row =>
    refine ⟨rfl, fun second hSecond => ?_⟩
    rw [show (second.perform (.reviewersOf id)).1 = second.reviewersOf id from rfl]
    simp only [Program.bind, hSecond.consistent.assemble_reviewersOf row id]
    refine fun later hLater => ⟨fun pr hPr => ⟨first, second, ?_⟩, fun hFailed => ?_⟩
    · obtain rfl := Except.ok.inj hPr
      exact ⟨hFirst, hSecond, hLater, hRow, rfl⟩
    · cases hFailed

variable {later first second : Store} {id : PullRequestId} {pr : PullRequest}

theorem Loaded.of_leads (h : Loaded store later id pr first second) {last : Store}
    (hLast : later.Leads last) : Loaded store last id pr first second :=
  { h with after := h.after.trans hLast }

/-- The author that was read is the author for good. -/
theorem Loaded.author (h : Loaded store later id pr first second) {row : PullRequestRow}
    (hRow : later.pullRequestRow? id = some row) : row.author = pr.author := by
  obtain ⟨next, hNext, hBecomes⟩ := (h.between.trans h.after).evolves.pullRequests id pr.row h.row
  rw [hRow, Option.some.injEq] at hNext
  rw [hNext]
  exact hBecomes.author

theorem Loaded.status (h : Loaded store later id pr first second) {row : PullRequestRow}
    (hRow : store.pullRequestRow? id = some row) (hMerged : row.status = .merged) :
    pr.status = .merged := by
  have hSame := h.before.evolves.pullRequestRow?_merged hRow hMerged
  rw [h.row, Option.some.injEq] at hSame
  rw [← hMerged, ← hSame]
  rfl

/-- A pull request that is read as merged is read as it stays. -/
theorem Loaded.pullRequest? (h : Loaded store later id pr first second)
    (hMerged : pr.status = .merged) : later.pullRequest? id = .ok (some pr) := by
  rw [(h.between.trans h.after).evolves.pullRequest?_merged h.row hMerged,
    h.before.consistent.pullRequest?_eq, h.row, Option.map_some]
  have hReviewers := h.between.evolves.reviewersOf_merged h.row hMerged
  have hSlots : (⟨first.reviewersOf id, h.before.consistent.nodup_reviewersOf id⟩ : Slots) =
      pr.reviewers := Slots.ext (hReviewers.symm.trans h.reviewers.symm)
  rw [hSlots]
  rfl

end Operation

/-! ### The requests -/

namespace Request

open Program Operation

variable {store : Store} {settings : Settings}

theorem nothing_applied : ∀ move ∈ ([] : List Move), move.applied = false :=
  List.forall_mem_nil _

/-- Reading the clock takes no effect, so what counts is the write after it. -/
theorem not_applied_after_reading {moment : Instant} {call : Call} {found : Store}
    (h : (Move.asked call found).applied = false) :
    ∀ move ∈ [Move.read moment, .asked call found], move.applied = false := by
  intro move hMove
  rcases List.mem_cons.1 hMove with rfl | hRest
  · rfl
  · rw [List.mem_singleton.1 hRest]
    exact h

theorem upsertTeam_abides (team : Team) :
    ((upsertTeam team).steps settings).Abides ((upsertTeam team).contract settings) [] store := by
  refine .map Reply.team ?_
  refine .check_bind (fun _ _ _ _ => nothing_applied) fun hTeam => ?_
  refine .log_bind ?_
  refine .read_bind rfl fun _ _ => ?_
  refine .check_bind (fun _ _ _ _ => nothing_applied) fun _ => ?_
  refine .write_bind rfl fun found _ => ⟨⟨not_blank_of_teamFault? hTeam, rfl, rfl⟩, ?_⟩
  refine .ofExcept_bind (fun cause hCause last _ move hMove => ?_) fun _ _ _ _ => trivial
  rw [List.mem_singleton.1 hMove, Move.applied, hCause]
  rfl

theorem setActive_abides (user : UserId) (active : Bool) :
    ((setActive user active).steps settings).Abides ((setActive user active).contract settings) []
      store := by
  refine .map Reply.profile ?_
  refine .check_bind (fun _ _ _ _ => nothing_applied) fun _ => ?_
  refine .log_bind ?_
  refine .write_bind rfl fun found hFound => ⟨⟨trivial, rfl, rfl⟩, ?_⟩
  have hWritten := hFound.consistent.perform (.setActive user active)
  cases hApplied : (found.perform (.setActive user active)).1 with
  | true =>
    -- The user is there from now on, so reading the user back cannot fail.
    have hUser : (found.perform (.setActive user active)).2.hasUser user = true := by
      rw [Store.perform, Store.setActive_eq] at hApplied
      exact (Store.rosterOnly_setActive found user active).users user hApplied
    refine .finds_bind (loadUser_finds user) hWritten ?_ fun _ _ _ _ => ?_
    · intro later cause _ hFailed
      cases hFailed hUser
    · exact .read_bind rfl fun _ _ _ _ => trivial
  | false =>
    intro last _ move hMove
    rw [List.mem_singleton.1 hMove, Move.applied, hApplied]
    rfl

/-- A creation inserts an open pull request without the author among the reviewers, who are no
more than the settings allow. -/
theorem create_abides (hStore : store.Consistent) (id : PullRequestId) (name : String)
    (author : UserId) :
    ((create id name author).steps settings).Abides ((create id name author).contract settings) []
      store := by
  refine .map Reply.pullRequest ?_
  refine .check_bind (fun _ _ _ _ => nothing_applied) fun hId => ?_
  refine .check_bind (fun _ _ _ _ => nothing_applied) fun hName => ?_
  refine .check_bind (fun _ _ _ _ => nothing_applied) fun _ => ?_
  refine .log_bind ?_
  refine .finds_bind (readTeamOf_finds author) hStore (fun _ _ _ _ _ _ => nothing_applied)
    fun _ _ _ _ => ?_
  refine .ofOption_bind (fun _ _ _ => nothing_applied) fun team _ => ?_
  refine .ofDraws_bind trivial (selectReviewers_all team author settings.maxReviewers)
    fun selected hSelected => ?_
  refine .ofExcept_bind (fun _ _ _ _ => nothing_applied) fun reviewers hReviewers => ?_
  obtain rfl : reviewers.reviewers = selected := Slots.reviewers_of_ofList hReviewers
  refine .now_bind fun createdAt => ⟨rfl, ?_⟩
  refine .write_bind rfl fun found _ => ⟨⟨?_, reviewers, createdAt, rfl, ?_, rfl⟩, ?_⟩
  · exact ⟨blankFault?_eq_none_iff.1 hId, blankFault?_eq_none_iff.1 hName, rfl, rfl,
      hSelected.author_notMem⟩
  · exact hSelected.length_le
  · refine .ofExcept_bind (fun cause hCause _ _ => ?_) fun _ hInserted => ?_
    · refine not_applied_after_reading ?_
      rw [Move.applied, hCause]
      rfl
    · refine .log_bind ?_
      exact fun _ _ => ⟨_, found, rfl, rfl, hInserted⟩

/-- A merge is answered with the pull request as it stays.  If its own change of status applied,
what it reads back is merged, so that it cannot fail any more. -/
theorem merge_abides (id : PullRequestId) :
    ((merge id).steps settings).Abides ((merge id).contract settings) [] store := by
  refine .map Reply.pullRequest ?_
  refine .check_bind (fun _ _ _ _ => nothing_applied) fun _ => ?_
  refine .log_bind ?_
  refine .now_bind fun moment => ⟨rfl, ?_⟩
  refine .write_bind rfl fun found hFound => ⟨⟨⟨rfl, rfl⟩, moment, rfl, rfl⟩, ?_⟩
  have hWritten := hFound.consistent.perform (.transition id .opened .merged moment)
  have hMerged := hFound.consistent.pullRequestRow?_merged id moment
  refine .finds_bind (loadPullRequest_finds id) hWritten ?_ fun later pr hLater hLoads => ?_
  · intro later cause _ hLoads _ _
    refine not_applied_after_reading (Bool.eq_false_iff.2 fun hApplied => ?_)
    obtain ⟨row, hRow, -⟩ := hMerged hApplied
    cases hRow.symm.trans (hLoads.2 rfl)
  · obtain ⟨first, second, hLoaded⟩ := hLoads.1 pr rfl
    cases hStatus : pr.status with
    | opened =>
      rw [PullRequest.isOpen, hStatus]
      refine fun _ _ => not_applied_after_reading (Bool.eq_false_iff.2 fun hApplied => ?_)
      obtain ⟨row, hRow, hRowMerged, -⟩ := hMerged hApplied
      cases hStatus.symm.trans (hLoaded.status hRow hRowMerged)
    | merged =>
      have hAnswered : ∀ last, later.Leads last → (merge id).Answered
          [.read moment, .asked (.transition id .opened .merged moment) found] last
          (.pullRequest pr) := fun last hLast =>
        ⟨pr, moment, found, rfl, hStatus, (hLoaded.of_leads hLast).pullRequest? hStatus, rfl⟩
      rw [PullRequest.isOpen, hStatus]
      cases (found.perform (.transition id .opened .merged moment)).1 with
      | true => exact hAnswered
      | false => exact .log_bind hAnswered

/-- A reassignment hands a slot to somebody other than the author, and its answer is what the swap
gave. -/
theorem reassign_abides (hStore : store.Consistent) (id : PullRequestId) (old : UserId) :
    ((reassign id old).steps settings).Abides ((reassign id old).contract settings) [] store := by
  refine .map Reply.reassignment ?_
  refine .check_bind (fun _ _ _ _ => nothing_applied) fun _ => ?_
  refine .check_bind (fun _ _ _ _ => nothing_applied) fun _ => ?_
  refine .log_bind ?_
  refine .finds_bind (loadPullRequest_finds id) hStore (fun _ _ _ _ _ _ => nothing_applied)
    fun read pr hRead hLoads => ?_
  obtain ⟨first, second, hLoaded⟩ := hLoads.1 pr rfl
  refine .check_bind (fun _ _ _ _ => nothing_applied) fun _ => ?_
  refine .finds_bind (readTeamOf_finds old) hRead.consistent (fun _ _ _ _ _ _ => nothing_applied)
    fun given _ hGiven _ => ?_
  refine .ofOption_bind (fun _ _ _ => nothing_applied) fun team _ => ?_
  refine .ofDraws_bind trivial (pickReplacement_all (team.candidates pr old)) fun picked hPicked => ?_
  refine .ofOption_bind (fun _ _ _ => nothing_applied) fun replacement hReplacement => ?_
  have hCandidate := hPicked replacement hReplacement
  refine .ofExcept_bind (fun _ _ _ _ => nothing_applied) fun _ _ => ?_
  refine .write_bind rfl fun found hFound => ⟨⟨?_, rfl, _, rfl⟩, ?_⟩
  · intro row hRow hSame
    rw [(hLoaded.of_leads (hGiven.trans hFound)).author hRow] at hSame
    exact (ne_of_mem_candidates hCandidate).1 hSame
  have hLost : ∀ given, (found.perform (.replaceReviewer id old replacement.id)).1 = given →
      given.toOption.join = none →
      ∀ move ∈ [Move.asked (.replaceReviewer id old replacement.id) found],
        move.applied = false := by
    intro given hAnswer hNothing move hMove
    rw [List.mem_singleton.1 hMove, Move.applied, hAnswer, Call.applied, hNothing]
    rfl
  refine .ofExcept_bind (fun cause hCause _ _ => hLost _ hCause rfl) fun updated hUpdated => ?_
  cases updated with
  | none =>
    refine .finds_bind (loadPullRequest_finds id) (hFound.consistent.perform _)
      (fun _ _ _ _ _ _ => hLost _ hUpdated rfl) fun _ _ _ _ _ _ => hLost _ hUpdated rfl
  | some updated =>
    have hAnswered : ∀ last, (found.perform (.replaceReviewer id old replacement.id)).2.Leads last →
        (reassign id old).Answered [.asked (.replaceReviewer id old replacement.id) found] last
          (.reassignment ⟨updated, replacement⟩) :=
      fun _ _ => ⟨⟨updated, replacement⟩, found, rfl, rfl, hUpdated⟩
    refine .log_bind ?_
    split
    · exact .log_bind hAnswered
    · exact hAnswered

/-- **Every request keeps to its contract**, whatever is written in between. -/
theorem abides (settings : Settings) (request : Request) (hStore : store.Consistent) :
    (request.program settings).Abides (request.contract settings) [] store := by
  refine .reporting request.operation ?_
  cases request with
  | upsertTeam team => exact upsertTeam_abides team
  | setActive user active => exact setActive_abides user active
  | create id name author => exact create_abides hStore id name author
  | merge id => exact merge_abides id
  | reassign id old => exact reassign_abides hStore id old
  | teamByName name =>
    refine .map Reply.team ?_
    refine .check_bind (fun _ _ _ _ => nothing_applied) fun _ => ?_
    refine .read_bind rfl fun later hLater => ?_
    refine .finds_bind (readTeam_finds _) hLater.consistent (fun _ _ _ _ _ _ => nothing_applied)
      fun _ team _ _ => ?_
    cases team with
    | none => exact fun _ _ => nothing_applied
    | some team => exact fun _ _ => trivial
  | teamByMember user =>
    refine .map Reply.team ?_
    refine .check_bind (fun _ _ _ _ => nothing_applied) fun _ => ?_
    refine .finds_bind (readTeamOf_finds user) hStore (fun _ _ _ _ _ _ => nothing_applied)
      fun _ team _ _ => ?_
    cases team with
    | none => exact fun _ _ => nothing_applied
    | some team => exact fun _ _ => trivial
  | profile user =>
    refine .map Reply.profile ?_
    refine .check_bind (fun _ _ _ _ => nothing_applied) fun _ => ?_
    refine .finds_bind (loadUser_finds user) hStore (fun _ _ _ _ _ _ => nothing_applied)
      fun _ _ _ _ => ?_
    exact .read_bind rfl fun _ _ _ _ => trivial
  | reviews user =>
    refine .map Reply.reviews ?_
    refine .check_bind (fun _ _ _ _ => nothing_applied) fun _ => ?_
    refine .finds_bind (loadUser_finds user) hStore (fun _ _ _ _ _ _ => nothing_applied)
      fun _ _ _ _ => ?_
    exact .read_bind rfl fun _ _ _ _ => trivial
  | reviewerLoads => exact .read_bind rfl fun _ _ _ _ => trivial
  | reviewerCounts => exact .read_bind rfl fun _ _ _ _ => trivial

end Request

end ReviewAssignment
