import ReviewAssignment.Proofs.Interleaving.Refusals
import ReviewAssignment.Proofs.Rules
import ReviewAssignment.Proofs.Store.Activity
import ReviewAssignment.Proofs.Store.Swap

/-!
# Requests served one after the other

When no two requests overlap, each of them is a step from one store to the next.  A `Turn` is a request
with everything it is served with: the settings, the numbers for its draws, the clock.  Nothing ties the
turns of a run to each other but the store, so any settings, draws and clocks are covered.

`Store.Served` lists what a request that is answered with a result has done to the store, and under
which conditions; `Turn.served` says that the list is complete.  A request that is answered with a
failure has done nothing (`Turn.left_of_not_succeeds`).  What holds over a run of turns is shown by going
through the list.

The lists of the single operations come from `Program.Yields`: what a program, alone from a store on,
comes to if it does not fail.
-/

namespace ReviewAssignment

open Time (Instant)
open Store (Call)

variable {α β : Type} {store : Store}

/-! ### What a program alone comes to -/

/-- Any steps of a program that has the store to itself. -/
def Rules.alone : Rules Store where
  call store asked rest := rest (store.perform asked).1 (store.perform asked).2
  draw _ := True
  clock store rest := ∀ moment, rest moment store
  note store rest := rest store
  call_mono hRest hCall := hRest _ _ hCall
  clock_mono hRest hClock moment := hRest moment _ (hClock moment)
  note_mono hRest hNote := hRest _ hNote

instance : Rules.alone.Quiet := ⟨fun _ _ => rfl⟩

namespace Program

/-- **What a program comes to**, alone from a store on, whatever is drawn and whatever the clock shows,
provided that it does not fail. -/
def Yields (post : α → Store → Prop) (store : Store) (program : Program α) : Prop :=
  program.Obeys .alone post (fun _ _ => True) store

variable {post : α → Store → Prop} {program : Program α}

theorem Yields.run (outside : Surroundings) (session : Session)
    (h : program.Yields post session.store) {result : α}
    (hResult : (program.run outside session).1 = .ok result) :
    post result (program.run outside session).2.session.store := by
  induction program generalizing session with
  | done given =>
    cases hResult
    exact h
  | fail cause => cases hResult
  | call asked next ih =>
    exact ih _ { session with store := (session.store.perform asked).2 } h hResult
  | draw others next ih => exact ih _ { session with draws := session.draws + 1 } (h.2 _) hResult
  | clock next ih => exact ih _ { session with readings := session.readings + 1 } (h _) hResult
  | note entry rest ih => exact ih session h hResult

section

variable {γ : Type} {done : γ → Store → Prop} {failed : Failure → Store → Prop}

theorem Obeys.perform_bind {asked : Call} {next : asked.Answer → Program γ}
    (hNext : (next (store.perform asked).1).Obeys .alone done failed (store.perform asked).2) :
    (ask asked >>= next).Obeys .alone done failed store :=
  hNext

theorem Obeys.lookup_bind {asked : Call} {next : asked.Answer → Program γ}
    (hRead : asked.isWrite = false)
    (hNext : (next (store.perform asked).1).Obeys .alone done failed store) :
    (ask asked >>= next).Obeys .alone done failed store := by
  refine .perform_bind ?_
  rw [Store.perform_of_not_isWrite store hRead]
  exact hNext

end

end Program

/-! ### The operations -/

namespace Operation

open Program

theorem readTeam_yields (row? : Option TeamRow) :
    (readTeam row?).Yields (fun team? left => team? = row?.map store.teamOfRow ∧ left = store)
      store := by
  cases row? with
  | none => exact ⟨rfl, rfl⟩
  | some row => exact ⟨rfl, rfl⟩

theorem readTeamOf_yields (user : UserId) :
    (readTeamOf user).Yields (fun team? left =>
      team? = (store.teamOf? user).map store.teamOfRow ∧ left = store) store :=
  .lookup_bind rfl (readTeam_yields _)

theorem readPullRequest_yields (id : PullRequestId) :
    (readPullRequest id).Yields (fun pr? left =>
      store.pullRequest? id = .ok pr? ∧ left = store) store := by
  refine .lookup_bind rfl ?_
  rw [Store.pullRequest?,
    show (store.perform (.pullRequestRow id)).1 = store.pullRequestRow? id from rfl]
  cases store.pullRequestRow? id with
  | none => exact ⟨rfl, rfl⟩
  | some row =>
    refine .lookup_bind rfl (.ofExcept_bind (fun _ _ => trivial) fun pr hPr => ?_)
    rw [show (store.perform (.reviewersOf id)).1 = store.reviewersOf id from rfl] at hPr
    simp only
    rw [hPr]
    exact ⟨rfl, rfl⟩

theorem loadPullRequest_yields (id : PullRequestId) :
    (loadPullRequest id).Yields (fun pr left =>
      store.pullRequest? id = .ok (some pr) ∧ left = store) store := by
  refine .bind ((readPullRequest_yields id).imp fun pr? left hRead => ?_)
  obtain ⟨hRead, rfl⟩ := hRead
  cases pr? with
  | none => trivial
  | some pr => exact ⟨hRead, rfl⟩

theorem loadUser_yields (id : UserId) :
    (loadUser id).Yields (fun user left => store.user? id = some user ∧ left = store) store := by
  refine .lookup_bind rfl ?_
  rw [show (store.perform (.user id)).1 = store.user? id from rfl]
  cases store.user? id with
  | none => trivial
  | some user => exact ⟨rfl, rfl⟩

theorem readProfile_yields (user : User) :
    (readProfile user).Yields (fun _ left => left = store) store :=
  .lookup_bind rfl rfl

/-- An upsert writes a team that there is no complaint about. -/
theorem upsertTeam_yields (team : Team) :
    (upsertTeam team).Yields (fun _ left =>
      teamFault? team = none ∧ store.upsertTeam team = .ok left) store := by
  refine .check_bind (fun _ _ => trivial) fun hTeam => .log_bind ?_
  refine .lookup_bind rfl (.check_bind (fun _ _ => trivial) fun _ => .perform_bind ?_)
  rw [Store.perform]
  cases hWritten : store.upsertTeam team with
  | error cause => trivial
  | ok left => exact ⟨hTeam, rfl⟩

theorem setActive_yields (user : UserId) (active : Bool) :
    (setActive user active).Yields (fun _ left => Text.isBlank user = false ∧
      store.hasUser user = true ∧ left = (store.setActive user active).2) store := by
  refine .check_bind (fun _ _ => trivial) fun hUser => .log_bind (.perform_bind ?_)
  have hNamed := blankFault?_eq_none_iff.1 hUser
  rw [Store.perform, Store.setActive_eq]
  split
  · next hKnown =>
    refine .bind ((loadUser_yields user).imp fun record left hLoaded => ?_)
    refine (readProfile_yields record).imp fun _ last hLast => ⟨hNamed, hKnown, ?_⟩
    rw [hLast, hLoaded.2]
  · trivial

/-- A creation inserts a pull request whose reviewers are active. -/
theorem create_yields (limit : Nat) (id : PullRequestId) (name : String) (author : UserId) :
    (create limit id name author).Yields (fun pr left => pr.id = id ∧
      store.insertPullRequest pr = .ok left ∧
      ∀ user ∈ pr.reviewers.reviewers, store.HasActivity true user) store := by
  refine .check_bind (fun _ _ => trivial) fun _ => .check_bind (fun _ _ => trivial) fun _ => ?_
  refine .check_bind (fun _ _ => trivial) fun _ => .log_bind ?_
  refine .bind ((readTeamOf_yields author).imp fun team? left hRead => ?_)
  obtain ⟨hTeam, rfl⟩ := hRead
  refine .ofOption_bind (fun _ => trivial) fun team hSome => ?_
  refine .ofDraws_bind trivial (selectReviewers_all team author limit) fun selected hSelected => ?_
  refine .ofExcept_bind (fun _ _ => trivial) fun reviewers hReviewers => ?_
  refine .now_bind fun createdAt => .perform_bind ?_
  have hActive : ∀ user ∈ reviewers.reviewers, left.HasActivity true user := by
    intro user hUser
    rw [Slots.reviewers_of_ofList hReviewers] at hUser
    obtain ⟨member, hMember, rfl, hMemberActive, -⟩ := hSelected.exists_member hUser
    obtain ⟨row, -, rfl⟩ := Option.map_eq_some_iff.1 (hTeam.symm.trans hSome)
    exact ⟨member, Store.user?_of_mem_membersOf hMember, hMemberActive⟩
  rw [Store.perform]
  cases hInserted : left.insertPullRequest
      ⟨id, name, author, .opened, reviewers, createdAt, none⟩ with
  | error cause => trivial
  | ok written => exact ⟨rfl, hInserted, hActive⟩

/-- A merge moves an open pull request, or finds it merged. -/
theorem merge_yields (id : PullRequestId) :
    (merge id).Yields (fun _ left => ∃ moment, left = store.moved id .opened .merged moment)
      store := by
  refine .check_bind (fun _ _ => trivial) fun _ => .log_bind (.now_bind fun moment => .perform_bind ?_)
  rw [Store.perform, Store.transition_eq]
  refine .bind ((loadPullRequest_yields id).imp fun pr left hLoaded => ?_)
  obtain ⟨-, rfl⟩ := hLoaded
  split
  · trivial
  · split <;> exact ⟨moment, rfl⟩

/-- A reassignment hands the slot to somebody who is active. -/
theorem reassign_yields (hStore : store.Consistent) (id : PullRequestId) (old : UserId) :
    (reassign id old).Yields (fun outcome left => ∃ slot found,
      store.Swappable id old outcome.replacedBy.id slot found outcome.pullRequest ∧
        store.HasActivity true outcome.replacedBy.id ∧
        left = store.handedOver id old outcome.replacedBy.id) store := by
  refine .check_bind (fun _ _ => trivial) fun _ => .check_bind (fun _ _ => trivial) fun _ => .log_bind ?_
  refine .bind ((loadPullRequest_yields id).imp fun pr left hLoaded => ?_)
  obtain ⟨-, rfl⟩ := hLoaded
  refine .check_bind (fun _ _ => trivial) fun _ => ?_
  refine .bind ((readTeamOf_yields old).imp fun team? left hRead => ?_)
  obtain ⟨hTeam, rfl⟩ := hRead
  refine .ofOption_bind (fun _ => trivial) fun team hSome => ?_
  refine .ofDraws_bind trivial (pickReplacement_all (team.candidates pr old)) fun picked hPicked => ?_
  refine .ofOption_bind (fun _ => trivial) fun replacement hReplacement => ?_
  refine .ofExcept_bind (fun _ _ => trivial) fun _ _ => .perform_bind ?_
  have hActive : left.HasActivity true replacement.id := by
    obtain ⟨hMember, hParts⟩ := List.mem_filter.1 (hPicked replacement hReplacement)
    obtain ⟨row, -, rfl⟩ := Option.map_eq_some_iff.1 (hTeam.symm.trans hSome)
    simp only [Bool.and_eq_true] at hParts
    exact ⟨replacement, Store.user?_of_mem_membersOf hMember, hParts.1.1.1⟩
  rcases hStore.perform_replaceReviewer_cases id old replacement.id with
    ⟨-, hPerformed⟩ | ⟨-, -, hPerformed⟩ | ⟨slot, found, updated, hSwap, -, hPerformed, -⟩
  · rw [hPerformed]
    refine .ofExcept_bind (fun _ _ => trivial) fun updated hUpdated => ?_
    cases hUpdated
    exact .bind ((loadPullRequest_yields id).imp fun _ _ _ => trivial)
  · rw [hPerformed]
    trivial
  · rw [hPerformed]
    have hYields : ∃ slot found, left.Swappable id old replacement.id slot found updated ∧
        left.HasActivity true replacement.id ∧
        left.handedOver id old replacement.id = left.handedOver id old replacement.id :=
      ⟨slot, found, hSwap, hActive, rfl⟩
    change Yields _ _ (if _ then _ else _ : Program Reassignment)
    split <;> exact hYields

end Operation

/-! ### What a request has done -/

def Request.isRead : Request → Bool
  | .upsertTeam _ | .setActive _ _ | .create _ _ _ | .merge _ | .reassign _ _ => false
  | _ => true

/-- **What a request has done** to a store when it is answered with a result. -/
inductive Store.Served (store : Store) : Request → Store → Prop where
  | read {request : Request} (hRead : request.isRead = true) : Served store request store
  | upsertTeam {team : Team} {left : Store} (hTeam : Operation.teamFault? team = none)
    (hWritten : store.upsertTeam team = .ok left) : Served store (.upsertTeam team) left
  | setActive {user : UserId} {active : Bool} (hNamed : Text.isBlank user = false)
    (hUser : store.hasUser user = true) :
    Served store (.setActive user active) (store.setActive user active).2
  | create {name : String} {author : UserId} {pr : PullRequest} {left : Store}
    (hInserted : store.insertPullRequest pr = .ok left)
    (hActive : ∀ user ∈ pr.reviewers.reviewers, store.HasActivity true user) :
    Served store (.create pr.id name author) left
  | merge {id : PullRequestId} {moment : Instant} :
    Served store (.merge id) (store.moved id .opened .merged moment)
  | reassign {id : PullRequestId} {old new : UserId} {slot : Nat} {found left : PullRequest}
    (hSwap : store.Swappable id old new slot found left) (hActive : store.HasActivity true new) :
    Served store (.reassign id old) (store.handedOver id old new)

theorem Store.Served.of_upsertTeam {team : Team} {left : Store}
    (h : store.Served (.upsertTeam team) left) :
    Operation.teamFault? team = none ∧ store.upsertTeam team = .ok left := by
  cases h with
  | read hRead => cases hRead
  | upsertTeam hTeam hWritten => exact ⟨hTeam, hWritten⟩

theorem Store.Served.of_setActive {user : UserId} {active : Bool} {left : Store}
    (h : store.Served (.setActive user active) left) :
    Text.isBlank user = false ∧ store.hasUser user = true ∧
      left = (store.setActive user active).2 := by
  cases h with
  | read hRead => cases hRead
  | setActive hNamed hUser => exact ⟨hNamed, hUser, rfl⟩

namespace Request

open Program Operation

theorem steps_yields_of_isRead (settings : Settings) {request : Request}
    (hRead : request.isRead = true) :
    (request.steps settings).Yields (fun _ left => left = store) store := by
  cases request with
  | teamByName name =>
    refine .bind (.check_bind (fun _ _ => trivial) fun _ => .lookup_bind rfl ?_)
    refine .bind ((readTeam_yields _).imp ?_)
    intro team? left hTeam
    cases team? with
    | none => trivial
    | some team => exact hTeam.2
  | teamByMember user =>
    refine .bind (.check_bind (fun _ _ => trivial) fun _ => .bind ((readTeamOf_yields user).imp ?_))
    intro team? left hTeam
    cases team? with
    | none => trivial
    | some team => exact hTeam.2
  | profile user =>
    refine .bind (.check_bind (fun _ _ => trivial) fun _ => .bind ((loadUser_yields user).imp ?_))
    rintro record left ⟨-, rfl⟩
    exact readProfile_yields record
  | reviews user =>
    refine .bind (.check_bind (fun _ _ => trivial) fun _ => .bind ((loadUser_yields user).imp ?_))
    rintro record left ⟨-, rfl⟩
    exact .lookup_bind rfl rfl
  | reviewerLoads => exact .lookup_bind rfl rfl
  | reviewerCounts => exact .lookup_bind rfl rfl
  | _ => cases hRead

theorem steps_yields (settings : Settings) (request : Request) (hStore : store.Consistent) :
    (request.steps settings).Yields (fun _ left => store.Served request left) store := by
  by_cases hRead : request.isRead = true
  · refine (steps_yields_of_isRead settings hRead).imp fun _ left hLeft => ?_
    rw [hLeft]
    exact .read hRead
  · cases request with
    | upsertTeam team =>
      refine .bind ((upsertTeam_yields team).imp fun _ left hDone => ?_)
      exact .upsertTeam hDone.1 hDone.2
    | setActive user active =>
      refine .bind ((setActive_yields user active).imp ?_)
      rintro - left ⟨hNamed, hUser, rfl⟩
      exact .setActive hNamed hUser
    | create id name author =>
      refine .bind ((create_yields settings.maxReviewers id name author).imp ?_)
      rintro pr left ⟨rfl, hInserted, hActive⟩
      exact .create hInserted hActive
    | merge id =>
      refine .bind ((merge_yields id).imp ?_)
      rintro - left ⟨moment, rfl⟩
      exact .merge
    | reassign id old =>
      refine .bind ((reassign_yields hStore id old).imp ?_)
      rintro outcome left ⟨slot, found, hSwap, hActive, rfl⟩
      exact .reassign hSwap hActive
    | _ => exact absurd rfl hRead

end Request

/-! ### Turns -/

/-- A request with everything that it is served with. -/
structure Turn where
  settings : Settings
  request : Request
  outside : Program.Surroundings
  draws : Nat
  readings : Nat

namespace Turn

def outcome (turn : Turn) (store : Store) : Except Failure Reply × Program.Trace :=
  (turn.request.program turn.settings).run turn.outside ⟨store, turn.draws, turn.readings⟩

def answer (turn : Turn) (store : Store) : Except Failure Reply :=
  (turn.outcome store).1

def left (turn : Turn) (store : Store) : Store :=
  (turn.outcome store).2.session.store

/-- Whether a turn has an effect: it is answered with a result. -/
def Succeeds (turn : Turn) (store : Store) : Prop :=
  ∃ reply, turn.answer store = .ok reply

variable {turn : Turn}

/-- **All that a turn can do** if it succeeds. -/
theorem served (hStore : store.Consistent) (hSucceeds : turn.Succeeds store) :
    store.Served turn.request (turn.left store) := by
  obtain ⟨reply, hReply⟩ := hSucceeds
  have hYields : (turn.request.program turn.settings).Yields
      (fun _ left => store.Served turn.request left) store :=
    (Request.steps_yields turn.settings turn.request hStore).reporting turn.request.operation
  exact hYields.run turn.outside ⟨store, turn.draws, turn.readings⟩ hReply

/-- **A turn that does not succeed** changes nothing. -/
theorem left_of_not_succeeds (hStore : store.Consistent) (hFails : ¬turn.Succeeds store) :
    turn.left store = store := by
  cases hAnswer : turn.answer store with
  | ok reply => exact absurd ⟨reply, hAnswer⟩ hFails
  | error cause => exact Request.run_of_failed hStore hAnswer

theorem reachable_left (hReachable : store.Reachable) : (turn.left store).Reachable :=
  .request turn.settings turn.request turn.outside turn.draws turn.readings hReachable

end Turn

def Store.after (store : Store) (turns : List Turn) : Store :=
  turns.foldl (fun store turn => turn.left store) store

theorem Store.after_append (store : Store) (early late : List Turn) :
    store.after (early ++ late) = (store.after early).after late :=
  List.foldl_append

theorem Store.Reachable.after (h : store.Reachable) (turns : List Turn) :
    (store.after turns).Reachable := by
  induction turns generalizing store with
  | nil => exact h
  | cons turn rest ih => exact ih (Turn.reachable_left h)

end ReviewAssignment
