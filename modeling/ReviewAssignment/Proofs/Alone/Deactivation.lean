import ReviewAssignment.Proofs.Alone
import ReviewAssignment.Proofs.Alone.Served
import ReviewAssignment.Proofs.Store.Reports

/-!
# Deactivated users

Whoever is inactive gets no new review, and keeps the reviews there are until they are handed over.  This
holds from the turn that leaves a user inactive on, up to the next turn that makes the user active, and
whatever happens in between: the user may be detached, moved to another team or written again.

`Store.Served.holdsAt` is the step: a request moves an inactive user into no slot, and out of one only by
handing the slot over.  `deactivated_gets_no_reviews` is the run, between any two points of the time
in which the user is inactive.
-/

namespace ReviewAssignment

open Store (Call)

variable {store left : Store} {user : UserId} {active : Bool} {id : PullRequestId} {slot : Nat}
  {turn : Turn}

/-! ### Slots -/

/-- A user holds a slot of a pull request, as the pull request is read. -/
def Store.HoldsAt (store : Store) (id : PullRequestId) (slot : Nat) (user : UserId) : Prop :=
  ∃ pr, store.pullRequest? id = .ok (some pr) ∧ pr.reviewers.slotOf? user = some slot

namespace Store

theorem holdsAt_iff_of_pullRequest? {pr : PullRequest}
    (hRead : store.pullRequest? id = .ok (some pr)) :
    store.HoldsAt id slot user ↔ pr.reviewers.reviewers[slot]? = some user := by
  constructor
  · rintro ⟨other, hOther, hSlot⟩
    cases hRead.symm.trans hOther
    exact Slots.slotOf?_eq_some_iff.1 hSlot
  · intro hSlot
    exact ⟨pr, hRead, Slots.slotOf?_eq_some_iff.2 hSlot⟩

/-- A slot is held by one user. -/
theorem HoldsAt.unique {other : UserId} (h : store.HoldsAt id slot user)
    (g : store.HoldsAt id slot other) : user = other := by
  obtain ⟨pr, hRead, hSlot⟩ := h
  rw [holdsAt_iff_of_pullRequest? hRead] at g
  exact Option.some.inj ((Slots.slotOf?_eq_some_iff.1 hSlot).symm.trans g)

theorem Consistent.holdsAt_iff (h : store.Consistent) :
    store.HoldsAt id slot user ↔ (store.reviewersOf id)[slot]? = some user := by
  constructor
  · rintro ⟨pr, hStored, hSlot⟩
    rw [← (h.pullRequest?_eq_some_iff.1 hStored).2]
    exact Slots.slotOf?_eq_some_iff.1 hSlot
  · intro hSlot
    have hId : id ∈ store.pullRequests.map PullRequestRow.id := by
      by_contra hMissing
      rw [h.reviewersOf_eq, h.slotsOf_eq_nil hMissing] at hSlot
      cases hSlot
    obtain ⟨row, hRow, rfl⟩ := List.mem_map.1 hId
    refine ⟨row.withSlots ⟨_, h.nodup_reviewersOf row.id⟩, ?_, Slots.slotOf?_eq_some_iff.2 hSlot⟩
    exact h.pullRequest?_eq_some_iff.2 ⟨h.pullRequestRow?_of_mem hRow, rfl⟩

theorem Consistent.mem_reviewing_iff_holdsAt (h : store.Consistent) :
    id ∈ store.reviewing user ↔ ∃ slot, store.HoldsAt id slot user := by
  rw [h.mem_reviewing_iff]
  constructor
  · rintro ⟨pr, hStored, rfl, hUser⟩
    obtain ⟨slot, hSlot⟩ := List.getElem?_of_mem hUser
    exact ⟨slot, pr, h.mem_stored_iff.1 hStored, Slots.slotOf?_eq_some_iff.2 hSlot⟩
  · rintro ⟨slot, pr, hStored, hSlot⟩
    obtain ⟨hMem, hId⟩ := h.pullRequest?_eq_some_iff_mem.1 hStored
    exact ⟨pr, hMem, hId, List.mem_of_getElem? (Slots.slotOf?_eq_some_iff.1 hSlot)⟩

theorem HoldsAt.of_reviewersOf (hStore : store.Consistent) (hLeft : left.Consistent)
    (hSame : left.reviewersOf id = store.reviewersOf id) :
    left.HoldsAt id slot user ↔ store.HoldsAt id slot user := by
  rw [hLeft.holdsAt_iff, hSame, hStore.holdsAt_iff]

/-- Nobody holds a slot of a pull request before it is inserted, and its reviewers hold them then. -/
theorem Consistent.holdsAt_inserted (h : store.Consistent) {pr : PullRequest}
    (hInserted : store.insertPullRequest pr = .ok left) :
    ¬store.HoldsAt pr.id slot user ∧
      (left.HoldsAt pr.id slot user ↔ pr.reviewers.reviewers[slot]? = some user) := by
  constructor
  · rw [h.holdsAt_iff, h.reviewersOf_eq, h.slotsOf_eq_nil (insertPullRequest_eq_ok hInserted).1]
    intro hSlot
    cases hSlot
  · rw [(h.insertPullRequest hInserted).holdsAt_iff, h.reviewersOf_inserted hInserted]

section Swaps

variable {old new : UserId} {place : Nat} {found given : PullRequest}

theorem Swappable.holdsAt (h : store.Swappable id old new place found given) :
    store.HoldsAt id place old :=
  (holdsAt_iff_of_pullRequest? h.stored).2 h.reviewers.1

/-- A slot that is handed over is the new reviewer's, and all others are held as before. -/
theorem Consistent.holdsAt_handedOver (h : store.Consistent)
    (hSwap : store.Swappable id old new place found given) (hNew : store.hasUser new = true) :
    (store.handedOver id old new).HoldsAt id slot user ↔
      if place = slot then user = new else store.HoldsAt id slot user := by
  obtain ⟨hOld, hSet⟩ := hSwap.reviewers
  rw [holdsAt_iff_of_pullRequest? (h.replaceReviewer_eq_some hSwap hNew).2,
    holdsAt_iff_of_pullRequest? hSwap.stored, hSet]
  split
  · next hPlace =>
    subst hPlace
    rw [List.getElem?_set_self (List.getElem?_eq_some_iff.1 hOld).1, Option.some.injEq, eq_comm]
  · next hPlace => rw [List.getElem?_set_ne hPlace]

end Swaps

/-- **A request and the slots of somebody who is inactive**: none is gained, and one is lost only to a
reassignment of this slot while the pull request is open. -/
theorem Served.holdsAt {request : Request} (h : store.Served request left) (hStore : store.Consistent)
    (hLeft : left.Consistent) (hInactive : store.HasActivity false user) (id : PullRequestId)
    (slot : Nat) :
    (left.HoldsAt id slot user → store.HoldsAt id slot user) ∧
      (store.HoldsAt id slot user → left.HoldsAt id slot user ∨
        request = .reassign id user ∧
          ∃ pr, store.pullRequest? id = .ok (some pr) ∧ pr.isOpen = true) := by
  -- Most requests leave the reviewers of the pull request as they are.
  have hKept : left.reviewersOf id = store.reviewersOf id → (left.HoldsAt id slot user →
      store.HoldsAt id slot user) ∧ (store.HoldsAt id slot user → left.HoldsAt id slot user ∨
        request = .reassign id user ∧
          ∃ pr, store.pullRequest? id = .ok (some pr) ∧ pr.isOpen = true) := by
    intro hSame
    have hIff : left.HoldsAt id slot user ↔ store.HoldsAt id slot user :=
      HoldsAt.of_reviewersOf hStore hLeft hSame
    exact ⟨hIff.1, fun hHolds => .inl (hIff.2 hHolds)⟩
  have hOther : ∀ other, store.HasActivity true other → user ≠ other := by
    rintro other hActive rfl
    cases hActive.unique hInactive
  cases h with
  | read => exact hKept rfl
  | upsertTeam _ hWritten => exact hKept ((rosterOnly_upsertTeam hWritten).reviewersOf id)
  | setActive => exact hKept ((rosterOnly_setActive store _ _).reviewersOf id)
  | merge => exact hKept rfl
  | @create name author pr left hInserted hActive =>
    by_cases hId : pr.id = id
    · subst hId
      obtain ⟨hNobody, hHolder⟩ := hStore.holdsAt_inserted hInserted
      refine ⟨fun hHolds => ?_, fun hHolds => absurd hHolds hNobody⟩
      exact absurd rfl (hOther user (hActive user (List.mem_of_getElem? (hHolder.1 hHolds))))
    · refine hKept ?_
      obtain ⟨-, -, hWritten⟩ := insertPullRequest_eq_ok hInserted
      rw [hWritten, reviewersOf_withPullRequest_of_ne store hId]
  | @reassign pullRequest old new place found given hSwap hActive =>
    by_cases hId : id = pullRequest
    · subst hId
      have hNotNew := hOther new hActive
      obtain ⟨record, hUser, -⟩ := hActive
      rw [hStore.holdsAt_handedOver hSwap (hasUser_iff_exists.2 ⟨record, hUser⟩)]
      split
      · next hPlace =>
        subst hPlace
        refine ⟨fun hNew => absurd hNew hNotNew, fun hHolds => .inr ⟨?_, found, hSwap.stored, ?_⟩⟩
        · rw [hHolds.unique hSwap.holdsAt]
        · rw [PullRequest.isOpen, hSwap.opened]
          rfl
      · exact ⟨fun hHolds => hHolds, fun hHolds => .inl hHolds⟩
    · exact hKept (reviewersOf_handedOver_of_ne store old new hId)

end Store

/-! ### Turns -/

namespace Turn

/-- A turn leaves a user with an activity: it switches the user, or upserts a team that carries the user
so. -/
def Switches (turn : Turn) (store : Store) (user : UserId) (active : Bool) : Prop :=
  turn.Succeeds store ∧ (turn.request = .setActive user active ∨
    ∃ team, turn.request = .upsertTeam team ∧
      ∃ member ∈ team.members, member.id = user ∧ member.active = active)

/-- A turn hands over the slot that a user holds, while the pull request is open. -/
def HandsOver (turn : Turn) (store : Store) (id : PullRequestId) (user : UserId) : Prop :=
  turn.Succeeds store ∧ turn.request = .reassign id user ∧
    ∃ pr, store.pullRequest? id = .ok (some pr) ∧ pr.isOpen = true

/-- Who is switched is a named user with this activity. -/
theorem Switches.hasActivity (h : turn.Switches store user active) (hStore : store.Consistent) :
    (turn.left store).HasActivity active user ∧ Text.isBlank user = false := by
  have hServed := served hStore h.1
  rcases h.2 with hRequest | ⟨team, hRequest, member, hMember, rfl, rfl⟩
  · rw [hRequest] at hServed
    obtain ⟨hNamed, hUser, hLeft⟩ := hServed.of_setActive
    rw [hLeft]
    exact ⟨Store.hasActivity_setActive hUser, hNamed⟩
  · rw [hRequest] at hServed
    obtain ⟨hTeam, hWritten⟩ := hServed.of_upsertTeam
    refine ⟨⟨member, ?_, rfl⟩, (Operation.not_blank_of_teamFault? hTeam).2 member hMember⟩
    exact Store.user?_upsertTeam_of_mem hWritten (Operation.nodup_of_teamFault? hTeam) hMember

theorem hasActivity_left (hStore : store.Consistent) (h : store.HasActivity active user)
    (hStays : ¬turn.Switches store user !active) : (turn.left store).HasActivity active user := by
  by_cases hSucceeds : turn.Succeeds store
  · have hKept : ∀ other, other ≠ !active → other = active := by
      intro other hOther
      cases other <;> cases active <;> simp_all
    have hServed := served hStore hSucceeds
    generalize turn.left store = left at hServed
    generalize hRequest : turn.request = request at hServed
    cases hServed with
    | read => exact h
    | upsertTeam hTeam hWritten =>
      refine h.upsertTeam hWritten (Operation.nodup_of_teamFault? hTeam) fun member hMember hId => ?_
      refine hKept _ fun hActive => hStays ⟨hSucceeds, .inr ?_⟩
      exact ⟨_, hRequest, member, hMember, hId, hActive⟩
    | @setActive other switched =>
      refine h.setActive_of_ne (Classical.or_iff_not_imp_left.2 fun hSame => ?_)
      rw [Classical.not_not.1 hSame] at hRequest
      refine hKept _ fun hActive => hStays ⟨hSucceeds, .inl ?_⟩
      rw [hRequest, hActive]
    | create hInserted =>
      obtain ⟨-, -, rfl⟩ := Store.insertPullRequest_eq_ok hInserted
      exact h.of_user? rfl
    | merge => exact h.of_user? rfl
    | reassign => exact h.of_user? rfl
  · rw [left_of_not_succeeds hStore hSucceeds]
    exact h

/-- A turn and the slots of somebody who is inactive. -/
theorem holdsAt_left (hReachable : store.Reachable) (hInactive : store.HasActivity false user) :
    ((turn.left store).HoldsAt id slot user → store.HoldsAt id slot user) ∧
      (store.HoldsAt id slot user →
        (turn.left store).HoldsAt id slot user ∨ turn.HandsOver store id user) := by
  have hStore := hReachable.consistent
  by_cases hSucceeds : turn.Succeeds store
  · obtain ⟨hGained, hLost⟩ := (served hStore hSucceeds).holdsAt hStore
      (reachable_left hReachable).consistent hInactive id slot
    exact ⟨hGained, fun hHolds => (hLost hHolds).imp_right fun hOver => ⟨hSucceeds, hOver⟩⟩
  · rw [left_of_not_succeeds hStore hSucceeds]
    exact ⟨fun hHolds => hHolds, fun hHolds => .inl hHolds⟩

end Turn

/-! ### Runs -/

/-- No turn of a run, in the store it is served in, makes a user active. -/
def Store.StaysInactive (store : Store) (user : UserId) (turns : List Turn) : Prop :=
  ∀ early turn late, turns = early ++ turn :: late → ¬turn.Switches (store.after early) user true

namespace Store

theorem StaysInactive.append {early late : List Turn}
    (h : store.StaysInactive user (early ++ late)) :
    store.StaysInactive user early ∧ (store.after early).StaysInactive user late := by
  refine ⟨fun before turn after hEarly => ?_, fun before turn after hLate => ?_⟩
  · refine h before turn (after ++ late) ?_
    rw [hEarly, List.append_assoc, List.cons_append]
  · rw [← after_append]
    refine h (early ++ before) turn after ?_
    rw [hLate, List.append_assoc]

/-- A run and somebody who stays inactive. -/
theorem Reachable.holdsAt_after (h : store.Reachable) (hInactive : store.HasActivity false user)
    {turns : List Turn} (hStays : store.StaysInactive user turns) :
    (store.after turns).HasActivity false user ∧
      (∀ id slot, (store.after turns).HoldsAt id slot user → store.HoldsAt id slot user) ∧
      ∀ id slot, store.HoldsAt id slot user → (store.after turns).HoldsAt id slot user ∨
        ∃ early turn late, turns = early ++ turn :: late ∧
          (store.after early).HoldsAt id slot user ∧ turn.HandsOver (store.after early) id user := by
  induction turns generalizing store with
  | nil => exact ⟨hInactive, fun _ _ hHolds => hHolds, fun _ _ hHolds => .inl hHolds⟩
  | cons turn rest ih =>
    have hFirst := Turn.hasActivity_left h.consistent hInactive (hStays [] turn rest rfl)
    have hSplit : store.StaysInactive user ([turn] ++ rest) := hStays
    obtain ⟨hLast, hGained, hLost⟩ := ih (Turn.reachable_left h) hFirst hSplit.append.2
    refine ⟨hLast, fun id slot hHolds => ?_, fun id slot hHolds => ?_⟩
    · exact (Turn.holdsAt_left h hInactive).1 (hGained id slot hHolds)
    · rcases (Turn.holdsAt_left h hInactive).2 hHolds with hStill | hOver
      · rcases hLost id slot hStill with hAfter | ⟨early, handing, late, rfl, hThen, hOver⟩
        · exact .inl hAfter
        · exact .inr ⟨turn :: early, handing, late, rfl, hThen, hOver⟩
      · exact .inr ⟨[], turn, rest, rfl, hHolds, hOver⟩

end Store

/-! ### The list of a user -/

/-- A user is answered with the list that the store has. -/
theorem Store.HasActivity.reviews (h : store.HasActivity active user)
    (hNamed : Text.isBlank user = false) (settings : Settings) (outside : Program.Surroundings)
    (draws readings : Nat) :
    (((Request.reviews user).program settings).run outside ⟨store, draws, readings⟩).1 =
      .ok (.reviews (store.reviewsOf user)) := by
  obtain ⟨record, hRecord, -⟩ := h
  have hReached : (Operation.reviews user).reached outside ⟨store, draws, readings⟩ =
      (Program.ofExcept (.ok (store.reviewsOf user)), ⟨store, draws, readings⟩) := by
    rw [Operation.reviews, Operation.require_eq, hNamed]
    change ((Operation.loadUser user >>= _).reached outside _) = _
    rw [Program.reached_bind, Operation.reached_loadUser, hRecord]
    rfl
  exact (Program.run_answering Reply.reviews _ hReached).1

/-- **Deactivation is respected.**  A turn leaves a user inactive, and no later one makes the user active
again.  Between any two points of the time after it:

* the user is still inactive;
* the user holds no slot at the later point that the user did not hold at the earlier one;
* each slot that the user held is still the user's, at its place, or it was handed over on the way by a
  reassignment of this reviewer that succeeded while the pull request was open;
* and the list of the user's reviews is answered at both points, and has not grown. -/
theorem deactivated_gets_no_reviews (hReachable : store.Reachable) {first : Turn}
    (hFirst : first.Switches store user false) (during rest : List Turn)
    (hStays : (first.left store).StaysInactive user (during ++ rest)) :
    let earlier := (first.left store).after during
    let later := earlier.after rest
    later.HasActivity false user ∧
    (∀ id slot, later.HoldsAt id slot user → earlier.HoldsAt id slot user) ∧
    (∀ id slot, earlier.HoldsAt id slot user → later.HoldsAt id slot user ∨
      ∃ early turn late, rest = early ++ turn :: late ∧
        (earlier.after early).HoldsAt id slot user ∧ turn.HandsOver (earlier.after early) id user) ∧
    ∀ settings outside draws readings, ∃ before after,
      (((Request.reviews user).program settings).run outside ⟨earlier, draws, readings⟩).1 =
        .ok (.reviews before) ∧
      (((Request.reviews user).program settings).run outside ⟨later, draws, readings⟩).1 =
        .ok (.reviews after) ∧
      after.map PullRequest.Summary.id ⊆ before.map PullRequest.Summary.id := by
  intro earlier later
  obtain ⟨hInactive, hNamed⟩ := hFirst.hasActivity hReachable.consistent
  have hStart : (first.left store).Reachable := Turn.reachable_left hReachable
  obtain ⟨hDuring, hRest⟩ := hStays.append
  have hEarlier : earlier.HasActivity false user := (hStart.holdsAt_after hInactive hDuring).1
  have hReachableEarlier : earlier.Reachable := hStart.after during
  obtain ⟨hLater, hGained, hLost⟩ := hReachableEarlier.holdsAt_after hEarlier hRest
  refine ⟨hLater, hGained, hLost, fun settings outside draws readings => ?_⟩
  refine ⟨_, _, hEarlier.reviews hNamed settings outside draws readings,
    hLater.reviews hNamed settings outside draws readings, fun id hId => ?_⟩
  have hConsistent := (hReachableEarlier.after rest).consistent
  rw [(hConsistent.map_id_reviewsOf user).mem_iff, hConsistent.mem_reviewing_iff_holdsAt] at hId
  obtain ⟨slot, hSlot⟩ := hId
  rw [(hReachableEarlier.consistent.map_id_reviewsOf user).mem_iff,
    hReachableEarlier.consistent.mem_reviewing_iff_holdsAt]
  exact ⟨slot, hGained id slot hSlot⟩

/-- Bob reviews a pull request when he is deactivated.  Another one is created, and somebody asks for a
replacement for Bob: he still reviews nothing but the first one. -/
theorem deactivated_reviewer_replaced :
    let team : Team := ⟨"t", [⟨"a", "Ann", true⟩, ⟨"b", "Bob", true⟩, ⟨"c", "Cy", true⟩]⟩
    let pr : PullRequest := ⟨"p", "n", "a", .opened, ⟨["b"], by decide⟩, default, none⟩
    let store := ((Store.empty.perform (.upsertTeam team)).2.perform (.insertPullRequest pr)).2
    let turn := fun request => (⟨default, request, ⟨fun _ => 0, fun _ => default⟩, 0, 0⟩ : Turn)
    let earlier := (turn (.setActive "b" false)).left store
    let later := earlier.after [turn (.create "q" "n" "a"), turn (.reassign "p" "b")]
    earlier.HoldsAt "p" 0 "b" ∧ later.HasActivity false "b" ∧
      ∀ id slot, later.HoldsAt id slot "b" → earlier.HoldsAt id slot "b" := by
  intro team pr store turn earlier later
  have hReachable : store.Reachable := .call _ (.call _ .empty)
  have hFirst : (turn (.setActive "b" false)).Switches store "b" false :=
    ⟨⟨.profile ⟨⟨"b", "Bob", false⟩, "t"⟩, by decide⟩, .inl rfl⟩
  have hStays : earlier.StaysInactive "b" [turn (.create "q" "n" "a"), turn (.reassign "p" "b")] := by
    intro early other late hSplit hSwitches
    have hOther : other ∈ [turn (.create "q" "n" "a"), turn (.reassign "p" "b")] :=
      hSplit ▸ List.mem_append_right _ List.mem_cons_self
    rcases hSwitches.2 with hRequest | ⟨_, hRequest, -⟩ <;> simp [turn] at hOther <;>
      rcases hOther with rfl | rfl <;> cases hRequest
  obtain ⟨hInactive, hGained, -, -⟩ := deactivated_gets_no_reviews hReachable hFirst [] _ hStays
  refine ⟨?_, hInactive, hGained⟩
  have hReached : ((turn (.setActive "b" false)).left store).Reachable :=
    Turn.reachable_left hReachable
  have hEarlier : earlier.Consistent := hReached.consistent
  rw [hEarlier.holdsAt_iff, hEarlier.reviewersOf_eq]
  decide

end ReviewAssignment
