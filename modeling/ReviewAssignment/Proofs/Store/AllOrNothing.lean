import ReviewAssignment.Proofs.Store.PullRequestWrites

/-!
# Calls that do not apply

A write may be refused, or find its condition unmet.  `Call.applied` reads from the answer whether it
took effect, and `perform_of_not_applied` says that a call which did not leaves the store exactly as
it was.
-/

namespace ReviewAssignment.Store

/-- Whether the answer of a call says that the store was changed. -/
def Call.applied : (call : Call) → call.Answer → Bool
  | .upsertTeam _, answer => answer.isOk
  | .setActive _ _, answer => answer
  | .insertPullRequest _, answer => answer.isOk
  | .transition _ _ _ _, answer => answer
  | .replaceReviewer _ _ _, answer => answer.toOption.join.isSome
  | _, _ => false

theorem Call.isWrite_of_applied {call : Call} {answer : call.Answer}
    (h : call.applied answer = true) : call.isWrite = true := by
  cases call <;> first | rfl | cases h

/-- **A call that did not apply leaves the store exactly as it was**, wherever in its rows a write of
several rows was refused. -/
theorem Consistent.perform_of_not_applied {store : Store} (h : store.Consistent) {call : Call}
    (hCall : call.applied (store.perform call).1 = false) : (store.perform call).2 = store := by
  cases call with
  | upsertTeam team =>
    rw [Store.perform] at hCall ⊢
    cases hWritten : store.upsertTeam team with
    | ok written =>
      rw [hWritten] at hCall
      cases hCall
    | error cause => rfl
  | setActive id active =>
    rw [Store.perform, Store.setActive] at hCall ⊢
    split at hCall
    · cases hCall
    · next hUnknown => rw [if_neg hUnknown]
  | insertPullRequest pr =>
    rw [Store.perform] at hCall ⊢
    cases hWritten : store.insertPullRequest pr with
    | ok written =>
      rw [hWritten] at hCall
      cases hCall
    | error cause => rfl
  | transition id expected next moment =>
    rw [Store.perform, Store.transition] at hCall ⊢
    split at hCall
    · cases hCall
    · next hNone => rw [if_neg hNone]
  | replaceReviewer id old new =>
    rw [Store.perform] at hCall ⊢
    rcases h.replaceReviewer_cases id old new with hNone | hError | hSwap
    · rw [hNone]
    · rw [hError]
    · obtain ⟨row, pr, -, -, -, -, -, -, hSwapped⟩ := hSwap
      rw [hSwapped] at hCall
      cases hCall
  | _ => rfl

end ReviewAssignment.Store
