import ReviewAssignment.Proofs.Interleaving.Lawful

/-!
# All or nothing

A request that is refused leaves nothing behind, and neither does a single call of the store.  This is
so in every store that requests and calls can lead to, in any mix (`Store.Reachable`): the calls alone
do not keep a store sound, but they keep it consistent, and that is enough.

A write of several rows may be refused at any of them, when the rows before it have been written.  That
nothing of them stays is part of what a call is (`Store.Consistent.perform_of_not_applied`); what is
shown here is that a whole request makes no write that took effect before it fails.
-/

namespace ReviewAssignment

open Time (Instant)
open Store (Call)

namespace Store

/-- **The stores that there can be**: what single calls and whole requests make of the empty store. -/
inductive Reachable : Store → Prop where
  | empty : Reachable .empty
  | call {store : Store} (call : Call) : Reachable store → Reachable (store.perform call).2
  | request {store : Store} (settings : Settings) (request : Request)
      (outside : Program.Surroundings) (draws readings : Nat) : Reachable store →
      Reachable ((request.program settings).run outside ⟨store, draws, readings⟩).2.session.store

end Store

/-- No program breaks the rules of the tables. -/
theorem Program.consistent_run {α : Type} (program : Program α) (outside : Surroundings)
    (session : Session) (h : session.store.Consistent) :
    (program.run outside session).2.session.store.Consistent := by
  induction program generalizing session with
  | done result => exact h
  | fail cause => exact h
  | call asked next ih =>
    exact ih _ { session with store := (session.store.perform asked).2 } (h.perform asked)
  | draw others next ih =>
    exact ih _ { session with draws := session.draws + 1 } h
  | clock next ih => exact ih _ { session with readings := session.readings + 1 } h
  | note entry rest ih => exact ih session h

theorem Store.Reachable.consistent {store : Store} (h : store.Reachable) : store.Consistent := by
  induction h with
  | empty => exact consistent_empty
  | call call _ ih => exact ih.perform call
  | request settings request outside draws readings _ ih =>
    exact Program.consistent_run (request.program settings) outside ⟨_, draws, readings⟩ ih

/-- A request that fails leaves the store as it was. -/
theorem Request.run_of_failed {store : Store} (h : store.Consistent) {settings : Settings}
    {request : Request} {outside : Program.Surroundings} {draws readings : Nat} {cause : Failure}
    (hFailed : ((request.program settings).run outside ⟨store, draws, readings⟩).1 = .error cause) :
    ((request.program settings).run outside ⟨store, draws, readings⟩).2.session.store = store := by
  obtain ⟨made, hMade, hUnchanged⟩ := (request.abides settings h).run outside
    ⟨store, draws, readings⟩ h
  rw [hFailed] at hMade
  exact hUnchanged hMade

/-- **All or nothing.**  In every reachable store, a request that is answered with a failure leaves
the store exactly as it was, and so does a call whose answer does not say that it applied: an error, or
the answer of a conditional write whose condition was not met.  Among other clients, each call of a
request that fails leaves the store exactly as it found it. -/
theorem unchanged_of_refused {store : Store} (hReachable : store.Reachable) :
    (∀ settings request outside draws readings cause,
      ((Request.program settings request).run outside ⟨store, draws, readings⟩).1 = .error cause →
        ((Request.program settings request).run outside
          ⟨store, draws, readings⟩).2.session.store = store) ∧
    (∀ call : Call, call.applied (store.perform call).1 = false → (store.perform call).2 = store) ∧
    ∀ actions client cause, (Service.run actions).outcome? client = some (.error cause) →
      ∀ call found, .asked call found ∈ (Service.run actions).movesOf client →
        (found.perform call).2 = found := by
  refine ⟨fun settings request outside draws readings cause => ?_, fun call => ?_, ?_⟩
  · exact Request.run_of_failed hReachable.consistent
  · exact hReachable.consistent.perform_of_not_applied
  · intro actions client cause hOutcome call found hMove
    have hEvent := Service.mem_movesOf.1 hMove
    have hApplied := Service.not_applied_of_failed hEvent hOutcome
    obtain ⟨early, raw, moment, late, actor, rest, rfl, -, hNext, -⟩ :=
      Service.exists_action_of_mem_history hEvent
    obtain rfl := Service.found_of_next? hNext
    exact (Service.lawful_run early).sound.toConsistent.perform_of_not_applied hApplied

/-- A team whose last member is attached elsewhere: neither the team nor its first member stays, though
both are written before the last member is refused. -/
theorem conflicting_upsert_unchanged :
    let store := (Store.empty.perform (.upsertTeam ⟨"backend", [⟨"u1", "Alice", true⟩]⟩)).2
    let team : Team := ⟨"frontend", [⟨"u2", "Bob", true⟩, ⟨"u1", "Al", false⟩]⟩
    store.preparedFor team ≠ store ∧
      (store.perform (.upsertTeam team)).1 =
        .error (.validation "user u1 already belongs to another team" (some "members")) ∧
      (store.perform (.upsertTeam team)).2 = store :=
  ⟨by decide, by decide, (unchanged_of_refused (.call _ .empty)).2.1 _ (by decide)⟩

end ReviewAssignment
