import ReviewAssignment.Proofs.Interleaving.Requests

/-!
# The service keeps its rules

Every client keeps to the contract of its request (`Request.abides`), counting on the others to lead
the store on.  `Service.Abiding` says so of all clients in one run, for any family of contracts.
`Service.Lawful` puts this together: the store is sound, what is left of each program still abides, and
each deed of a client was allowed to it.  One step keeps this and leads the store on, so that it holds
of every run (`Service.lawful_run`) and every run leads on from each of its parts
(`Service.leads_run`).  So in every run each client abides by whatever its program abides by from every
consistent store on (`Service.abides_run`).

Every write in the history belongs to a client whose request asks for it and who makes no other
(`Service.exists_writer`), and every answer means what the contract says
(`Service.concludes_of_outcome?`).
-/

namespace ReviewAssignment

open Time (Instant)
open Store (Call)

theorem Move.after_of_not_isWrite {move : Move} (h : move.isWrite = false) (store : Store) :
    move.after store = store := by
  cases move with
  | asked call found => exact Store.perform_of_not_isWrite store h
  | _ => rfl

theorem Request.filter_isWrite_of_writes {settings : Settings} {deeds : List Move} {call : Call}
    {request : Request} (h : request.Writes settings deeds call) :
    deeds.filter Move.isWrite = [] := by
  cases request with
  | upsertTeam team => rw [h.1, List.filter_nil]
  | setActive user active => rw [h.1, List.filter_nil]
  | create id name author =>
    obtain ⟨reviewers, createdAt, rfl, -⟩ := h
    rfl
  | merge id =>
    obtain ⟨moment, rfl, -⟩ := h
    rfl
  | reassign id old => rw [h.1, List.filter_nil]
  | _ => exact absurd h id

/-- The write of a request is its last deed. -/
theorem Request.write_last {settings : Settings} {request : Request} {deeds : List Move}
    (hAllowed : (request.contract settings).Allowed deeds)
    (hDeeds : ∀ deed ∈ deeds, deed.isDeed = true) {write : Move} (hMem : write ∈ deeds)
    (hWrite : write.isWrite = true) :
    ∃ before, deeds = before ++ [write] ∧ (request.contract settings).allows before write := by
  obtain ⟨before, after, rfl⟩ := List.append_of_mem hMem
  cases after with
  | nil => exact ⟨before, rfl, hAllowed before write (List.prefix_refl _)⟩
  | cons next rest =>
    -- No contract allows anything after a write: neither another one nor a look at the clock.
    exfalso
    have hNext : (request.contract settings).allows (before ++ [write]) next := by
      refine hAllowed _ _ ⟨rest, ?_⟩
      rw [List.append_assoc, List.append_assoc]
      rfl
    cases next with
    | asked call found =>
      have hNone := filter_isWrite_of_writes hNext.2
      rw [List.filter_append, List.filter_cons_of_pos hWrite] at hNone
      exact List.cons_ne_nil _ _ (List.append_eq_nil_iff.1 hNone).2
    | read moment => exact List.cons_ne_nil _ _ (List.append_eq_nil_iff.1 hNext).2
    | drew drawn => cases hDeeds (.drew drawn) (by simp)
    | noted entry => cases hDeeds (.noted entry) (by simp)

namespace Service

variable {service : Service} {client : Nat} {actor : Client} {raw : Nat} {moment : Instant}
  {move : Move} {rest : Program Reply} {contract : Settings → Request → Contract Reply}

/-- **Every client abides** by the contract of its request, out of a family of contracts. -/
def Abiding (contract : Settings → Request → Contract Reply) (service : Service) : Prop :=
  ∀ (client : Nat) (actor : Client), service.clients[client]? = some actor →
    actor.rest.Abides (contract actor.settings actor.request)
      (Move.deedsOf (service.movesOf client)) service.store

theorem Abiding.entered (h : service.Abiding contract) {settings : Settings} {request : Request}
    (hProgram : (request.program settings).Abides (contract settings request) [] service.store)
    (hFresh : service.movesOf service.clients.length = []) :
    (service.entered settings request).Abiding contract := by
  intro client actor hActor
  rcases entered_cases hActor with hOld | ⟨rfl, rfl⟩
  · exact h client actor hOld
  · rw [movesOf_entered, hFresh]
    exact hProgram

/-- The one who moves goes on with the contract, and for the others the store has been led on. -/
theorem Abiding.advance (h : service.Abiding contract) (hStore : service.store.Consistent)
    (hLeads : service.store.Leads (move.after service.store))
    (hActor : service.clients[client]? = some actor)
    (hNext : actor.rest.next? service.store raw moment = some (move, rest)) :
    (service.advance client actor move rest).Abiding contract := by
  intro other given hGiven
  by_cases hOther : client = other
  · subst hOther
    rw [Service.advance, List.getElem?_set_self (List.getElem?_eq_some_iff.1 hActor).1] at hGiven
    obtain rfl := Option.some.inj hGiven
    rw [movesOf_advance_self, Move.deedsOf_concat]
    exact ((h client actor hActor).next hStore.leads_refl hNext).2
  · rw [movesOf_advance_of_ne service actor move rest hOther]
    rw [Service.advance, List.getElem?_set_ne hOther] at hGiven
    exact (h other given hGiven).of_leads hLeads

/-- **What holds of the service between any two steps.** -/
structure Lawful (service : Service) : Prop where
  sound : service.store.Sound
  abides : ∀ (client : Nat) (actor : Client), service.clients[client]? = some actor →
    actor.rest.Abides (actor.request.contract actor.settings)
      (Move.deedsOf (service.movesOf client)) service.store
  allowed : ∀ (client : Nat) (actor : Client), service.clients[client]? = some actor →
    (actor.request.contract actor.settings).Allowed (Move.deedsOf (service.movesOf client))

theorem lawful_initial : initial.Lawful where
  sound := Store.sound_empty
  abides := fun _ _ hActor => nomatch hActor
  allowed := fun _ _ hActor => nomatch hActor

/-- Who enters may count on the store as it is. -/
theorem Lawful.entered (h : service.Lawful) (settings : Settings) (request : Request)
    (hFresh : service.movesOf service.clients.length = []) :
    (service.entered settings request).Lawful := by
  have hAbiding : service.Abiding fun settings request => request.contract settings := h.abides
  have hProgram := request.abides settings h.sound.toConsistent
  refine ⟨h.sound, hAbiding.entered hProgram hFresh, fun client actor hActor => ?_⟩
  rcases entered_cases hActor with hOld | ⟨rfl, rfl⟩
  · exact h.allowed client actor hOld
  · rw [movesOf_entered, hFresh]
    exact Contract.allowed_nil _

/-- A move leads the store on and keeps it sound. -/
theorem Lawful.after (h : service.Lawful) (hActor : service.clients[client]? = some actor)
    (hNext : actor.rest.next? service.store raw moment = some (move, rest)) :
    service.store.Leads (move.after service.store) ∧ (move.after service.store).Sound := by
  have hSelf := h.sound.toConsistent.leads_refl
  cases hWrite : move.isWrite with
  | false =>
    rw [Move.after_of_not_isWrite hWrite]
    exact ⟨hSelf, h.sound⟩
  | true =>
    cases move with
    | asked call found =>
      obtain rfl := found_of_next? hNext
      have hAllows := ((h.abides client actor hActor).next hSelf hNext).1 hWrite
      exact ⟨h.sound.toConsistent.leads_perform hAllows.1, h.sound.perform hAllows.1⟩
    | _ => cases hWrite

/-- A move keeps the rules: the one who moves goes on with the contract, and for the others the
store has been led on. -/
theorem Lawful.advance (h : service.Lawful) (hActor : service.clients[client]? = some actor)
    (hNext : actor.rest.next? service.store raw moment = some (move, rest)) :
    (service.advance client actor move rest).Lawful := by
  obtain ⟨hLeads, hSound⟩ := h.after hActor hNext
  have hStore := h.sound.toConsistent
  have hAbiding : service.Abiding fun settings request => request.contract settings := h.abides
  refine ⟨hSound, hAbiding.advance hStore hLeads hActor hNext, fun other given hGiven => ?_⟩
  by_cases hOther : client = other
  · subst hOther
    rw [Service.advance, List.getElem?_set_self (List.getElem?_eq_some_iff.1 hActor).1] at hGiven
    obtain rfl := Option.some.inj hGiven
    rw [movesOf_advance_self, Move.deedsOf_concat, Move.recorded]
    have hAllows := ((h.abides client actor hActor).next hStore.leads_refl hNext).1
    cases hDeed : move.isDeed with
    | true => exact (h.allowed client actor hActor).concat (hAllows hDeed)
    | false => exact h.allowed client actor hActor
  · rw [movesOf_advance_of_ne service actor move rest hOther]
    rw [Service.advance, List.getElem?_set_ne hOther] at hGiven
    exact h.allowed other given hGiven

/-- **Every run keeps the rules.** -/
theorem lawful_run (actions : List Action) : (run actions).Lawful := by
  refine run_induction Lawful lawful_initial ?_ ?_ actions
  · intro before settings request ih
    exact ih.entered settings request (movesOf_eq_nil (Nat.le_refl _))
  · intro before client raw moment actor move rest ih hActor hNext
    exact ih.advance hActor hNext

theorem leads_step (before : List Action) (action : Action) :
    (run before).store.Leads ((run before).step action).store := by
  have hLawful := lawful_run before
  rcases (run before).step_cases action with hIdle | hEnter | hMove
  · rw [hIdle]
    exact hLawful.sound.toConsistent.leads_refl
  · obtain ⟨settings, request, -, hStep⟩ := hEnter
    rw [hStep]
    exact hLawful.sound.toConsistent.leads_refl
  · obtain ⟨client, raw, moment, actor, move, rest, -, hActor, hNext, hStep⟩ := hMove
    rw [hStep]
    exact (hLawful.after hActor hNext).1

/-- **Every run leads on** from each of its parts. -/
theorem leads_run (before after : List Action) :
    (run before).store.Leads (run (before ++ after)).store := by
  induction after using List.reverseRecOn with
  | nil =>
    rw [List.append_nil]
    exact (lawful_run before).sound.toConsistent.leads_refl
  | append_singleton after action ih =>
    rw [← List.append_assoc, run_concat]
    exact ih.trans (leads_step _ action)

/-- **What every program abides by, every client does** at every point of a run. -/
theorem abides_run (hPrograms : ∀ settings request (store : Store), store.Consistent →
      (Request.program settings request).Abides (contract settings request) [] store)
    (actions : List Action) : (run actions).Abiding contract := by
  refine run_induction (Abiding contract) (fun _ _ hActor => nomatch hActor) ?_ ?_ actions
  · intro before settings request ih
    have hStore := (lawful_run before).sound.toConsistent
    exact ih.entered (hPrograms settings request _ hStore) (movesOf_eq_nil (Nat.le_refl _))
  · intro before client raw moment actor move rest ih hActor hNext
    have hLawful := lawful_run before
    exact ih.advance hLawful.sound.toConsistent (hLawful.after hActor hNext).1 hActor hNext

/-! ### Who wrote what -/

theorem mem_deedsOf_movesOf {service : Service} {client : Nat} {deed : Move} :
    deed ∈ Move.deedsOf (service.movesOf client) ↔
      (⟨client, deed⟩ : Event) ∈ service.history ∧ deed.isDeed = true := by
  rw [Move.deedsOf, List.mem_filter, mem_movesOf]

/-- **Who makes a write has made no other**, and was allowed to make this one. -/
theorem exists_writer {actions : List Action} {client : Nat} {write : Move}
    (hEvent : ⟨client, write⟩ ∈ (run actions).history) (hWrite : write.isWrite = true) :
    ∃ (actor : Client) (before : List Move), (run actions).clients[client]? = some actor ∧
      Move.deedsOf ((run actions).movesOf client) = before ++ [write] ∧
      (actor.request.contract actor.settings).allows before write := by
  have hIndex : client < (run actions).clients.length := client_lt_of_mem_history actions _ hEvent
  have hActor := List.getElem?_eq_getElem hIndex
  have hMem := mem_deedsOf_movesOf.2 ⟨hEvent, Move.isDeed_of_isWrite hWrite⟩
  obtain ⟨before, hDeeds, hAllows⟩ := Request.write_last
    ((lawful_run actions).allowed client _ hActor)
    (fun deed hDeed => (List.mem_filter.1 hDeed).2) hMem hWrite
  exact ⟨_, before, hActor, hDeeds, hAllows⟩

/-- What a client is answered means what its contract says. -/
theorem concludes_of_outcome? {actions : List Action} {client : Nat} {actor : Client}
    {outcome : Except Failure Reply} (hActor : (run actions).clients[client]? = some actor)
    (hOutcome : (run actions).outcome? client = some outcome) :
    (actor.request.contract actor.settings).concludes
      (Move.deedsOf ((run actions).movesOf client)) (run actions).store outcome := by
  have hLawful := lawful_run actions
  rw [outcome?, hActor, Option.bind_some] at hOutcome
  exact (hLawful.abides client actor hActor).outcome hLawful.sound.toConsistent.leads_refl hOutcome

/-- Nothing that a client did took effect if the client is answered with a failure. -/
theorem not_applied_of_failed {actions : List Action} {client : Nat} {move : Move}
    {cause : Failure} (hEvent : ⟨client, move⟩ ∈ (run actions).history)
    (hOutcome : (run actions).outcome? client = some (.error cause)) : move.applied = false := by
  have hIndex : client < (run actions).clients.length := client_lt_of_mem_history actions _ hEvent
  have hDeeds := concludes_of_outcome? (List.getElem?_eq_getElem hIndex) hOutcome
  rw [Bool.eq_false_iff]
  intro hApplied
  have hMem := mem_deedsOf_movesOf.2
    ⟨hEvent, Move.isDeed_of_isWrite (Move.isWrite_of_applied hApplied)⟩
  exact Bool.eq_false_iff.1 (hDeeds move hMem) hApplied

end Service

end ReviewAssignment
