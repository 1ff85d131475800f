import ReviewAssignment.Proofs.Interleaving.Service
import ReviewAssignment.Proofs.Rules
import ReviewAssignment.Proofs.Store.Evolution

/-!
# Contracts of programs

What a client does among others, without the others.  Between two of its own steps a client counts on
one thing only: the store it finds next `Leads` on from the one it left.  In exchange it makes writes
that its contract allows, and gives an answer about which its contract says something.

`Program.Abides` follows the program step by step and lets the store move on before each of them.  A
contract keeps account of the *deeds* of a client: its writes, and its readings of the clock.  Reading the
store, drawing and logging leave no trace there, so `Program.Finds` is enough for the parts of a program
that do nothing else.
-/

namespace ReviewAssignment

open Time (Instant)
open Store (Call)

variable {α β : Type}

/-- **What a client may count on** from one of its steps to the next. -/
structure Store.Leads (store later : Store) : Prop where
  consistent : later.Consistent
  evolves : store.Evolves later

theorem Store.Consistent.leads_refl {store : Store} (h : store.Consistent) : store.Leads store :=
  ⟨h, .refl store⟩

theorem Store.Leads.trans {first second third : Store} (h : first.Leads second)
    (g : second.Leads third) : first.Leads third :=
  ⟨g.consistent, h.evolves.trans g.evolves⟩

theorem Store.Consistent.leads_perform {store : Store} (h : store.Consistent) {call : Call}
    (hProper : call.Proper store) : store.Leads (store.perform call).2 :=
  ⟨h.perform call, h.evolves_perform hProper⟩

/-! ### Deeds -/

namespace Move

def isDeed : Move → Bool
  | .asked call _ => call.isWrite
  | .read _ => true
  | _ => false

def recorded (deeds : List Move) (move : Move) : List Move :=
  bif move.isDeed then deeds ++ [move] else deeds

def deedsOf (moves : List Move) : List Move :=
  moves.filter isDeed

theorem deedsOf_concat (moves : List Move) (move : Move) :
    deedsOf (moves ++ [move]) = recorded (deedsOf moves) move := by
  rw [deedsOf, List.filter_append, recorded]
  cases hDeed : move.isDeed <;> simp [deedsOf, hDeed]

theorem isDeed_of_isWrite {move : Move} (h : move.isWrite = true) : move.isDeed = true := by
  cases move with
  | asked call found => exact h
  | _ => cases h

end Move

/-- What is asked of a client that ends with a result of the given type. -/
structure Contract (α : Type) where
  /-- Whether a deed is allowed after others. -/
  allows : List Move → Move → Prop
  /-- What the answer means after some deeds, in the store of its time and in every later one. -/
  concludes : List Move → Store → Except Failure α → Prop

/-- Each of some deeds was allowed after those before it. -/
def Contract.Allowed (contract : Contract α) (deeds : List Move) : Prop :=
  ∀ before deed, before ++ [deed] <+: deeds → contract.allows before deed

theorem Contract.allowed_nil (contract : Contract α) : contract.Allowed [] := by
  intro before deed hPrefix
  cases List.append_eq_nil_iff.1 (List.prefix_nil.1 hPrefix) with
  | intro _ hNil => cases hNil

theorem Contract.Allowed.concat {contract : Contract α} {deeds : List Move} {deed : Move}
    (h : contract.Allowed deeds) (hDeed : contract.allows deeds deed) :
    contract.Allowed (deeds ++ [deed]) := by
  intro before other hPrefix
  rcases List.prefix_concat_iff.1 hPrefix with hLast | hEarlier
  · obtain ⟨rfl, hSame⟩ := List.append_inj' hLast rfl
    rw [List.singleton_inj.1 hSame]
    exact hDeed
  · exact h before other hEarlier

/-- What a client has done so far, and the store as it left it. -/
structure Account where
  deeds : List Move
  store : Store

/-- The steps that a contract allows, when others may write before each of them. -/
def Contract.rules (contract : Contract α) : Rules Account where
  call account asked rest := ∀ later, account.store.Leads later →
    (asked.isWrite = true → contract.allows account.deeds (.asked asked later)) ∧
      rest (later.perform asked).1
        ⟨Move.recorded account.deeds (.asked asked later), (later.perform asked).2⟩
  draw _ := True
  clock account rest := ∀ moment, contract.allows account.deeds (.read moment) ∧
    rest moment ⟨account.deeds ++ [.read moment], account.store⟩
  note account rest := rest account
  call_mono hRest hCall later hLater := ⟨(hCall later hLater).1, hRest _ _ (hCall later hLater).2⟩
  clock_mono hRest hClock moment := ⟨(hClock moment).1, hRest _ _ (hClock moment).2⟩
  note_mono hRest hNote := hRest _ hNote

instance (contract : Contract α) : contract.rules.Quiet := ⟨fun _ _ => rfl⟩

/-- An outcome is what the contract says, also when others have written since. -/
def Contract.Ends (contract : Contract α) (outcome : Except Failure α) (account : Account) : Prop :=
  ∀ later, account.store.Leads later → contract.concludes account.deeds later outcome

/-- The steps of a program that only looks around: it reads the store, draws and logs. -/
def Rules.looking : Rules Store where
  call store asked rest := asked.isWrite = false ∧
    ∀ later, store.Leads later → rest (later.perform asked).1 later
  draw _ := True
  clock _ _ := False
  note store rest := rest store
  call_mono hRest hCall := ⟨hCall.1, fun later hLater => hRest _ _ (hCall.2 later hLater)⟩
  clock_mono _ hClock := hClock
  note_mono hRest hNote := hRest _ hNote

namespace Program

/-- **A program abides by a contract** from some deeds and a store on, whatever others write between
its steps. -/
def Abides (contract : Contract α) (deeds : List Move) (store : Store) (program : Program α) : Prop :=
  program.Obeys contract.rules (fun result => contract.Ends (.ok result))
    (fun cause => contract.Ends (.error cause)) ⟨deeds, store⟩

/-- **A program that only looks around**: it writes nothing and reads no clock, and what it finds is
so in the store of its answer. -/
def Finds (found : Store → Except Failure α → Prop) (store : Store) (program : Program α) : Prop :=
  program.Obeys .looking (fun result here => ∀ later, here.Leads later → found later (.ok result))
    (fun cause here => ∀ later, here.Leads later → found later (.error cause)) store

variable {contract : Contract α} {deeds : List Move} {store later : Store}

/-! ### Steps -/

/-- What a program promises, it still promises when others have written. -/
theorem Abides.of_leads {program : Program α} (h : program.Abides contract deeds store)
    (hLater : store.Leads later) : program.Abides contract deeds later := by
  induction program generalizing deeds store later with
  | done result => exact fun last hLast => h last (hLater.trans hLast)
  | fail cause => exact fun last hLast => h last (hLater.trans hLast)
  | call asked next ih => exact fun last hLast => h last (hLater.trans hLast)
  | draw others next ih => exact ⟨trivial, fun choice => ih choice (h.2 choice) hLater⟩
  | clock next ih => exact fun moment => ⟨(h moment).1, ih moment (h moment).2 hLater⟩
  | note entry rest ih => exact ih h hLater

/-- One step of a program that abides: if it is a deed, it is allowed, and the rest abides. -/
theorem Abides.next {program rest : Program α} (h : program.Abides contract deeds store)
    (hLater : store.Leads later) {raw : Nat} {moment : Instant} {move : Move}
    (hNext : program.next? later raw moment = some (move, rest)) :
    (move.isDeed = true → contract.allows deeds move) ∧
      rest.Abides contract (Move.recorded deeds move) (move.after later) := by
  cases program with
  | done result => cases hNext
  | fail cause => cases hNext
  | call asked next =>
    cases hNext
    exact h later hLater
  | draw others next =>
    cases hNext
    exact ⟨fun hDeed => absurd hDeed Bool.false_ne_true, Abides.of_leads (h.2 _) hLater⟩
  | clock next =>
    cases hNext
    exact ⟨fun _ => (h moment).1, Abides.of_leads (h moment).2 hLater⟩
  | note entry rest =>
    cases hNext
    exact ⟨fun hDeed => absurd hDeed Bool.false_ne_true, Abides.of_leads h hLater⟩

theorem Abides.outcome {program : Program α} (h : program.Abides contract deeds store)
    (hLater : store.Leads later) {outcome : Except Failure α}
    (hOutcome : program.outcome? = some outcome) : contract.concludes deeds later outcome := by
  cases program with
  | done result =>
    cases hOutcome
    exact h later hLater
  | fail cause =>
    cases hOutcome
    exact h later hLater
  | _ => cases hOutcome

/-- A program without company comes to an answer that its contract allows.  If none of its deeds
took effect, the store is as it was. -/
theorem Abides.run {program : Program α} (outside : Surroundings) (session : Session)
    (h : program.Abides contract deeds session.store) (hStore : session.store.Consistent) :
    ∃ made, contract.concludes (deeds ++ made) (program.run outside session).2.session.store
        (program.run outside session).1 ∧
      ((∀ move ∈ made, move.applied = false) →
        (program.run outside session).2.session.store = session.store) := by
  induction program generalizing deeds session with
  | done result =>
    refine ⟨[], ?_, fun _ => rfl⟩
    rw [List.append_nil]
    exact h session.store hStore.leads_refl
  | fail cause =>
    refine ⟨[], ?_, fun _ => rfl⟩
    rw [List.append_nil]
    exact h session.store hStore.leads_refl
  | call asked next ih =>
    obtain ⟨-, hRest⟩ := h session.store hStore.leads_refl
    obtain ⟨made, hMade, hIdle⟩ :=
      ih (session.store.perform asked).1
        { session with store := (session.store.perform asked).2 } hRest (hStore.perform asked)
    by_cases hWrite : asked.isWrite = true
    · refine ⟨.asked asked session.store :: made, ?_, fun hNone => ?_⟩
      · rw [Move.recorded, Move.isDeed, hWrite, cond_true, List.append_assoc] at hMade
        exact hMade
      · have hSelf := hNone (.asked asked session.store) List.mem_cons_self
        have hOthers := fun move hMove => hNone move (List.mem_cons_of_mem _ hMove)
        exact (hIdle hOthers).trans (hStore.perform_of_not_applied hSelf)
    · rw [Bool.not_eq_true] at hWrite
      refine ⟨made, ?_, fun hNone => ?_⟩
      · rw [Move.recorded, Move.isDeed, hWrite, cond_false] at hMade
        exact hMade
      · exact (hIdle hNone).trans (Store.perform_of_not_isWrite _ hWrite)
  | draw others next ih =>
    exact ih _ { session with draws := session.draws + 1 } (h.2 _) hStore
  | clock next ih =>
    obtain ⟨made, hMade, hIdle⟩ :=
      ih _ { session with readings := session.readings + 1 } (h _).2 hStore
    refine ⟨.read (outside.clock session.readings) :: made, ?_, fun hNone => ?_⟩
    · rw [List.append_assoc] at hMade
      exact hMade
    · exact hIdle fun move hMove => hNone move (List.mem_cons_of_mem _ hMove)
  | note entry rest ih => exact ih session h hStore

/-! ### How programs are put together -/

section

variable {γ : Type} {contract : Contract γ} {done : α → Account → Prop}
  {failed : Failure → Account → Prop}

theorem Obeys.read_bind {asked : Call} {next : asked.Answer → Program α}
    (hRead : asked.isWrite = false)
    (hNext : ∀ later, store.Leads later →
      (next (later.perform asked).1).Obeys contract.rules done failed ⟨deeds, later⟩) :
    (ask asked >>= next).Obeys contract.rules done failed ⟨deeds, store⟩ := by
  refine .ask_bind fun later hLater => ⟨fun hWrite => absurd hWrite (Bool.eq_false_iff.1 hRead), ?_⟩
  rw [Move.recorded, Move.isDeed, hRead, cond_false, Store.perform_of_not_isWrite _ hRead]
  exact hNext later hLater

theorem Obeys.write_bind {asked : Call} {next : asked.Answer → Program α}
    (hWrite : asked.isWrite = true)
    (hNext : ∀ later, store.Leads later → contract.allows deeds (.asked asked later) ∧
      (next (later.perform asked).1).Obeys contract.rules done failed
        ⟨deeds ++ [.asked asked later], (later.perform asked).2⟩) :
    (ask asked >>= next).Obeys contract.rules done failed ⟨deeds, store⟩ := by
  refine .ask_bind fun later hLater => ⟨fun _ => (hNext later hLater).1, ?_⟩
  rw [Move.recorded, Move.isDeed, hWrite, cond_true]
  exact (hNext later hLater).2

/-- Looking around first.  What was found is so when the program goes on. -/
theorem Obeys.finds_bind {program : Program β} {next : β → Program α}
    {found : Store → Except Failure β → Prop} (h : program.Finds found store)
    (hStore : store.Consistent)
    (hError : ∀ later cause, store.Leads later → found later (.error cause) →
      failed cause ⟨deeds, later⟩)
    (hOk : ∀ later result, store.Leads later → found later (.ok result) →
      (next result).Obeys contract.rules done failed ⟨deeds, later⟩) :
    (program >>= next).Obeys contract.rules done failed ⟨deeds, store⟩ := by
  induction program generalizing store with
  | done result => exact hOk store result hStore.leads_refl (h store hStore.leads_refl)
  | fail cause => exact hError store cause hStore.leads_refl (h store hStore.leads_refl)
  | call asked rest ih =>
    refine .read_bind h.1 fun later hLater => ih _ (h.2 later hLater) hLater.consistent ?_ ?_
    · exact fun last cause hLast => hError last cause (hLater.trans hLast)
    · exact fun last result hLast => hOk last result (hLater.trans hLast)
  | draw others rest ih => exact ⟨trivial, fun choice => ih choice (h.2 choice) hStore hError hOk⟩
  | clock rest ih => exact absurd h id
  | note entry rest ih => exact ih h hStore hError hOk

end

theorem Finds.and {program : Program α} {found other : Store → Except Failure α → Prop}
    (h : program.Finds found store) (g : program.Finds other store) :
    program.Finds (fun later outcome => found later outcome ∧ other later outcome) store := by
  induction program generalizing store with
  | done result => exact fun later hLater => ⟨h later hLater, g later hLater⟩
  | fail cause => exact fun later hLater => ⟨h later hLater, g later hLater⟩
  | call asked next ih =>
    exact ⟨h.1, fun later hLater => ih _ (h.2 later hLater) (g.2 later hLater)⟩
  | draw others next ih => exact ⟨trivial, fun choice => ih choice (h.2 choice) (g.2 choice)⟩
  | clock next ih => exact h
  | note entry rest ih => exact ih h g

end Program

end ReviewAssignment
