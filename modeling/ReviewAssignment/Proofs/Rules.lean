import ReviewAssignment.Program
import ReviewAssignment.Proofs.Selection

/-!
# Rules for programs

What is said of a program is said step by step: that it always comes to a result, that it keeps to a
manner, that it abides by a contract whatever others write.  Each of these keeps an account of its own,
and asks something of its own of every step.  `Rules` are what they differ in, and `Program.Obeys` is what
they have in common.

How programs are put together is dealt with here, for all rules at once.
-/

namespace ReviewAssignment

open Time (Instant)
open Store (Call)

variable {σ α β : Type}

/-- **What is asked of the steps of a program**, by the account that has been kept of those before.  What
is asked of a step may refer to what is asked of the rest, by the answer to the step and the account after
it; nobody can break a rule by doing better in the rest. -/
structure Rules (σ : Type) where
  call : σ → (asked : Call) → (asked.Answer → σ → Prop) → Prop
  draw : σ → Prop
  clock : σ → (Instant → σ → Prop) → Prop
  note : σ → (σ → Prop) → Prop
  call_mono : ∀ {account : σ} {asked : Call} {rest weaker : asked.Answer → σ → Prop},
    (∀ given after, rest given after → weaker given after) →
      call account asked rest → call account asked weaker
  clock_mono : ∀ {account : σ} {rest weaker : Instant → σ → Prop},
    (∀ moment after, rest moment after → weaker moment after) →
      clock account rest → clock account weaker
  note_mono : ∀ {account : σ} {rest weaker : σ → Prop},
    (∀ after, rest after → weaker after) → note account rest → note account weaker

/-- Rules that entries of the log do not matter to. -/
class Rules.Quiet (rules : Rules σ) : Prop where
  note_eq : ∀ account rest, rules.note account rest = rest account

theorem Rules.note_eq (rules : Rules σ) [rules.Quiet] (account : σ) (rest : σ → Prop) :
    rules.note account rest = rest account :=
  Quiet.note_eq account rest

/-- Rules that ask nothing of a step but what is asked of the rest. -/
structure Rules.Free (rules : Rules σ) : Prop where
  call : ∀ account asked rest, (∀ given after, rest given after) → rules.call account asked rest
  draw : ∀ account, rules.draw account
  clock : ∀ account rest, (∀ moment after, rest moment after) → rules.clock account rest
  note : ∀ account rest, (∀ after, rest after) → rules.note account rest

namespace Program

/-- **A program obeys rules** from an account on, and ends with a result or a failure that is as it should
be at the account of the end. -/
def Obeys (rules : Rules σ) (done : α → σ → Prop) (failed : Failure → σ → Prop) :
    σ → Program α → Prop
  | account, .done result => done result account
  | account, .fail cause => failed cause account
  | account, .call asked next =>
    rules.call account asked fun given after => Obeys rules done failed after (next given)
  | account, .draw _ next =>
    rules.draw account ∧ ∀ choice, Obeys rules done failed account (next choice)
  | account, .clock next =>
    rules.clock account fun moment after => Obeys rules done failed after (next moment)
  | account, .note _ rest => rules.note account fun after => Obeys rules done failed after rest

variable {rules : Rules σ} {done : α → σ → Prop} {failed : Failure → σ → Prop} {account : σ}

/-! ### Changing a program -/

/-- First one program, then another that goes on with the result of the first. -/
theorem obeys_bind (first : Program β) (next : β → Program α) (account : σ) :
    (first >>= next).Obeys rules done failed account =
      first.Obeys rules (fun result after => (next result).Obeys rules done failed after) failed
        account := by
  induction first generalizing account with
  | done result => rfl
  | fail cause => rfl
  | call asked rest ih => exact congrArg (rules.call account asked) (funext fun given => funext (ih given))
  | draw others rest ih =>
    exact congrArg (rules.draw account ∧ ·) (forall_congr fun choice => ih choice account)
  | clock rest ih => exact congrArg (rules.clock account) (funext fun moment => funext (ih moment))
  | note entry rest ih => exact congrArg (rules.note account) (funext ih)

/-- Reporting a failure changes nothing about it. -/
theorem obeys_reporting [rules.Quiet] (program : Program α) (operation : String) (account : σ) :
    (program.reporting operation).Obeys rules done failed account =
      program.Obeys rules done failed account := by
  induction program generalizing account with
  | done result => rfl
  | fail cause => exact rules.note_eq account _
  | call asked rest ih => exact congrArg (rules.call account asked) (funext fun given => funext (ih given))
  | draw others rest ih =>
    exact congrArg (rules.draw account ∧ ·) (forall_congr fun choice => ih choice account)
  | clock rest ih => exact congrArg (rules.clock account) (funext fun moment => funext (ih moment))
  | note entry rest ih => exact congrArg (rules.note account) (funext ih)

/-- An attempt ends with a result, also where the program fails. -/
theorem obeys_attempt {done : Except Failure α → σ → Prop} (program : Program α) (account : σ) :
    program.attempt.Obeys rules done failed account =
      program.Obeys rules (fun result => done (.ok result)) (fun cause => done (.error cause))
        account := by
  induction program generalizing account with
  | done result => rfl
  | fail cause => rfl
  | call asked rest ih => exact congrArg (rules.call account asked) (funext fun given => funext (ih given))
  | draw others rest ih =>
    exact congrArg (rules.draw account ∧ ·) (forall_congr fun choice => ih choice account)
  | clock rest ih => exact congrArg (rules.clock account) (funext fun moment => funext (ih moment))
  | note entry rest ih => exact congrArg (rules.note account) (funext ih)

/-- Where nothing is asked of the steps, what is always so is so at the end. -/
theorem obeys_of_free (hRules : rules.Free) (program : Program α)
    (hDone : ∀ result after, done result after) (hFailed : ∀ cause after, failed cause after)
    (account : σ) : program.Obeys rules done failed account := by
  induction program generalizing account with
  | done result => exact hDone result account
  | fail cause => exact hFailed cause account
  | call asked rest ih => exact hRules.call account asked _ ih
  | draw others rest ih => exact ⟨hRules.draw account, fun choice => ih choice account⟩
  | clock rest ih => exact hRules.clock account _ ih
  | note entry rest ih => exact hRules.note account _ ih

namespace Obeys

/-- Less may be asked of the end. -/
theorem mono {program : Program α} {weaker : α → σ → Prop} {milder : Failure → σ → Prop}
    (h : program.Obeys rules done failed account)
    (hDone : ∀ result after, done result after → weaker result after)
    (hFailed : ∀ cause after, failed cause after → milder cause after) :
    program.Obeys rules weaker milder account := by
  induction program generalizing account with
  | done result => exact hDone result account h
  | fail cause => exact hFailed cause account h
  | call asked rest ih => exact rules.call_mono (fun given _ => ih given) h
  | draw others rest ih => exact ⟨h.1, fun choice => ih choice (h.2 choice)⟩
  | clock rest ih => exact rules.clock_mono (fun moment _ => ih moment) h
  | note entry rest ih => exact rules.note_mono (fun _ => ih) h

theorem imp {program : Program α} {weaker : α → σ → Prop}
    (h : program.Obeys rules done failed account)
    (hDone : ∀ result after, done result after → weaker result after) :
    program.Obeys rules weaker failed account :=
  h.mono hDone fun _ _ hFailed => hFailed

theorem bind {first : Program β} {next : β → Program α}
    (h : first.Obeys rules (fun result after => (next result).Obeys rules done failed after) failed
      account) :
    (first >>= next).Obeys rules done failed account :=
  (obeys_bind first next account).mpr h

theorem map {program : Program β} (wrap : β → α)
    (h : program.Obeys rules (fun result => done (wrap result)) failed account) :
    (program >>= fun result => pure (wrap result)).Obeys rules done failed account :=
  bind h

theorem reporting [rules.Quiet] {program : Program α} (operation : String)
    (h : program.Obeys rules done failed account) :
    (program.reporting operation).Obeys rules done failed account :=
  (obeys_reporting program operation account).mpr h

/-! ### Single steps first -/

theorem ask_bind {asked : Call} {next : asked.Answer → Program α}
    (h : rules.call account asked fun given after => (next given).Obeys rules done failed after) :
    (ask asked >>= next).Obeys rules done failed account :=
  h

theorem now_bind {next : Instant → Program α}
    (h : rules.clock account fun moment after => (next moment).Obeys rules done failed after) :
    (now >>= next).Obeys rules done failed account :=
  h

theorem log_bind [rules.Quiet] {entry : Log.Entry} {next : Unit → Program α}
    (h : (next ()).Obeys rules done failed account) :
    (log entry >>= next).Obeys rules done failed account :=
  (rules.note_eq account _).mpr h

theorem check_bind {fault : Option Failure} {next : Unit → Program α}
    (hFault : ∀ cause, fault = some cause → failed cause account)
    (hNext : fault = none → (next ()).Obeys rules done failed account) :
    (check fault >>= next).Obeys rules done failed account := by
  cases fault with
  | none => exact hNext rfl
  | some cause => exact hFault cause rfl

theorem ofExcept_bind {given : Except Failure β} {next : β → Program α}
    (hError : ∀ cause, given = .error cause → failed cause account)
    (hOk : ∀ result, given = .ok result → (next result).Obeys rules done failed account) :
    (ofExcept given >>= next).Obeys rules done failed account := by
  cases given with
  | ok result => exact hOk result rfl
  | error cause => exact hError cause rfl

theorem ofOption_bind {missing : Failure} {given : Option β} {next : β → Program α}
    (hNone : given = none → failed missing account)
    (hSome : ∀ result, given = some result → (next result).Obeys rules done failed account) :
    (ofOption missing given >>= next).Obeys rules done failed account := by
  cases given with
  | none => exact hNone rfl
  | some result => exact hSome result rfl

/-- Drawing first.  Drawing never fails, and the result has the property whatever is drawn. -/
theorem ofDraws_bind {property : β → Prop} {draws : Draws β} {next : β → Program α}
    (hDraw : rules.draw account) (h : draws.All property)
    (hNext : ∀ result, property result → (next result).Obeys rules done failed account) :
    (ofDraws draws >>= next).Obeys rules done failed account := by
  induction draws with
  | done result => exact hNext result h
  | draw others rest ih => exact ⟨hDraw, fun choice => ih choice (h choice)⟩

end Obeys

end Program

end ReviewAssignment
