import ReviewAssignment.Draws
import ReviewAssignment.Log
import ReviewAssignment.Store.Call

/-!
# Programs over the store

An operation of the service is a program: a sequence of store calls, random draws, readings of the
clock and log entries that ends in a result or in a failure.  What happens between two steps is not
the program's business, so one definition serves the run without company (`Program.run`), the run
that is interrupted at its first draw (`Program.untilDraw`), the run against a held write lock
(`Program.underLock`), and every interleaving with other programs.
-/

namespace ReviewAssignment

open Time (Instant)

/-- A sequence of steps that ends in a result or a failure. -/
inductive Program (α : Type) where
  | done (result : α)
  | fail (cause : Failure)
  | call (asked : Store.Call) (next : asked.Answer → Program α)
  /-- Asks for one of `others + 1` alternatives. -/
  | draw (others : Nat) (next : Fin (others + 1) → Program α)
  | clock (next : Instant → Program α)
  | note (entry : Log.Entry) (next : Program α)

namespace Program

variable {α β : Type}

protected def bind : Program α → (α → Program β) → Program β
  | .done result, next => next result
  | .fail cause, _ => .fail cause
  | .call asked answer, next => .call asked fun given => (answer given).bind next
  | .draw others choose, next => .draw others fun choice => (choose choice).bind next
  | .clock read, next => .clock fun moment => (read moment).bind next
  | .note entry rest, next => .note entry (rest.bind next)

instance : Monad Program where
  pure := .done
  bind := Program.bind

/-! ### Single steps -/

def ask (asked : Store.Call) : Program asked.Answer :=
  .call asked .done

def now : Program Instant :=
  .clock .done

def log (entry : Log.Entry) : Program Unit :=
  .note entry (.done ())

/-- Goes on only if there is nothing to complain about. -/
def check : Option Failure → Program Unit
  | none => .done ()
  | some cause => .fail cause

def ofExcept : Except Failure α → Program α
  | .ok result => .done result
  | .error cause => .fail cause

/-- A result that may be missing. -/
def ofOption (missing : Failure) : Option α → Program α
  | some result => .done result
  | none => .fail missing

def ofDraws : Draws α → Program α
  | .done result => .done result
  | .draw others next => .draw others fun choice => ofDraws (next choice)

/-! ### Changing a program -/

/-- Notes a failure of the named operation in the log before ending with it. -/
def reporting (operation : String) : Program α → Program α
  | .done result => .done result
  | .fail cause => .note (Log.ending operation cause) (.fail cause)
  | .call asked next => .call asked fun given => (next given).reporting operation
  | .draw others next => .draw others fun choice => (next choice).reporting operation
  | .clock next => .clock fun moment => (next moment).reporting operation
  | .note entry next => .note entry (next.reporting operation)

/-- The program as it goes while another client holds the write lock for longer than `millis`: at its
first write it waits until its deadline expires.

The store gives up waiting for the lock by itself after 30 seconds.  The deadline is assumed to expire
before that. -/
def underLock (millis : Nat) : Program α → Program α
  | .done result => .done result
  | .fail cause => .fail cause
  | .call asked next =>
    if asked.isWrite then .fail (.deadlineExceeded millis)
    else .call asked fun given => (next given).underLock millis
  | .draw others next => .draw others fun choice => (next choice).underLock millis
  | .clock next => .clock fun moment => (next moment).underLock millis
  | .note entry next => .note entry (next.underLock millis)

/-- Never fails: a failure is the result. -/
def attempt : Program α → Program (Except Failure α)
  | .done result => .done (.ok result)
  | .fail cause => .done (.error cause)
  | .call asked next => .call asked fun given => (next given).attempt
  | .draw others next => .draw others fun choice => (next choice).attempt
  | .clock next => .clock fun moment => (next moment).attempt
  | .note entry next => .note entry next.attempt

/-! ### Running -/

/-- What a run takes from outside: the numbers for its draws and the readings of the clock, each by
the count of those before it. -/
structure Surroundings where
  source : Source
  clock : Nat → Instant

structure Session where
  store : Store
  draws : Nat
  readings : Nat
deriving Inhabited

structure Trace where
  session : Session
  log : List Log.Entry
  drawn : List Drawn
deriving Inhabited

def run (outside : Surroundings) : Program α → Session → Except Failure α × Trace
  | .done result, session => (.ok result, ⟨session, [], []⟩)
  | .fail cause, session => (.error cause, ⟨session, [], []⟩)
  | .call asked next, session =>
    let performed := session.store.perform asked
    (next performed.1).run outside { session with store := performed.2 }
  | .draw others next, session =>
    let choice := Draws.alternative (outside.source session.draws) others
    let (result, trace) := (next choice).run outside { session with draws := session.draws + 1 }
    (result, { trace with drawn := ⟨others + 1, choice⟩ :: trace.drawn })
  | .clock next, session =>
    (next (outside.clock session.readings)).run outside
      { session with readings := session.readings + 1 }
  | .note entry next, session =>
    let (result, trace) := next.run outside session
    (result, { trace with log := entry :: trace.log })

/-- Runs a program up to its first draw, or to its end if it draws nothing, and gives what is left of
it. -/
def untilDraw (outside : Surroundings) : Program α → Session → Program α × Trace
  | .done result, session => (.done result, ⟨session, [], []⟩)
  | .fail cause, session => (.fail cause, ⟨session, [], []⟩)
  | .draw others next, session => (.draw others next, ⟨session, [], []⟩)
  | .call asked next, session =>
    let performed := session.store.perform asked
    (next performed.1).untilDraw outside { session with store := performed.2 }
  | .clock next, session =>
    (next (outside.clock session.readings)).untilDraw outside
      { session with readings := session.readings + 1 }
  | .note entry next, session =>
    let (rest, trace) := next.untilDraw outside session
    (rest, { trace with log := entry :: trace.log })

def draws : Program α → Bool
  | .draw _ _ => true
  | _ => false

end Program

end ReviewAssignment
