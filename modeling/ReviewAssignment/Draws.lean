/-!
# Draws

A computation that asks for random choices is a value of `Draws`: it either has its result or asks
for one of a number of alternatives and says how it goes on with each.  The number of alternatives
is positive by its type, and a choice is always within range.  A `Source` supplies the raw numbers;
`Draws.run` feeds them in and records what was drawn.

`Draws.sample` draws some of the elements of a list, one after the other and without putting any
back.  Each draw picks a place among the elements that are left; the first of them moves into the
gap, so that the elements left are again a list.  Asking for more elements than there are gives all
of them, in random order.
-/

namespace ReviewAssignment

/-- A computation with random choices. -/
inductive Draws (α : Type) where
  | done (result : α)
  /-- Asks for one of `others + 1` alternatives. -/
  | draw (others : Nat) (next : Fin (others + 1) → Draws α)

/-- A choice that was made: out of how many alternatives, and which. -/
structure Drawn where
  alternatives : Nat
  chosen : Nat
deriving DecidableEq, Repr, Inhabited

/-- Where choices come from: the raw number for each draw, by the count of draws before it.  A draw
takes its raw number modulo the number of alternatives. -/
abbrev Source := Nat → Nat

namespace Draws

variable {α β : Type}

protected def bind : Draws α → (α → Draws β) → Draws β
  | .done result, next => next result
  | .draw others choose, next => .draw others fun choice => (choose choice).bind next

instance : Monad Draws where
  pure := .done
  bind := Draws.bind

protected def map (f : α → β) : Draws α → Draws β
  | .done result => .done (f result)
  | .draw others next => .draw others fun choice => (next choice).map f

def pick (others : Nat) : Draws Nat :=
  .draw others fun choice => .done choice

def alternative (raw others : Nat) : Fin (others + 1) :=
  ⟨raw % (others + 1), Nat.mod_lt _ (Nat.succ_pos _)⟩

/-- Runs with choices from a source of which `made` draws were used before; the second part lists
the choices made. -/
def run (source : Source) (made : Nat) : Draws α → α × List Drawn
  | .done result => (result, [])
  | .draw others next =>
    let choice := alternative (source made) others
    let rest := (next choice).run source (made + 1)
    (rest.1, ⟨others + 1, choice⟩ :: rest.2)

end Draws

namespace Source

/-- Repeats a list of raw numbers over and over; the empty list always gives 0. -/
def repeating (picks : List Nat) : Source :=
  fun made => picks[made % picks.length]?.getD 0

/-- Scrambles the bits of a word so that neighbouring words come out unrelated. -/
def scramble (word : UInt64) : UInt64 :=
  let word := (word ^^^ (word >>> 30)) * 0xBF58476D1CE4E5B9
  let word := (word ^^^ (word >>> 27)) * 0x94D049BB133111EB
  word ^^^ (word >>> 31)

def seeded (seed : Nat) : Source :=
  fun made => (scramble (seed.toUInt64 + (made + 1).toUInt64 * 0x9E3779B97F4A7C15)).toNat

end Source

/-! ### Sampling without replacement -/

namespace Draws

variable {α : Type}

/-- Takes the element at a place out of a list with a first element; the first element moves into
the gap. -/
def takeOut (first : α) (rest : List α) (place : Fin (rest.length + 1)) : α × List α :=
  match place with
  | ⟨0, _⟩ => (first, rest)
  | ⟨index + 1, h⟩ => (rest[index], rest.set index first)

/-- Draws `amount` elements of a list, or all of them if there are fewer. -/
def sample : Nat → List α → Draws (List α)
  | 0, _ => .done []
  | _ + 1, [] => .done []
  | amount + 1, first :: rest =>
    .draw rest.length fun place =>
      let taken := takeOut first rest place
      (sample amount taken.2).map (taken.1 :: ·)

@[simp] theorem length_takeOut (first : α) (rest : List α) (place : Fin (rest.length + 1)) :
    (takeOut first rest place).2.length = rest.length := by
  obtain ⟨index, h⟩ := place
  cases index <;> simp [takeOut]

example : ((sample 2 ["b", "c", "d"]).run (Source.repeating [2, 1]) 0).1 = ["d", "b"] := by
  decide

end Draws

end ReviewAssignment
