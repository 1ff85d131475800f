import ReviewAssignment.Failure

/-!
# Reviewer slots

The reviewers of a pull request hold numbered slots, one each.  A slot keeps its place for good:
replacing a reviewer rewrites the one slot that holds the old identifier and moves no other.  That
no reviewer holds two slots is part of the type, and `Slots.ofList` refuses a list that would break
it, naming the first identifier that occurs again.
-/

namespace ReviewAssignment

/-- The first entry that occurs among the earlier ones. -/
def repeatedAfter (earlier : List UserId) : List UserId → Option UserId
  | [] => none
  | id :: rest => if id ∈ earlier then some id else repeatedAfter (id :: earlier) rest

/-- The first entry of a list that occurs earlier in it. -/
def firstRepeated? (ids : List UserId) : Option UserId :=
  repeatedAfter [] ids

theorem repeatedAfter_eq_none_iff {earlier ids : List UserId} :
    repeatedAfter earlier ids = none ↔ (∀ id ∈ ids, id ∉ earlier) ∧ ids.Nodup := by
  induction ids generalizing earlier with
  | nil => simp [repeatedAfter]
  | cons id rest ih =>
    by_cases hMem : id ∈ earlier
    · simp [repeatedAfter, hMem]
    · simp only [repeatedAfter, hMem, ↓reduceIte, ih, List.mem_cons, not_or, List.nodup_cons,
        forall_eq_or_imp, not_false_eq_true, true_and]
      grind

/-- A list has no repeated entry exactly when its entries are pairwise distinct. -/
theorem firstRepeated?_eq_none_iff {ids : List UserId} :
    firstRepeated? ids = none ↔ ids.Nodup := by
  simp [firstRepeated?, repeatedAfter_eq_none_iff]

/-- Writing a new entry into a list of distinct entries keeps them distinct. -/
theorem nodup_set {ids : List UserId} {new : UserId} (slot : Nat) (hDistinct : ids.Nodup)
    (hNew : new ∉ ids) : (ids.set slot new).Nodup := by
  induction ids generalizing slot with
  | nil => simp
  | cons id rest ih =>
    rw [List.nodup_cons] at hDistinct
    rw [List.mem_cons, not_or] at hNew
    cases slot with
    | zero => simpa using ⟨hNew.2, hDistinct.2⟩
    | succ slot =>
      rw [List.set_cons_succ, List.nodup_cons]
      refine ⟨fun hMem => ?_, ih slot hDistinct.2 hNew.2⟩
      rcases List.mem_or_eq_of_mem_set hMem with hOld | hSame
      · exact hDistinct.1 hOld
      · exact hNew.1 hSame.symm

/-- The reviewers of a pull request, by slot. -/
structure Slots where
  reviewers : List UserId
  distinct : reviewers.Nodup
deriving DecidableEq, Repr

namespace Slots

instance : Inhabited Slots := ⟨⟨[], List.nodup_nil⟩⟩

/-- Gives the reviewers their slots in order; a reviewer named twice is refused. -/
def ofList (ids : List UserId) : Except Failure Slots :=
  match h : firstRepeated? ids with
  | none => .ok ⟨ids, firstRepeated?_eq_none_iff.1 h⟩
  | some id => .error (.assignedTwice id)

def size (slots : Slots) : Nat :=
  slots.reviewers.length

def contains (slots : Slots) (user : UserId) : Bool :=
  slots.reviewers.contains user

def slotOf? (slots : Slots) (user : UserId) : Option Nat :=
  slots.reviewers.idxOf? user

/-- Puts `new` into the slot that `old` holds and gives the number of the slot.  It is refused when
`old` holds no slot, and otherwise when `new` holds one already. -/
def replace (slots : Slots) (id : PullRequestId) (old new : UserId) : Except Failure (Nat × Slots) :=
  match slots.slotOf? old with
  | none => .error (.reviewerNotAssigned id old)
  | some slot =>
    if hNew : new ∈ slots.reviewers then .error (.alreadyReviewing id new)
    else .ok (slot, ⟨slots.reviewers.set slot new, nodup_set slot slots.distinct hNew⟩)

@[ext] theorem ext {a b : Slots} (h : a.reviewers = b.reviewers) : a = b := by
  cases a
  cases b
  cases h
  rfl

theorem ofList_of_nodup {ids : List UserId} (h : ids.Nodup) : ofList ids = .ok ⟨ids, h⟩ := by
  unfold ofList
  split
  · rfl
  · next id hSome => simp [firstRepeated?_eq_none_iff.2 h] at hSome

@[simp] theorem ofList_reviewers (slots : Slots) : ofList slots.reviewers = .ok slots :=
  ofList_of_nodup slots.distinct

end Slots

end ReviewAssignment
