import ReviewAssignment.Proofs.Slots

/-!
# Slots through any number of replacements

Slots are built from a list without repeats (`Slots.ofList_eq_ok_iff`); of any other list the first repeat
is named (`Slots.ofList_eq_error_iff`).  From then on they change by calls of `Slots.replace` alone, of
which some are refused.

`rewritten` is what a call does to the bare list of entries: it looks for the first place where the old
entry stands and writes over it.  The list does not say that this place is the only one; it is, because
writing keeps the entries distinct (`nodup_rewritten`), and so they are distinct after any number of calls
(`nodup_rewrittenAll`).  The slots go through the same lists (`Slots.reviewers_afterAll`).
-/

namespace ReviewAssignment

/-! ### Repeats -/

/-- The first entry that repeats an earlier one: those before it are distinct, and it is one of
them. -/
def FirstRepeat (ids : List UserId) (id : UserId) : Prop :=
  ∃ before after, ids = before ++ id :: after ∧ before.Nodup ∧ id ∈ before

theorem repeatedAfter_eq_some_iff {earlier ids : List UserId} {id : UserId} :
    repeatedAfter earlier ids = some id ↔
      ∃ before after, ids = before ++ id :: after ∧ (∀ other ∈ before, other ∉ earlier) ∧
        before.Nodup ∧ (id ∈ earlier ∨ id ∈ before) := by
  induction ids generalizing earlier with
  | nil => simp [repeatedAfter]
  | cons first rest ih =>
    rw [repeatedAfter]
    by_cases hFirst : first ∈ earlier
    · rw [if_pos hFirst, Option.some.injEq]
      constructor
      · rintro rfl
        exact ⟨[], rest, rfl, List.forall_mem_nil _, List.nodup_nil, Or.inl hFirst⟩
      · rintro ⟨_ | ⟨other, before⟩, after, hSplit, hNew, -, -⟩
        · exact (List.cons.inj hSplit).1
        · obtain rfl := (List.cons.inj hSplit).1
          exact absurd hFirst (hNew first List.mem_cons_self)
    · rw [if_neg hFirst, ih]
      constructor
      · rintro ⟨before, after, rfl, hNew, hDistinct, hId⟩
        refine ⟨first :: before, after, rfl, List.forall_mem_cons.2 ⟨hFirst, fun other hOther => ?_⟩,
          List.nodup_cons.2 ⟨fun hMem => hNew first hMem List.mem_cons_self, hDistinct⟩, ?_⟩
        · exact fun hMem => hNew other hOther (List.mem_cons_of_mem first hMem)
        · simp only [List.mem_cons] at hId ⊢
          tauto
      · rintro ⟨_ | ⟨other, before⟩, after, hSplit, hNew, hDistinct, hId⟩
        · obtain ⟨rfl, -⟩ := List.cons.inj hSplit
          exact absurd (hId.resolve_right List.not_mem_nil) hFirst
        · obtain ⟨rfl, rfl⟩ := List.cons.inj hSplit
          obtain ⟨hOut, hDistinct⟩ := List.nodup_cons.1 hDistinct
          refine ⟨before, after, rfl, fun other hOther hMem => ?_, hDistinct, ?_⟩
          · rcases List.mem_cons.1 hMem with rfl | hEarlier
            · exact hOut hOther
            · exact hNew other (List.mem_cons_of_mem _ hOther) hEarlier
          · simp only [List.mem_cons] at hId ⊢
            tauto

theorem firstRepeated?_eq_some_iff {ids : List UserId} {id : UserId} :
    firstRepeated? ids = some id ↔ FirstRepeat ids id := by
  simp [firstRepeated?, repeatedAfter_eq_some_iff, FirstRepeat]

/-! ### Bare lists -/

/-- What a call makes of the list of entries: the first `old` becomes `new`, unless there is no `old` or
there is a `new` already. -/
def rewritten (ids : List UserId) (old new : UserId) : List UserId :=
  match ids.idxOf? old with
  | none => ids
  | some slot => if new ∈ ids then ids else ids.set slot new

theorem length_rewritten (ids : List UserId) (old new : UserId) :
    (rewritten ids old new).length = ids.length := by
  rw [rewritten]
  split
  · rfl
  · split
    · rfl
    · exact List.length_set

/-- **A call keeps distinct entries distinct.** -/
theorem nodup_rewritten {ids : List UserId} (hDistinct : ids.Nodup) (old new : UserId) :
    (rewritten ids old new).Nodup := by
  rw [rewritten]
  split
  · exact hDistinct
  · next slot _ =>
    split
    · exact hDistinct
    · next hNew => exact nodup_set slot hDistinct hNew

structure Replacement where
  id : PullRequestId
  old : UserId
  new : UserId
deriving DecidableEq, Repr, Inhabited

def rewrittenAll (ids : List UserId) (calls : List Replacement) : List UserId :=
  calls.foldl (fun ids call => rewritten ids call.old call.new) ids

theorem length_rewrittenAll (ids : List UserId) (calls : List Replacement) :
    (rewrittenAll ids calls).length = ids.length := by
  induction calls generalizing ids with
  | nil => rfl
  | cons call rest ih => exact (ih (rewritten ids call.old call.new)).trans (length_rewritten ids _ _)

/-- **Any number of calls** keep distinct entries distinct. -/
theorem nodup_rewrittenAll {ids : List UserId} (hDistinct : ids.Nodup) (calls : List Replacement) :
    (rewrittenAll ids calls).Nodup := by
  induction calls generalizing ids with
  | nil => exact hDistinct
  | cons call rest ih => exact ih (nodup_rewritten hDistinct call.old call.new)

namespace Slots

variable {ids : List UserId} {slots next : Slots} {id : PullRequestId} {old new user : UserId}
  {slot : Nat} {cause : Failure}

/-! ### Building -/

theorem ofList_eq_ok_iff : ofList ids = .ok slots ↔ ids.Nodup ∧ slots.reviewers = ids := by
  constructor
  · intro h
    have hIds := reviewers_of_ofList h
    exact ⟨hIds ▸ slots.distinct, hIds⟩
  · rintro ⟨-, rfl⟩
    exact ofList_reviewers slots

theorem ofList_eq_error_iff :
    ofList ids = .error cause ↔ ∃ user, FirstRepeat ids user ∧
      cause = .validation ("reviewer " ++ user ++ " assigned twice") (some "assigned_reviewers") := by
  simp only [← firstRepeated?_eq_some_iff]
  unfold ofList
  split
  · next hNone => simp [hNone]
  · next user hSome => simp [hSome, Failure.assignedTwice, eq_comm]

/-! ### Looking up -/

theorem contains_iff : slots.contains user = true ↔ user ∈ slots.reviewers :=
  List.contains_iff_mem

/-- Who holds a slot has a slot. -/
theorem contains_iff_exists_slotOf? :
    slots.contains user = true ↔ ∃ slot, slots.slotOf? user = some slot := by
  simp only [contains_iff, slotOf?_eq_some_iff, List.mem_iff_getElem?]

theorem slotOf?_eq_none_iff : slots.slotOf? user = none ↔ slots.contains user = false := by
  rw [← Bool.not_eq_true, contains_iff_exists_slotOf?, ← Option.isSome_iff_exists,
    Option.not_isSome_iff_eq_none]

/-- A user is at one place only. -/
theorem getElem?_iff_of_slotOf? (hSlot : slots.slotOf? user = some slot) (place : Nat) :
    slots.reviewers[place]? = some user ↔ place = slot := by
  rw [← slotOf?_eq_some_iff, hSlot, Option.some.injEq, eq_comm]

/-! ### Replacing -/

/-- What a replacement that is accepted does: it writes over the slot of `old`. -/
theorem replace_eq_ok_iff_set :
    slots.replace id old new = .ok (slot, next) ↔
      slots.slotOf? old = some slot ∧ new ∉ slots.reviewers ∧
        next.reviewers = slots.reviewers.set slot new := by
  rw [replace_eq_ok_iff, slotOf?_eq_some_iff]
  refine and_congr_right fun hSlot => and_congr_right fun _ => ?_
  rw [set_eq_map slots.distinct hSlot]

/-- When a replacement is refused, and why: that `old` holds no slot comes first. -/
theorem replace_eq_error_iff :
    slots.replace id old new = .error cause ↔
      slots.contains old = false ∧ cause = .reviewerNotAssigned id old ∨
        slots.contains old = true ∧ slots.contains new = true ∧
          cause = .conflict (new ++ " is already reviewing " ++ id) := by
  rw [replace]
  cases hSlot : slots.slotOf? old with
  | none =>
    have hOld : slots.contains old = false := slotOf?_eq_none_iff.1 hSlot
    simp only [hOld, Except.error.injEq, Bool.false_eq_true, true_and, false_and, or_false]
    exact eq_comm
  | some slot =>
    have hOld : slots.contains old = true := contains_iff_exists_slotOf?.2 ⟨slot, hSlot⟩
    simp only [hOld, contains_iff, Bool.true_eq_false, false_and, true_and, false_or]
    by_cases hNew : new ∈ slots.reviewers
    · simp only [hNew, dite_true, Except.error.injEq, true_and, Failure.alreadyReviewing]
      exact eq_comm
    · simp [hNew]

/-- A replacement is undone by replacing the other way round. -/
theorem replace_undone (h : slots.replace id old new = .ok (slot, next)) (other : PullRequestId) :
    next.replace other new old = .ok (slot, slots) := by
  obtain ⟨hSlot, hNew, hNext⟩ := replace_eq_ok_iff_set.1 h
  obtain ⟨hPlace, hOld⟩ := List.getElem?_eq_some_iff.1 (slotOf?_eq_some_iff.1 hSlot)
  have hBack : slots.reviewers = next.reviewers.set slot old := by
    rw [hNext, List.set_set, ← hOld, List.set_getElem_self]
  refine replace_eq_ok_iff_set.2 ⟨?_, fun hMem => ?_, hBack⟩
  · rw [slotOf?_eq_some_iff, hNext, List.getElem?_set_self hPlace]
  · -- The one place of `old` has been written over, so `old` would have to be `new`.
    obtain ⟨place, hMoved⟩ := List.mem_iff_getElem?.1 hMem
    rw [hNext] at hMoved
    by_cases hSame : place = slot
    · rw [hSame, List.getElem?_set_self hPlace, Option.some.injEq] at hMoved
      exact hNew (hMoved ▸ hOld ▸ List.getElem_mem hPlace)
    · rw [List.getElem?_set_ne (Ne.symm hSame)] at hMoved
      exact hSame ((getElem?_iff_of_slotOf? hSlot place).1 hMoved)

/-! ### Any number of calls -/

/-- The slots after a call; one that is refused leaves them as they are. -/
def after (slots : Slots) (call : Replacement) : Slots :=
  match slots.replace call.id call.old call.new with
  | .ok (_, next) => next
  | .error _ => slots

def afterAll (slots : Slots) (calls : List Replacement) : Slots :=
  calls.foldl after slots

theorem reviewers_after (slots : Slots) (call : Replacement) :
    (slots.after call).reviewers = rewritten slots.reviewers call.old call.new := by
  rw [after, replace, rewritten, ← slotOf?]
  cases slots.slotOf? call.old with
  | none => rfl
  | some slot =>
    by_cases hNew : call.new ∈ slots.reviewers
    · simp only [hNew, dite_true, if_true]
    · simp only [hNew, dite_false, if_false]

/-- **The slots go through the same lists.** -/
theorem reviewers_afterAll (slots : Slots) (calls : List Replacement) :
    (slots.afterAll calls).reviewers = rewrittenAll slots.reviewers calls := by
  induction calls generalizing slots with
  | nil => rfl
  | cons call rest ih =>
    rw [afterAll, List.foldl_cons, ← afterAll, ih, reviewers_after]
    rfl

/-- What is the case after calls, if the slots were built from a list: its entries have been written
over one at a time, so that there are as many of them, all distinct, and each is found at the one place
where it stands. -/
structure KeptFrom (slots : Slots) (ids : List UserId) (calls : List Replacement) : Prop where
  reviewers : slots.reviewers = rewrittenAll ids calls
  size : slots.size = ids.length
  distinct : (rewrittenAll ids calls).Nodup
  contains_iff : ∀ user, slots.contains user = true ↔ ∃ slot, slots.slotOf? user = some slot
  slotOf?_unique : ∀ user slot, slots.slotOf? user = some slot →
    ∀ place, slots.reviewers[place]? = some user ↔ place = slot

/-- What a call comes to.  It is accepted exactly if `old` holds a slot and `new` holds none; then it
answers the slot of `old`, writes over it and over no other, and can be undone.  Otherwise it says why, and
nothing has changed. -/
structure Answers (slots : Slots) (id : PullRequestId) (old new : UserId) : Prop where
  accepted_iff : (∃ slot next, slots.replace id old new = .ok (slot, next)) ↔
    slots.contains old = true ∧ slots.contains new = false
  accepted : ∀ slot next, slots.replace id old new = .ok (slot, next) →
    slots.after ⟨id, old, new⟩ = next ∧ slots.slotOf? old = some slot ∧
      next.slotOf? new = some slot ∧
      (∀ place, place ≠ slot → next.reviewers[place]? = slots.reviewers[place]?) ∧
      ∀ other, next.replace other new old = .ok (slot, slots)
  refused_iff : ∀ cause, slots.replace id old new = .error cause ↔
    slots.contains old = false ∧ cause = .reviewerNotAssigned id old ∨
      slots.contains old = true ∧ slots.contains new = true ∧
        cause = .conflict (new ++ " is already reviewing " ++ id)
  refused : ∀ cause, slots.replace id old new = .error cause → slots.after ⟨id, old, new⟩ = slots

theorem keptFrom_afterAll (h : ofList ids = .ok slots) (calls : List Replacement) :
    (slots.afterAll calls).KeptFrom ids calls := by
  obtain ⟨hDistinct, rfl⟩ := ofList_eq_ok_iff.1 h
  have hReviewers := reviewers_afterAll slots calls
  refine ⟨hReviewers, ?_, nodup_rewrittenAll hDistinct calls, fun user => ?_, fun user slot hSlot => ?_⟩
  · rw [size, hReviewers, length_rewrittenAll]
  · exact contains_iff_exists_slotOf?
  · exact getElem?_iff_of_slotOf? hSlot

theorem answers (slots : Slots) (id : PullRequestId) (old new : UserId) : slots.Answers id old new where
  accepted_iff := by
    rw [contains_iff, ← Bool.not_eq_true, contains_iff]
    constructor
    · rintro ⟨slot, next, hNext⟩
      obtain ⟨hSlot, hNew, -⟩ := replace_eq_ok_iff.1 hNext
      exact ⟨List.mem_of_getElem? hSlot, hNew⟩
    · rintro ⟨hOld, hNew⟩
      exact exists_replace_eq_ok slots id hOld hNew
  accepted slot next hNext := by
    have hBack := replace_undone hNext
    obtain ⟨hSlot, -, hSet⟩ := replace_eq_ok_iff_set.1 hNext
    refine ⟨?_, hSlot, (replace_eq_ok_iff_set.1 (hBack id)).1, fun place hPlace => ?_, hBack⟩
    · rw [after, hNext]
    · rw [hSet, List.getElem?_set_ne (Ne.symm hPlace)]
  refused_iff _ := replace_eq_error_iff
  refused cause hCause := by rw [after, hCause]

/-- **Slots stay slots.**  They are built from the lists without repeats, and hold these in order; of any
other list the first entry that occurs earlier is named.  Whatever calls are made afterwards, with whatever
arguments, there are as many entries as at the start and they are distinct; a user is found at the one place
that the user has; and the next call is accepted or refused for what it is. -/
theorem kept_by_replacements (ids : List UserId) :
    (∀ slots, ofList ids = .ok slots ↔ ids.Nodup ∧ slots.reviewers = ids) ∧
      (∀ cause, ofList ids = .error cause ↔
        ∃ user, FirstRepeat ids user ∧
          cause = .validation ("reviewer " ++ user ++ " assigned twice") (some "assigned_reviewers")) ∧
      ∀ slots, ofList ids = .ok slots → ∀ calls, (slots.afterAll calls).KeptFrom ids calls ∧
        ∀ id old new, (slots.afterAll calls).Answers id old new :=
  ⟨fun _ => ofList_eq_ok_iff, fun _ => ofList_eq_error_iff, fun slots hSlots calls =>
    ⟨keptFrom_afterAll hSlots calls, answers (slots.afterAll calls)⟩⟩

end Slots

end ReviewAssignment
