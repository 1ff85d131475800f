import ReviewAssignment.PullRequest.Slots
import Mathlib.Data.List.Nodup

/-!
# Replacing a reviewer

`Slots.replace` rewrites one entry, and because the entries are distinct this is the same as writing
`new` wherever `old` stands (`set_eq_map`).  That is how the store replaces a reviewer, row by row.
-/

namespace ReviewAssignment.Slots

theorem reviewers_of_ofList {ids : List UserId} {slots : Slots} (h : ofList ids = .ok slots) :
    slots.reviewers = ids := by
  unfold ofList at h
  split at h
  · rw [← Except.ok.inj h]
  · cases h

/-- The slot of a user is the one place where the user stands. -/
theorem slotOf?_eq_some_iff {slots : Slots} {user : UserId} {slot : Nat} :
    slots.slotOf? user = some slot ↔ slots.reviewers[slot]? = some user := by
  rw [slotOf?, List.idxOf?_eq_some_iff, List.getElem?_eq_some_iff]
  constructor
  · rintro ⟨hSlot, hUser, -⟩
    exact ⟨hSlot, hUser⟩
  · rintro ⟨hSlot, hUser⟩
    refine ⟨hSlot, hUser, fun other hOther hSame => ?_⟩
    have hTwice := slots.distinct.getElem_inj_iff.1 (hSame.trans hUser.symm)
    exact absurd hTwice (Nat.ne_of_lt hOther)

/-- **In a list of distinct entries, writing over one place is writing over one entry.** -/
theorem set_eq_map {ids : List UserId} (hDistinct : ids.Nodup) {slot : Nat} {old : UserId}
    (hOld : ids[slot]? = some old) (new : UserId) :
    ids.set slot new = ids.map fun id => if id = old then new else id := by
  obtain ⟨hSlot, hEntry⟩ := List.getElem?_eq_some_iff.1 hOld
  refine List.ext_getElem (by rw [List.length_set, List.length_map]) fun place hPlace _ => ?_
  rw [List.getElem_set, List.getElem_map]
  by_cases hSame : slot = place
  · subst hSame
    rw [if_pos rfl, if_pos hEntry]
  · rw [List.length_set] at hPlace
    have hOther : ids[place] ≠ old := fun hTwice =>
      hSame (hDistinct.getElem_inj_iff.1 (hEntry.trans hTwice.symm))
    rw [if_neg hSame, if_neg hOther]

/-- When a replacement is accepted, and what comes of it. -/
theorem replace_eq_ok_iff {slots next : Slots} {id : PullRequestId} {old new : UserId} {slot : Nat} :
    slots.replace id old new = .ok (slot, next) ↔
      slots.reviewers[slot]? = some old ∧ new ∉ slots.reviewers ∧
        next.reviewers = slots.reviewers.map fun user => if user = old then new else user := by
  rw [replace, ← slotOf?_eq_some_iff]
  cases hSlot : slots.slotOf? old with
  | none => simp
  | some place =>
    have hMap := set_eq_map slots.distinct (slotOf?_eq_some_iff.1 hSlot) new
    by_cases hNew : new ∈ slots.reviewers
    · simp [hNew]
    · simp only [hNew, dite_false, not_false_eq_true, true_and, Except.ok.injEq, Prod.mk.injEq,
        Option.some.injEq, ← hMap]
      constructor
      · rintro ⟨rfl, rfl⟩
        exact ⟨rfl, rfl⟩
      · rintro ⟨rfl, hNext⟩
        exact ⟨rfl, Slots.ext hNext.symm⟩

/-- A replacement is accepted whenever `old` holds a slot and `new` holds none. -/
theorem exists_replace (slots : Slots) {next : Slots} (id : PullRequestId) {old new : UserId}
    (hOld : old ∈ slots.reviewers) (hNew : new ∉ slots.reviewers)
    (hNext : next.reviewers = slots.reviewers.map fun user => if user = old then new else user) :
    ∃ slot, slots.replace id old new = .ok (slot, next) := by
  obtain ⟨slot, hSlot, hEntry⟩ := List.getElem_of_mem hOld
  exact ⟨slot, replace_eq_ok_iff.2 ⟨List.getElem?_eq_some_iff.2 ⟨hSlot, hEntry⟩, hNew, hNext⟩⟩

theorem exists_replace_eq_ok (slots : Slots) (id : PullRequestId) {old new : UserId}
    (hOld : old ∈ slots.reviewers) (hNew : new ∉ slots.reviewers) :
    ∃ slot next, slots.replace id old new = .ok (slot, next) := by
  have hDistinct := nodup_set (slots.reviewers.idxOf old) slots.distinct hNew
  have hNext := set_eq_map slots.distinct (List.getElem?_idxOf hOld) new
  obtain ⟨slot, hSlot⟩ : ∃ slot, slots.replace id old new = .ok (slot, ⟨_, hDistinct⟩) :=
    exists_replace slots id hOld hNew hNext
  exact ⟨slot, _, hSlot⟩

end ReviewAssignment.Slots
