import Mathlib.Algebra.BigOperators.Group.List.Lemmas
import Mathlib.Algebra.GroupWithZero.Nat
import Mathlib.Data.Prod.Lex
import ReviewAssignment.Proofs.ByteOrder
import ReviewAssignment.Proofs.Interleaving.Refusals
import ReviewAssignment.Proofs.Store.Membership

/-!
# The reports and the records

The load of a reviewer, the number of reviewers of a pull request, the list of a reviewer and the record
of a pull request are four readings of the same rows.  `Store.reports_agree` says that in every store
that there can be they count the same: it measures the other three by the records (`Store.stored`).

The bridge are the slots of one user: they belong to different pull requests, because nobody holds two
slots of one, and each of them finds its pull request (`Consistent.nodup_reviewing`,
`Consistent.mem_reviewing_iff`).  So counting the slots of a user is counting records.
-/

namespace ReviewAssignment

/-! ### Lists -/

theorem nodup_eraseDups (ids : List String) : ids.eraseDups.Nodup := by
  induction hLength : ids.length using Nat.strong_induction_on generalizing ids with
  | _ length ih =>
    cases ids with
    | nil => simp
    | cons id rest =>
      rw [List.eraseDups_cons, List.nodup_cons]
      refine ⟨by simp, ih _ ?_ _ rfl⟩
      have hShorter := List.length_filter_le (fun other => !other == id) rest
      rw [List.length_cons] at hLength
      omega

/-- Rows counted key by key are counted once each. -/
theorem sum_length_filter_key {α κ : Type} [DecidableEq κ] {key : α → κ} {keys : List κ}
    (hKeys : keys.Nodup) {rows : List α} (hAll : ∀ row ∈ rows, key row ∈ keys) :
    (keys.map fun k => (rows.filter fun row => key row == k).length).sum = rows.length := by
  induction rows with
  | nil => simp
  | cons first rest ih =>
    rw [List.forall_mem_cons] at hAll
    have hOne : (keys.map fun k => if key first = k then 1 else 0).sum = 1 := by
      rw [List.sum_map_eq_nsmul_single (key first) _ fun k hOther _ => if_neg (Ne.symm hOther),
        List.count_eq_one_of_mem hKeys hAll.1]
      simp
    have hSplit : ∀ k, ((first :: rest).filter fun row => key row == k).length =
        (if key first = k then 1 else 0) + (rest.filter fun row => key row == k).length := by
      intro k
      by_cases hKey : key first = k
      · simp [hKey, Nat.add_comm]
      · simp [hKey]
    simp only [hSplit]
    rw [List.sum_map_add, hOne, ih hAll.2, List.length_cons, Nat.add_comm]

/-- Entries sorted by a key are in the order of their keys. -/
theorem pairwise_mergeSort_key {α κ : Type} [LinearOrder κ] {le : α → α → Bool} {key : α → κ}
    (hKey : ∀ a b, le a b = true ↔ key a ≤ key b) (entries : List α) :
    (entries.mergeSort le).Pairwise fun a b => key a ≤ key b := by
  have hSorted : (entries.mergeSort le).Pairwise fun a b => le a b = true := by
    refine List.pairwise_mergeSort (fun a b c hAB hBC => ?_) (fun a b => ?_) entries
    · rw [hKey] at *
      exact hAB.trans hBC
    · rw [Bool.or_eq_true, hKey, hKey]
      exact le_total _ _
  exact hSorted.imp (hKey _ _).1

/-! ### The order of the report on loads -/

/-- What loads are ordered by: the number, greatest first, and then the identifier. -/
def ReviewerLoad.key (entry : ReviewerLoad) : Natᵒᵈ ×ₗ String :=
  toLex (OrderDual.toDual entry.assignments, entry.reviewer)

theorem ReviewerLoad.listedBefore_iff (a b : ReviewerLoad) :
    a.listedBefore b = true ↔ a.key ≤ b.key := by
  simp [listedBefore, key, Prod.Lex.toLex_le_toLex]

/-- Strictly earlier in the report on loads: busier, or as busy with the smaller identifier, as it is
written in bytes. -/
def ReviewerLoad.Precedes (a b : ReviewerLoad) : Prop :=
  b.assignments < a.assignments ∨
    a.assignments = b.assignments ∧ Text.Utf8.encode a.reviewer < Text.Utf8.encode b.reviewer

theorem ReviewerLoad.precedes_of_key_le {a b : ReviewerLoad} (h : a.key ≤ b.key)
    (hOther : a.reviewer ≠ b.reviewer) : a.Precedes b := by
  rcases Prod.Lex.toLex_le_toLex.1 h with hBusier | ⟨hSame, hLe⟩
  · exact .inl hBusier
  · exact .inr ⟨hSame, Text.Utf8.encode_lt_encode_iff.2 (lt_of_le_of_ne hLe hOther)⟩

namespace Store

variable {store : Store} {user : UserId} {id : PullRequestId}

/-! ### The records -/

/-- The records of all pull requests, each read under its identifier. -/
def stored (store : Store) : List PullRequest :=
  store.pullRequests.filterMap fun row => (store.pullRequest? row.id).toOption.join

theorem Consistent.stored_eq (h : store.Consistent) :
    store.stored = store.pullRequests.map fun row =>
      row.withSlots ⟨store.reviewersOf row.id, h.nodup_reviewersOf row.id⟩ := by
  rw [stored, ← List.filterMap_eq_map]
  refine List.filterMap_congr fun row hRow => ?_
  rw [h.pullRequest?_eq, h.pullRequestRow?_of_mem hRow]
  rfl

theorem Consistent.map_id_stored (h : store.Consistent) :
    store.stored.map PullRequest.id = store.pullRequests.map PullRequestRow.id := by
  rw [h.stored_eq, List.map_map]
  rfl

/-- The records are what is read. -/
theorem Consistent.mem_stored_iff (h : store.Consistent) {pr : PullRequest} :
    pr ∈ store.stored ↔ store.pullRequest? pr.id = .ok (some pr) := by
  rw [h.stored_eq, List.mem_map, h.pullRequest?_eq, Except.ok.injEq, Option.map_eq_some_iff]
  constructor
  · rintro ⟨row, hRow, rfl⟩
    exact ⟨row, h.pullRequestRow?_of_mem hRow, rfl⟩
  · rintro ⟨row, hRow, hRead⟩
    obtain ⟨hMem, hId⟩ := pullRequestRow?_some hRow
    refine ⟨row, hMem, ?_⟩
    rw [← hRead]
    simp only [hId]

theorem Consistent.id_of_pullRequest? (h : store.Consistent) {pr : PullRequest}
    (hRead : store.pullRequest? id = .ok (some pr)) : pr.id = id :=
  (pullRequestRow?_some (h.pullRequest?_eq_some_iff.1 hRead).1).2

theorem Consistent.pullRequest?_eq_some_iff_mem (h : store.Consistent) {pr : PullRequest} :
    store.pullRequest? id = .ok (some pr) ↔ pr ∈ store.stored ∧ pr.id = id := by
  rw [h.mem_stored_iff]
  constructor
  · intro hRead
    have hId := h.id_of_pullRequest? hRead
    exact ⟨hId ▸ hRead, hId⟩
  · rintro ⟨hRead, rfl⟩
    exact hRead

/-! ### The slots of a user -/

/-- The identifiers of the pull requests in which a user holds a slot, slot by slot. -/
def reviewing (store : Store) (user : UserId) : List PullRequestId :=
  (store.slots.filter fun row => row.reviewer == user).map SlotRow.pullRequest

theorem length_reviewing : (store.reviewing user).length = store.load user := by
  rw [reviewing, List.length_map, load]

/-- **No two slots of a user belong to one pull request.** -/
theorem Consistent.nodup_reviewing (h : store.Consistent) (user : UserId) :
    (store.reviewing user).Nodup := by
  rw [List.nodup_iff_count_le_one]
  intro id
  calc (store.reviewing user).count id
      = ((store.slotsOf id).map SlotRow.reviewer).count user := by
        rw [reviewing, slotsOf, List.count_eq_countP, List.count_eq_countP, List.countP_map,
          List.countP_map, List.countP_filter, List.countP_filter]
        refine List.countP_congr fun row _ => ?_
        simp [and_comm]
    _ ≤ 1 := List.nodup_iff_count_le_one.1 (h.reviewers id) user

theorem Consistent.mem_reviewing_iff (h : store.Consistent) :
    id ∈ store.reviewing user ↔
      ∃ pr ∈ store.stored, pr.id = id ∧ user ∈ pr.reviewers.reviewers := by
  have hSlots : id ∈ store.reviewing user ↔ user ∈ store.reviewersOf id := by
    rw [h.reviewersOf_eq]
    simp only [reviewing, slotsOf, List.mem_map, List.mem_filter, beq_iff_eq]
    grind
  rw [hSlots]
  constructor
  · intro hUser
    have hId : id ∈ store.pullRequests.map PullRequestRow.id := by
      by_contra hMissing
      rw [h.reviewersOf_eq, h.slotsOf_eq_nil hMissing] at hUser
      cases hUser
    obtain ⟨row, hRow, rfl⟩ := List.mem_map.1 hId
    rw [h.stored_eq]
    exact ⟨_, List.mem_map_of_mem hRow, rfl, hUser⟩
  · rintro ⟨pr, hStored, rfl, hUser⟩
    rw [← (h.pullRequest?_eq_some_iff.1 (h.mem_stored_iff.1 hStored)).2]
    exact hUser

/-- The load of a user is the number of records that show the user. -/
theorem Consistent.load_eq (h : store.Consistent) (user : UserId) :
    store.load user = store.stored.countP fun pr => pr.reviewers.contains user := by
  have hShown : ((store.stored.filter fun pr => pr.reviewers.contains user).map
      PullRequest.id).Nodup := by
    refine List.Nodup.sublist (List.filter_sublist.map _) ?_
    rw [h.map_id_stored]
    exact h.pullRequestIds
  have hPerm : (store.reviewing user).Perm
      ((store.stored.filter fun pr => pr.reviewers.contains user).map PullRequest.id) := by
    rw [List.perm_ext_iff_of_nodup (h.nodup_reviewing user) hShown]
    intro id
    rw [h.mem_reviewing_iff]
    simp only [List.mem_map, List.mem_filter, Slots.contains, List.contains_iff_mem]
    grind
  rw [← length_reviewing, hPerm.length_eq, List.length_map, List.countP_eq_length_filter]

/-! ### The list of a reviewer -/

theorem Consistent.exists_row (h : store.Consistent) {slot : SlotRow} (hSlot : slot ∈ store.slots) :
    ∃ row, store.pullRequestRow? slot.pullRequest = some row := by
  obtain ⟨row, hRow, hId⟩ := List.mem_map.1 (h.slots slot hSlot).1
  exact ⟨row, hId ▸ h.pullRequestRow?_of_mem hRow⟩

/-- The list of a user names the pull requests in which the user holds a slot. -/
theorem Consistent.map_id_reviewsOf (h : store.Consistent) (user : UserId) :
    ((store.reviewsOf user).map PullRequest.Summary.id).Perm (store.reviewing user) := by
  rw [reviewsOf, List.map_map]
  refine ((List.mergeSort_perm _ _).map _).trans (.of_eq ?_)
  rw [List.map_filterMap, reviewing, ← List.filterMap_eq_map]
  refine List.filterMap_congr fun slot hSlot => ?_
  obtain ⟨row, hRow⟩ := h.exists_row (List.mem_of_mem_filter hSlot)
  have hId : row.id = slot.pullRequest := (pullRequestRow?_some hRow).2
  rw [hRow, Option.map_some, Function.comp_apply, Function.comp_apply, ← hId]
  rfl

theorem Consistent.length_reviewsOf (h : store.Consistent) (user : UserId) :
    (store.reviewsOf user).length = store.load user := by
  rw [← length_reviewing, ← (h.map_id_reviewsOf user).length_eq, List.length_map]

/-! ### The two reports -/

theorem mem_reviewerLoads_iff {entry : ReviewerLoad} :
    entry ∈ store.reviewerLoads ↔
      entry.reviewer ∈ store.slots.map SlotRow.reviewer ∧
        entry.assignments = store.load entry.reviewer := by
  rw [reviewerLoads, List.mem_mergeSort, List.mem_map]
  simp only [List.mem_eraseDups]
  constructor
  · rintro ⟨reviewer, hReviewer, rfl⟩
    exact ⟨hReviewer, rfl⟩
  · rintro ⟨hReviewer, hLoad⟩
    exact ⟨entry.reviewer, hReviewer, by rw [← hLoad]⟩

/-- The reviewers in the report are the reviewers of the slots, each once. -/
theorem map_reviewer_reviewerLoads :
    (store.reviewerLoads.map ReviewerLoad.reviewer).Perm (store.slots.map SlotRow.reviewer).eraseDups := by
  refine ((List.mergeSort_perm _ _).map _).trans (.of_eq ?_)
  rw [List.map_map]
  exact List.map_id' _

theorem nodup_reviewerLoads : (store.reviewerLoads.map ReviewerLoad.reviewer).Nodup :=
  map_reviewer_reviewerLoads.nodup_iff.2 (nodup_eraseDups _)

theorem pairwise_reviewerLoads : store.reviewerLoads.Pairwise ReviewerLoad.Precedes :=
  List.Pairwise.imp₂ (fun _ _ => ReviewerLoad.precedes_of_key_le)
    (pairwise_mergeSort_key ReviewerLoad.listedBefore_iff _)
    (List.pairwise_map.1 nodup_reviewerLoads)

theorem Consistent.mem_reviewer_iff (h : store.Consistent) :
    user ∈ store.slots.map SlotRow.reviewer ↔
      ∃ pr ∈ store.stored, user ∈ pr.reviewers.reviewers := by
  constructor
  · intro hUser
    obtain ⟨slot, hSlot, rfl⟩ := List.mem_map.1 hUser
    have hReviewing : slot.pullRequest ∈ store.reviewing slot.reviewer :=
      List.mem_map_of_mem (List.mem_filter.2 ⟨hSlot, beq_self_eq_true _⟩)
    obtain ⟨pr, hStored, -, hShown⟩ := h.mem_reviewing_iff.1 hReviewing
    exact ⟨pr, hStored, hShown⟩
  · rintro ⟨pr, hStored, hShown⟩
    obtain ⟨slot, hSlot, -⟩ := List.mem_map.1 (h.mem_reviewing_iff.2 ⟨pr, hStored, rfl, hShown⟩)
    obtain ⟨hSlot, hReviewer⟩ := List.mem_filter.1 hSlot
    exact List.mem_map.2 ⟨slot, hSlot, beq_iff_eq.1 hReviewer⟩

theorem Consistent.mem_reviewerCounts_iff (h : store.Consistent) {count : Nat} :
    ⟨id, count⟩ ∈ store.reviewerCounts ↔
      ∃ pr ∈ store.stored, pr.id = id ∧ pr.reviewers.size = count := by
  have hSize : ∀ row : PullRequestRow,
      (store.slots.filter fun slot => slot.pullRequest == row.id).length =
        (store.reviewersOf row.id).length :=
    fun row => (h.length_reviewersOf row.id).symm
  rw [reviewerCounts, h.stored_eq]
  simp only [List.mem_map, List.mem_mergeSort, hSize, ReviewerCount.mk.injEq]
  constructor
  · rintro ⟨row, hRow, hId, hCount⟩
    exact ⟨_, ⟨row, hRow, rfl⟩, hId, hCount⟩
  · rintro ⟨-, ⟨row, hRow, rfl⟩, hId, hCount⟩
    exact ⟨row, hRow, hId, hCount⟩

theorem map_id_reviewerCounts :
    (store.reviewerCounts.map ReviewerCount.id).Perm (store.pullRequests.map PullRequestRow.id) := by
  rw [reviewerCounts, List.map_map]
  exact (List.mergeSort_perm _ _).map _

theorem Consistent.pairwise_reviewerCounts (h : store.Consistent) :
    store.reviewerCounts.Pairwise fun a b =>
      Text.Utf8.encode a.id < Text.Utf8.encode b.id := by
  have hSorted : store.reviewerCounts.Pairwise fun a b => a.id ≤ b.id :=
    List.pairwise_map.2 (pairwise_mergeSort_key (fun _ _ => decide_eq_true_iff) store.pullRequests)
  have hDistinct : (store.reviewerCounts.map ReviewerCount.id).Nodup :=
    map_id_reviewerCounts.nodup_iff.2 h.pullRequestIds
  exact List.Pairwise.imp₂
    (fun a b hLe hOther => Text.Utf8.encode_lt_encode_iff.2 (lt_of_le_of_ne hLe hOther))
    hSorted (List.pairwise_map.1 hDistinct)

/-! ### The sums -/

theorem sum_reviewerLoads :
    (store.reviewerLoads.map ReviewerLoad.assignments).sum = store.slots.length := by
  have hLoads : store.reviewerLoads.map ReviewerLoad.assignments =
      (store.reviewerLoads.map ReviewerLoad.reviewer).map store.load := by
    rw [List.map_map]
    exact List.map_congr_left fun entry hEntry => (mem_reviewerLoads_iff.1 hEntry).2
  rw [hLoads]
  refine sum_length_filter_key nodup_reviewerLoads fun slot hSlot => ?_
  rw [map_reviewer_reviewerLoads.mem_iff, List.mem_eraseDups]
  exact List.mem_map_of_mem hSlot

theorem Consistent.sum_reviewerCounts (h : store.Consistent) :
    (store.reviewerCounts.map ReviewerCount.reviewers).sum = store.slots.length := by
  have hCounts : (store.reviewerCounts.map ReviewerCount.reviewers).Perm
      ((store.pullRequests.map PullRequestRow.id).map fun id =>
        (store.slots.filter fun slot => slot.pullRequest == id).length) := by
    rw [reviewerCounts, List.map_map, List.map_map]
    exact (List.mergeSort_perm _ _).map _
  rw [hCounts.sum_eq]
  exact sum_length_filter_key h.pullRequestIds fun slot hSlot => (h.slots slot hSlot).1

/-! ### All readings together -/

/-- How two reports agree with the records of a store (`Store.stored`).

* There is one record for each row of a pull request, no two have the same identifier, and the record
  under an identifier is what is read there.
* The load of a user is the number of records, open or merged, that show the user as a reviewer, and this
  is also the length of the list of the user, whether the report lists the user or not.
* The report on loads lists exactly the users who are among the reviewers of some record, each once,
  strictly ordered by load and then by the bytes of the identifier.
* The report on pull requests lists exactly the records, strictly ordered by the bytes of the identifier,
  each with the number of its reviewers.
* Both reports come to the same sum. -/
structure ReportsAgree (store : Store) (loads : List ReviewerLoad) (counts : List ReviewerCount) :
    Prop where
  rows : store.stored.map PullRequest.id = store.pullRequests.map PullRequestRow.id
  distinct : (store.stored.map PullRequest.id).Nodup
  read : ∀ id pr, store.pullRequest? id = .ok (some pr) ↔ pr ∈ store.stored ∧ pr.id = id
  lists : ∀ user, (store.reviewsOf user).length =
    store.stored.countP fun pr => pr.reviewers.contains user
  loadedOnce : (loads.map ReviewerLoad.reviewer).Nodup
  loadsOrdered : loads.Pairwise ReviewerLoad.Precedes
  loaded_iff : ∀ user, user ∈ loads.map ReviewerLoad.reviewer ↔
    ∃ pr ∈ store.stored, user ∈ pr.reviewers.reviewers
  loadOf : ∀ entry ∈ loads, entry.assignments =
    store.stored.countP fun pr => pr.reviewers.contains entry.reviewer
  countsOrdered : counts.Pairwise fun a b => Text.Utf8.encode a.id < Text.Utf8.encode b.id
  counted_iff : ∀ id count, ⟨id, count⟩ ∈ counts ↔
    ∃ pr ∈ store.stored, pr.id = id ∧ pr.reviewers.size = count
  sums : (loads.map ReviewerLoad.assignments).sum = (counts.map ReviewerCount.reviewers).sum

/-- **The reports agree with the records** in every store that there can be. -/
theorem reports_agree {store : Store} (hReachable : store.Reachable) (settings : Settings)
    (outside : Program.Surroundings) (draws readings : Nat) :
    let answer := fun (request : Request) =>
      ((request.program settings).run outside ⟨store, draws, readings⟩).1
    ∃ loads counts, answer .reviewerLoads = .ok (.loads loads) ∧
      answer .reviewerCounts = .ok (.counts counts) ∧ store.ReportsAgree loads counts := by
  intro answer
  have h := hReachable.consistent
  refine ⟨store.reviewerLoads, store.reviewerCounts, rfl, rfl, h.map_id_stored, ?_,
    fun id pr => h.pullRequest?_eq_some_iff_mem, fun user => ?_, nodup_reviewerLoads,
    pairwise_reviewerLoads, fun user => ?_, fun entry hEntry => ?_, h.pairwise_reviewerCounts,
    fun id count => h.mem_reviewerCounts_iff, ?_⟩
  · rw [h.map_id_stored]
    exact h.pullRequestIds
  · rw [h.length_reviewsOf, h.load_eq]
  · rw [map_reviewer_reviewerLoads.mem_iff, List.mem_eraseDups, h.mem_reviewer_iff]
  · rw [(mem_reviewerLoads_iff.1 hEntry).2, h.load_eq]
  · rw [sum_reviewerLoads, h.sum_reviewerCounts]

/-- Two pull requests, one of them without reviewers, and a slot that changed hands: whoever has left the
slot is in no report, and the numbers of reviewers come to the one load that is left. -/
theorem reports_agree_after_swap :
    let team : Team := ⟨"backend", [⟨"a", "", true⟩, ⟨"b", "", true⟩, ⟨"c", "", true⟩]⟩
    let moment : Time.Instant := ⟨0, 0⟩
    let store := (((((Store.empty.perform (.upsertTeam team)).2).perform (.insertPullRequest
      ⟨"p2", "", "a", .opened, ⟨["b"], by decide⟩, moment, none⟩)).2.perform (.insertPullRequest
      ⟨"p1", "", "a", .opened, ⟨[], by decide⟩, moment, none⟩)).2.perform
      (.replaceReviewer "p2" "b" "c")).2
    store.reviewerLoads = [⟨"c", 1⟩] ∧
      (store.reviewsOf "b").length = store.stored.countP (fun pr => pr.reviewers.contains "b") ∧
      (store.reviewerCounts.map ReviewerCount.reviewers).sum = 1 := by
  intro team moment store
  have hReachable : store.Reachable := .call _ (.call _ (.call _ (.call _ .empty)))
  have hLoads : store.reviewerLoads = [⟨"c", 1⟩] := by decide +kernel
  clear_value store
  obtain ⟨loads, counts, hLoadsAnswer, hCountsAnswer, hAgree⟩ :=
    reports_agree hReachable default ⟨fun _ => 0, fun _ => moment⟩ 0 0
  cases hLoadsAnswer
  cases hCountsAnswer
  refine ⟨hLoads, hAgree.lists "b", hAgree.sums.symm.trans ?_⟩
  show (store.reviewerLoads.map ReviewerLoad.assignments).sum = 1
  rw [hLoads]
  rfl

end Store

end ReviewAssignment
