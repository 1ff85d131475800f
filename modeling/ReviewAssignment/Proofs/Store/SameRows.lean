import ReviewAssignment.Proofs.Store.About
import ReviewAssignment.Proofs.Store.Reports

/-!
# Stores with the same rows

A table is a set of rows; that a list has an order is the model's.  Two stores have the same rows if their
parts about each pull request are the same (`Store.SameRows`).  Then each table of the one is a
rearrangement of the same table of the other, and no call can tell the two apart, now or later
(`SameRows.perform`): every list that is given to somebody is sorted by something that is different
for different rows.
-/

namespace ReviewAssignment

/-- Lists of the same entries are sorted alike by a key that tells the entries apart. -/
theorem mergeSort_key_eq_of_perm {α κ : Type} [LinearOrder κ] {le : α → α → Bool} {key : α → κ}
    (hKey : ∀ a b, le a b = true ↔ key a ≤ key b) {entries others : List α}
    (hPerm : entries.Perm others) (hApart : ∀ a ∈ entries, ∀ b ∈ entries, key a = key b → a = b) :
    entries.mergeSort le = others.mergeSort le := by
  have hSorted : (entries.mergeSort le).Perm (others.mergeSort le) :=
    ((List.mergeSort_perm _ _).trans hPerm).trans (List.mergeSort_perm _ _).symm
  refine hSorted.eq_of_pairwise (fun a b hA hB hLe hGe => ?_) (pairwise_mergeSort_key hKey _)
    (pairwise_mergeSort_key hKey _)
  refine hApart a (List.mem_mergeSort.1 hA) b ?_ (le_antisymm hLe hGe)
  exact hPerm.mem_iff.2 (List.mem_mergeSort.1 hB)

/-- Lists that are rearranged group by group are rearranged. -/
theorem perm_of_filter_key {α κ : Type} [DecidableEq α] [DecidableEq κ] {key : α → κ}
    {rows others : List α}
    (h : ∀ k, (rows.filter fun row => key row == k) = others.filter fun row => key row == k) :
    rows.Perm others := by
  rw [List.perm_iff_count]
  intro row
  have hCount : ∀ list : List α,
      (list.filter fun other => key other == key row).count row = list.count row :=
    fun list => List.count_filter (beq_self_eq_true (key row))
  rw [← hCount rows, h, hCount]

/-- What the list of a reviewer is ordered by: the moment of creation as it is stored, latest first, and
then the identifier. -/
def PullRequestRow.key (row : PullRequestRow) : Stringᵒᵈ ×ₗ String :=
  toLex (OrderDual.toDual row.createdAt.stored, row.id)

theorem PullRequestRow.listedBefore_iff (a b : PullRequestRow) :
    a.listedBefore b = true ↔ a.key ≤ b.key := by
  simp [listedBefore, key, Prod.Lex.toLex_le_toLex]

namespace Store

variable {store other : Store} {id : PullRequestId}

/-- **Two stores have the same rows**, in whatever order rows of different pull requests stand. -/
def SameRows (store other : Store) : Prop :=
  ∀ id, store.about id = other.about id

namespace SameRows

theorem users (h : store.SameRows other) : store.users = other.users :=
  (congrArg Store.users (h "") :)

theorem teams (h : store.SameRows other) : store.teams = other.teams :=
  (congrArg Store.teams (h "") :)

theorem memberships (h : store.SameRows other) : store.memberships = other.memberships :=
  (congrArg Store.memberships (h "") :)

theorem pullRequests (h : store.SameRows other) : store.pullRequests.Perm other.pullRequests :=
  perm_of_filter_key fun id => congrArg Store.pullRequests (h id)

theorem slots (h : store.SameRows other) : store.slots.Perm other.slots :=
  perm_of_filter_key fun id => congrArg Store.slots (h id)

theorem pullRequestRow? (h : store.SameRows other) (id : PullRequestId) :
    store.pullRequestRow? id = other.pullRequestRow? id := by
  rw [← pullRequestRow?_about, h id, pullRequestRow?_about]

/-! ### Reports -/

theorem reviewsOf (h : store.SameRows other) (hStore : store.Consistent) (user : UserId) :
    store.reviewsOf user = other.reviewsOf user := by
  have hRows : other.pullRequestRow? = store.pullRequestRow? :=
    funext fun id => (h.pullRequestRow? id).symm
  rw [Store.reviewsOf, Store.reviewsOf, hRows]
  refine congrArg _ (mergeSort_key_eq_of_perm PullRequestRow.listedBefore_iff
    ((h.slots.filter _).filterMap _) fun a hA b hB hKey => ?_)
  -- A row that a slot finds is the row of its identifier, and the key holds the identifier.
  have hFound : ∀ row ∈ (store.slots.filter fun row => row.reviewer == user).filterMap fun slot =>
      store.pullRequestRow? slot.pullRequest, store.pullRequestRow? row.id = some row := by
    intro row hRow
    obtain ⟨slot, -, hSlot⟩ := List.mem_filterMap.1 hRow
    exact hStore.pullRequestRow?_of_mem (pullRequestRow?_some hSlot).1
  have hId : a.id = b.id := congrArg (fun key => (ofLex key).2) hKey
  exact Option.some.inj ((hFound a hA).symm.trans (hId ▸ hFound b hB))

theorem reviewerLoads (h : store.SameRows other) : store.reviewerLoads = other.reviewerLoads := by
  have hLoad : other.load = store.load :=
    funext fun user => ((h.slots.filter _).length_eq).symm
  have hReviewers : (store.slots.map SlotRow.reviewer).eraseDups.Perm
      (other.slots.map SlotRow.reviewer).eraseDups := by
    rw [List.perm_ext_iff_of_nodup (nodup_eraseDups _) (nodup_eraseDups _)]
    intro user
    rw [List.mem_eraseDups, List.mem_eraseDups, (h.slots.map _).mem_iff]
  rw [Store.reviewerLoads, Store.reviewerLoads, hLoad]
  refine mergeSort_key_eq_of_perm ReviewerLoad.listedBefore_iff (hReviewers.map _)
    fun a hA b hB hKey => ?_
  obtain ⟨first, -, rfl⟩ := List.mem_map.1 hA
  obtain ⟨second, -, rfl⟩ := List.mem_map.1 hB
  have hSame : first = second := congrArg (fun key => (ofLex key).2) hKey
  rw [hSame]

theorem reviewerCounts (h : store.SameRows other) (hStore : store.Consistent) :
    store.reviewerCounts = other.reviewerCounts := by
  have hRows : (store.pullRequests.mergeSort fun a b => a.id ≤ b.id) =
      other.pullRequests.mergeSort fun a b => a.id ≤ b.id := by
    have hKey : ∀ a b : PullRequestRow, decide (a.id ≤ b.id) = true ↔ a.id ≤ b.id :=
      fun _ _ => decide_eq_true_iff
    refine mergeSort_key_eq_of_perm hKey h.pullRequests fun a hA b hB hId => ?_
    have hB' := hStore.pullRequestRow?_of_mem hB
    exact Option.some.inj ((hStore.pullRequestRow?_of_mem hA).symm.trans (hId ▸ hB'))
  rw [Store.reviewerCounts, Store.reviewerCounts, hRows]
  refine List.map_congr_left fun row _ => ?_
  rw [(h.slots.filter _).length_eq]

end SameRows

/-! ### All calls -/

/-- A report asks about all pull requests.  Any other call can do with the part about some pull request,
and each other part either will do as well or is left alone. -/
theorem Call.sees_cases (call : Call) :
    ((∃ user, call = .reviewsOf user) ∨ call = .reviewerLoads ∨ call = .reviewerCounts) ∨
      ∃ id, call.Sees id ∧ ∀ other, call.Sees other ∨ ¬call.WritesRoster ∧ other ≠ id := by
  have hNamed : ∀ (id : PullRequestId) {call : Call}, (∀ other, call.Sees other ↔ id = other) →
      ¬call.WritesRoster →
      ∃ id, call.Sees id ∧ ∀ other, call.Sees other ∨ ¬call.WritesRoster ∧ other ≠ id := by
    intro id call hSees hRoster
    refine ⟨id, (hSees id).2 rfl, fun other => ?_⟩
    by_cases hOther : id = other
    · exact .inl ((hSees other).2 hOther)
    · exact .inr ⟨hRoster, Ne.symm hOther⟩
  cases call with
  | reviewsOf user => exact .inl (.inl ⟨user, rfl⟩)
  | reviewerLoads => exact .inl (.inr (.inl rfl))
  | reviewerCounts => exact .inl (.inr (.inr rfl))
  | pullRequestRow id => exact .inr (hNamed id (fun _ => Iff.rfl) not_false)
  | reviewersOf id => exact .inr (hNamed id (fun _ => Iff.rfl) not_false)
  | insertPullRequest pr => exact .inr (hNamed pr.id (fun _ => Iff.rfl) not_false)
  | transition id => exact .inr (hNamed id (fun _ => Iff.rfl) not_false)
  | replaceReviewer id => exact .inr (hNamed id (fun _ => Iff.rfl) not_false)
  | _ => exact .inr ⟨"", trivial, fun _ => .inl trivial⟩

/-- **No call can tell stores with the same rows apart**, and it leaves stores with the same rows. -/
theorem SameRows.perform (h : store.SameRows other) (hStore : store.Consistent) (call : Call) :
    (store.perform call).1 = (other.perform call).1 ∧
      (store.perform call).2.SameRows (other.perform call).2 := by
  rcases call.sees_cases with (⟨user, rfl⟩ | rfl | rfl) | ⟨id, hSees, hParts⟩
  · exact ⟨h.reviewsOf hStore user, h⟩
  · exact ⟨h.reviewerLoads, h⟩
  · exact ⟨h.reviewerCounts hStore, h⟩
  · have hPart : ∀ part, call.Sees part →
        ((store.perform call).1, (store.perform call).2.about part) =
          ((other.perform call).1, (other.perform call).2.about part) := by
      intro part hPart
      rw [← perform_about _ hPart, h part, perform_about _ hPart]
    refine ⟨(Prod.mk.inj (hPart id hSees)).1, fun part => ?_⟩
    rcases hParts part with hSeesPart | ⟨hRoster, hOther⟩
    · exact (Prod.mk.inj (hPart part hSeesPart)).2
    · rw [about_perform_of_ne hSees hRoster hOther, about_perform_of_ne hSees hRoster hOther, h part]

end Store

end ReviewAssignment
