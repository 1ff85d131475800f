import ReviewAssignment.Proofs.Alone
import ReviewAssignment.Proofs.Interleaving.Refusals
import ReviewAssignment.Proofs.Store.RefusedWrites

/-!
# What is inserted is what is read

A pull request is taken apart when it is inserted: into a row, and one slot for each reviewer.  When it is
read, the slots are sorted by their numbers, checked for repeated reviewers and put to the row again.
`Store.insert_then_read` says that nothing is lost on the way, whatever the pull request is, and that an
insertion that is refused is refused for one of two reasons, which come in this order: the identifier is
taken, or a user is missing.
-/

namespace ReviewAssignment.Store

variable {store : Store} {pr : PullRequest} {id : PullRequestId} {user : UserId}

theorem Consistent.exists_pullRequest?_iff (h : store.Consistent) :
    (∃ pr, store.pullRequest? id = .ok (some pr)) ↔
      id ∈ store.pullRequests.map PullRequestRow.id := by
  simp only [h.pullRequest?_eq, Except.ok.injEq, Option.map_eq_some_iff]
  constructor
  · rintro ⟨-, row, hRow, -⟩
    obtain ⟨hMem, rfl⟩ := pullRequestRow?_some hRow
    exact List.mem_map_of_mem hMem
  · intro hTaken
    obtain ⟨row, hMem, rfl⟩ := List.mem_map.1 hTaken
    exact ⟨_, row, h.pullRequestRow?_of_mem hMem, rfl⟩

/-- An identifier that is read without a result is free. -/
theorem Consistent.pullRequest?_eq_none_iff (h : store.Consistent) :
    store.pullRequest? id = .ok none ↔ id ∉ store.pullRequests.map PullRequestRow.id := by
  rw [h.pullRequest?_eq, Except.ok.injEq, Option.map_eq_none_iff, pullRequestRow?_eq_none_iff]

theorem pullRequest?_withPullRequest_of_ne (hOther : pr.id ≠ id) :
    (store.withPullRequest pr).pullRequest? id = store.pullRequest? id := by
  rw [pullRequest?, pullRequest?, pullRequestRow?_withPullRequest, if_neg hOther, Option.or_none,
    reviewersOf_withPullRequest_of_ne store hOther]

/-- Whoever is missing keeps the pull request from being one of users. -/
theorem not_hasUsersOf (hUser : user = pr.author ∨ user ∈ pr.reviewers.reviewers)
    (hMissing : store.hasUser user = false) : ¬store.HasUsersOf pr := by
  intro hUsers
  rw [Bool.eq_false_iff] at hMissing
  rcases hUser with rfl | hReviewer
  · exact hMissing hUsers.author
  · exact hMissing (hUsers.reviewers user hReviewer)

/-- **What is inserted is what is read.**  In every store that there can be, every identifier is taken or
free, and any pull request at all is inserted:

* if its identifier is taken, the answer says so, even if the author or a reviewer is missing, and the store
  stays as it was;
* if it is free, and the author or a reviewer, at whatever place, is no user, the answer is that a reference
  is missing, and the store stays as it was;
* otherwise the pull request is inserted.  It is read as it came, by whoever reads it, and all other pull
  requests, all users and all teams are as before. -/
theorem insert_then_read (hReachable : store.Reachable) (pr : PullRequest) :
    let answer := (store.perform (.insertPullRequest pr)).1
    let left := (store.perform (.insertPullRequest pr)).2
    ((∃ taken, store.pullRequest? pr.id = .ok (some taken)) ∨ store.pullRequest? pr.id = .ok none) ∧
    (∀ taken, store.pullRequest? pr.id = .ok (some taken) →
      answer = .error (.alreadyExists pr.id) ∧ left = store) ∧
    (∀ user, store.pullRequest? pr.id = .ok none →
      (user = pr.author ∨ user ∈ pr.reviewers.reviewers) → store.hasUser user = false →
      answer = .error (.database
          "error returned from database: (code: 787) FOREIGN KEY constraint failed") ∧
        left = store) ∧
    (store.pullRequest? pr.id = .ok none →
      (∀ user, user = pr.author ∨ user ∈ pr.reviewers.reviewers → store.hasUser user = true) →
      answer = .ok () ∧
      left.pullRequest? pr.id = .ok (some pr) ∧
      (∀ outside draws readings,
        ((Operation.readPullRequest pr.id).run outside ⟨left, draws, readings⟩).1 = .ok (some pr)) ∧
      (∀ id, id ≠ pr.id → left.pullRequest? id = store.pullRequest? id) ∧
      left.users = store.users ∧ left.teams = store.teams ∧ left.lastTeam = store.lastTeam ∧
      left.memberships = store.memberships) := by
  intro answer left
  have h := hReachable.consistent
  refine ⟨?_, fun taken hTaken => ?_, fun user hFree hUser hMissing => ?_, fun hFree hUsers => ?_⟩
  · rw [h.exists_pullRequest?_iff, h.pullRequest?_eq_none_iff]
    exact Classical.em _
  · simp only [answer, left]
    rw [perform, insertPullRequest_of_mem (h.exists_pullRequest?_iff.1 ⟨taken, hTaken⟩)]
    exact ⟨rfl, rfl⟩
  · have hRefused := (h.insertPullRequest_of_notMem (h.pullRequest?_eq_none_iff.1 hFree)).2
      (not_hasUsersOf hUser hMissing)
    simp only [answer, left]
    rw [perform, hRefused]
    exact ⟨rfl, rfl⟩
  · have hFresh := h.pullRequest?_eq_none_iff.1 hFree
    have hUsersOf : store.HasUsersOf pr :=
      ⟨hUsers pr.author (.inl rfl), fun reviewer hReviewer => hUsers reviewer (.inr hReviewer)⟩
    obtain ⟨hWritten, hStored⟩ :=
      h.insertPullRequest_of_free hUsersOf (pullRequestRow?_eq_none_iff.2 hFresh)
    have hPerformed : store.perform (.insertPullRequest pr) = (.ok (), store.withPullRequest pr) := by
      rw [perform, hWritten]
      rfl
    have hLeft : left = store.withPullRequest pr := congrArg Prod.snd hPerformed
    have hRead : left.pullRequest? pr.id = .ok (some pr) := by
      rw [hLeft]
      exact hStored
    refine ⟨congrArg Prod.fst hPerformed, hRead, fun outside draws readings => ?_, fun id hOther => ?_,
      ?_⟩
    · rw [← hRead]
      exact (Program.run_of_reached (Operation.reached_readPullRequest pr.id)).1
    · rw [hLeft]
      exact pullRequest?_withPullRequest_of_ne (Ne.symm hOther)
    · rw [hLeft]
      exact ⟨rfl, rfl, rfl, rfl⟩

/-- A merged pull request without a name and without a moment of its merge, under an identifier that is not
printable, comes back with its reviewers in their order.  Its identifier is taken then, whoever asks for it,
and another one cannot be inserted for somebody unknown in the second slot. -/
theorem insert_then_read_of_unprintable :
    let team : Team := ⟨"t", [⟨"a", "Ann", true⟩, ⟨"b", "Bob", true⟩, ⟨"c", "Cy", true⟩]⟩
    let store := (Store.empty.perform (.upsertTeam team)).2
    let pr : PullRequest :=
      ⟨"\x00", "", "a", .merged, ⟨["c", "b"], by decide⟩, ⟨-1, 999999999⟩, none⟩
    let left := (store.perform (.insertPullRequest pr)).2
    left.pullRequest? "\x00" = .ok (some pr) ∧
      (left.perform (.insertPullRequest { pr with author := "z" })).1 =
        .error (.alreadyExists "\x00") ∧
      (left.perform (.insertPullRequest { pr with id := "", reviewers := ⟨["b", "z"], by decide⟩ })).1 =
        .error (.database
          "error returned from database: (code: 787) FOREIGN KEY constraint failed") := by
  intro team store pr left
  have hReachable : store.Reachable := .call _ .empty
  have hLeftReachable : left.Reachable := .call _ hReachable
  have hUsers : ∀ user, user = pr.author ∨ user ∈ pr.reviewers.reviewers →
      store.hasUser user = true := by
    intro user hUser
    simp only [pr, List.mem_cons, List.not_mem_nil, or_false] at hUser
    rcases hUser with rfl | rfl | rfl <;> decide +kernel
  obtain ⟨-, -, -, hInserted⟩ := insert_then_read hReachable pr
  obtain ⟨-, hRead, -⟩ := hInserted rfl hUsers
  obtain ⟨-, hTaken, -, -⟩ := insert_then_read hLeftReachable { pr with author := "z" }
  obtain ⟨-, -, hMissing, -⟩ :=
    insert_then_read hLeftReachable { pr with id := "", reviewers := ⟨["b", "z"], by decide⟩ }
  exact ⟨hRead, (hTaken pr hRead).1,
    (hMissing "z" (by decide +kernel) (.inr (by simp)) (by decide +kernel)).1⟩

end ReviewAssignment.Store
