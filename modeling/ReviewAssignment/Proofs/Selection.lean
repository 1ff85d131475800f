import ReviewAssignment.Selection
import Mathlib.Data.List.Perm.Basic

/-!
# Who can be chosen

What holds of a choice whichever alternatives are drawn.  `Draws.All` says it of a computation with
draws; `selectReviewers_all` and `pickReplacement_all` say it of the two choices the service makes.
Neither ever falls on the author.
-/

namespace ReviewAssignment

variable {α β : Type}

namespace Draws

/-- **Whatever is drawn**, the result has the property. -/
def All (property : α → Prop) : Draws α → Prop
  | .done result => property result
  | .draw _ next => ∀ choice, All property (next choice)

theorem All.imp {property other : α → Prop} {draws : Draws α} (h : draws.All property)
    (hImp : ∀ result, property result → other result) : draws.All other := by
  induction draws with
  | done result => exact hImp result h
  | draw others next ih => exact fun choice => ih choice (h choice)

theorem All.run {property : α → Prop} {draws : Draws α} (h : draws.All property) (source : Source)
    (made : Nat) : property (draws.run source made).1 := by
  induction draws generalizing made with
  | done result => exact h
  | draw others next ih => exact ih _ (h _) (made + 1)

theorem All.map {property : β → Prop} {f : α → β} {draws : Draws α}
    (h : draws.All fun result => property (f result)) : (draws.map f).All property := by
  induction draws with
  | done result => exact h
  | draw others next ih => exact fun choice => ih choice (h choice)

/-- Taking an element out of a list leaves the others. -/
theorem takeOut_perm (first : α) {rest : List α} (place : Fin (rest.length + 1)) :
    ((takeOut first rest place).1 :: (takeOut first rest place).2).Perm (first :: rest) := by
  obtain ⟨index, hIndex⟩ := place
  cases index with
  | zero => exact .refl _
  | succ index =>
    have hPlace : index < rest.length := Nat.lt_of_succ_lt_succ hIndex
    calc
      List.Perm (rest[index] :: rest.set index first) (rest[index] :: first :: rest.eraseIdx index) :=
        (List.set_perm_cons_eraseIdx hPlace first).cons _
      List.Perm _ (first :: rest[index] :: rest.eraseIdx index) := .swap ..
      List.Perm _ (first :: rest) := (List.getElem_cons_eraseIdx_perm hPlace).cons _

/-- A sample is a part of the list, in some order, with as many elements as were asked for or as there
are. -/
theorem sample_all (amount : Nat) (list : List α) :
    (sample amount list).All fun drawn =>
      drawn.length = min amount list.length ∧ drawn.Subperm list := by
  induction amount generalizing list with
  | zero => exact ⟨(Nat.zero_min _).symm, List.nil_subperm⟩
  | succ amount ih =>
    cases list with
    | nil => exact ⟨rfl, List.nil_subperm⟩
    | cons first rest =>
      intro place
      refine ((ih (takeOut first rest place).2).imp fun drawn hDrawn => ⟨?_, ?_⟩).map
      · rw [List.length_cons, hDrawn.1, length_takeOut, List.length_cons, Nat.succ_min_succ]
      · have hTaken := (List.subperm_cons (takeOut first rest place).1).2 hDrawn.2
        exact (takeOut_perm first place).subperm_left.1 hTaken

end Draws

/-- A selection of reviewers for a pull request by the author: a part of the eligible members, in some
order, with as many as there may be or as there are. -/
structure Team.Selection (team : Team) (author : UserId) (limit : Nat) (ids : List UserId) : Prop where
  length : ids.length = min limit (team.eligible author).length
  part : ids.Subperm ((team.eligible author).map User.id)

/-- **Whatever is drawn**, the reviewers of a new pull request are a selection. -/
theorem selectReviewers_all (team : Team) (author : UserId) (limit : Nat) :
    (selectReviewers team author limit).All (team.Selection author limit) := by
  have hCount : ((team.eligible author).map User.id).length = (team.eligible author).length :=
    List.length_map _
  rw [selectReviewers]
  split
  · next hFit =>
    rw [hCount] at hFit
    exact ⟨hCount.trans (Nat.min_eq_right hFit).symm, .refl _⟩
  · exact (Draws.sample_all limit _).imp fun ids hIds => ⟨hIds.1.trans (congrArg _ hCount), hIds.2⟩

theorem mem_eligible_iff {team : Team} {author : UserId} {member : User} :
    member ∈ team.eligible author ↔
      member ∈ team.members ∧ member.active = true ∧ member.id ≠ author := by
  rw [Team.eligible, List.mem_filter, Bool.and_eq_true, bne_iff_ne]

theorem nodup_eligible {team : Team} (hDistinct : team.memberIds.Nodup) (author : UserId) :
    ((team.eligible author).map User.id).Nodup :=
  hDistinct.sublist (List.filter_sublist.map User.id)

namespace Team.Selection

variable {team : Team} {author : UserId} {limit : Nat} {ids : List UserId}

theorem length_le (h : team.Selection author limit ids) : ids.length ≤ limit := by
  rw [h.length]
  exact Nat.min_le_left _ _

theorem nodup (h : team.Selection author limit ids) (hDistinct : team.memberIds.Nodup) : ids.Nodup := by
  obtain ⟨part, hPerm, hPart⟩ := h.part
  exact hPerm.nodup_iff.1 ((nodup_eligible hDistinct author).sublist hPart)

theorem exists_member (h : team.Selection author limit ids) {id : UserId} (hId : id ∈ ids) :
    ∃ member ∈ team.members, member.id = id ∧ member.active = true ∧ id ≠ author := by
  obtain ⟨member, hMember, rfl⟩ := List.mem_map.1 (h.part.subset hId)
  obtain ⟨hTeam, hActive, hOther⟩ := mem_eligible_iff.1 hMember
  exact ⟨member, hTeam, rfl, hActive, hOther⟩

theorem author_notMem (h : team.Selection author limit ids) : author ∉ ids := by
  intro hMem
  obtain ⟨member, -, -, -, hOther⟩ := h.exists_member hMem
  exact hOther rfl

theorem mem_memberIds (h : team.Selection author limit ids) {id : UserId} (hId : id ∈ ids) :
    id ∈ team.memberIds := by
  obtain ⟨member, hMember, rfl, -⟩ := h.exists_member hId
  exact List.mem_map_of_mem hMember

end Team.Selection

/-- A candidate is neither the author nor the reviewer who leaves. -/
theorem ne_of_mem_candidates {team : Team} {pr : PullRequest} {old : UserId} {user : User}
    (hUser : user ∈ team.candidates pr old) : user.id ≠ pr.author ∧ user.id ≠ old := by
  have hParts := (List.mem_filter.1 hUser).2
  simp only [Bool.and_eq_true, bne_iff_ne] at hParts
  exact ⟨hParts.1.2, hParts.1.1.2⟩

/-- A candidate is a member of the team and holds no slot. -/
theorem mem_members_of_mem_candidates {team : Team} {pr : PullRequest} {old : UserId} {user : User}
    (hUser : user ∈ team.candidates pr old) :
    user ∈ team.members ∧ user.id ∉ pr.reviewers.reviewers := by
  obtain ⟨hMember, hParts⟩ := List.mem_filter.1 hUser
  simp only [Bool.and_eq_true, Bool.not_eq_true'] at hParts
  refine ⟨hMember, fun hHolds => ?_⟩
  exact Bool.eq_false_iff.1 hParts.2 (List.contains_iff_mem.2 hHolds)

/-- **Who takes over a slot is one of the candidates.** -/
theorem pickReplacement_all (candidates : List User) :
    (pickReplacement candidates).All fun picked => ∀ user, picked = some user → user ∈ candidates := by
  cases candidates with
  | nil =>
    intro user hPicked
    cases hPicked
  | cons first others =>
    intro choice user hPicked
    rw [← Option.some.inj hPicked]
    exact List.get_mem _ _

end ReviewAssignment
