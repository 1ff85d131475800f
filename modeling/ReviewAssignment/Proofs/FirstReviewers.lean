import ReviewAssignment.Proofs.Sampling
import Mathlib.Logic.Relation

/-!
# The first reviewers of a pull request

Who reviews a new pull request is decided among the eligible members of the author's team, and by nothing
else about the team.  A change beside them (`Team.ChangedBeside`) leaves the selection as it is, draws
included (`selectReviewers_eq_of_changes`).

If the eligible members fit, there is nothing to draw.  Otherwise the selection is a sample of them, so that
every sequence of as many eligible members as are asked for is drawn in exactly one way
(`selectReviewers_once`).
-/

namespace ReviewAssignment

variable {team other : Team} {author : UserId}

/-! ### Changes beside the eligible members -/

/-- **A change beside the eligible members**: somebody who may not review the author's pull requests, being
inactive or the author, joins or leaves the team at some place, somebody's name is changed, or the name of
the team. -/
inductive Team.ChangedBeside (author : UserId) : Team → Team → Prop
  | joined {team : Team} {before after : List User} {member : User} :
      team.members = before ++ after → member.active = false ∨ member.id = author →
      ChangedBeside author team { team with members := before ++ member :: after }
  | left {team : Team} {before after : List User} {member : User} :
      team.members = before ++ member :: after → member.active = false ∨ member.id = author →
      ChangedBeside author team { team with members := before ++ after }
  | memberRenamed {team : Team} {before after : List User} {member : User} (name : String) :
      team.members = before ++ member :: after →
      ChangedBeside author team { team with members := before ++ { member with name } :: after }
  | teamRenamed {team : Team} (name : TeamName) :
      ChangedBeside author team { team with name }

/-- Whoever is inactive or the author is passed over. -/
theorem eligible_passes {before after : List User} {member : User} (name : TeamName)
    (hPassed : member.active = false ∨ member.id = author) :
    Team.eligible ⟨name, before ++ member :: after⟩ author =
      Team.eligible ⟨name, before ++ after⟩ author := by
  have hNot : ¬(member.active && member.id != author) = true := by
    rw [Bool.and_eq_true, bne_iff_ne]
    rintro ⟨hActive, hOther⟩
    rcases hPassed with hInactive | hAuthor
    · exact Bool.false_ne_true (hInactive.symm.trans hActive)
    · exact hOther hAuthor
  rw [Team.eligible, Team.eligible, List.filter_append, List.filter_append,
    List.filter_cons_of_neg (p := fun user : User => user.active && user.id != author) hNot]

/-- A change beside the eligible members leaves their identifiers in the same order. -/
theorem Team.ChangedBeside.eligible (h : Team.ChangedBeside author team other) :
    (other.eligible author).map User.id = (team.eligible author).map User.id := by
  obtain ⟨name, members⟩ := team
  cases h with
  | joined hMembers hPassed =>
    obtain rfl := hMembers
    rw [eligible_passes name hPassed]
  | left hMembers hPassed =>
    obtain rfl := hMembers
    rw [eligible_passes name hPassed]
  | @memberRenamed before after member renamed hMembers =>
    obtain rfl := hMembers
    simp only [Team.eligible, List.filter_append, List.filter_cons, List.map_append]
    split <;> rfl
  | teamRenamed renamed => rfl

/-- The selection reads the identifiers of the eligible members, and nothing else. -/
theorem selectReviewers_eq_of_eligible {otherAuthor : UserId}
    (hSame : (other.eligible otherAuthor).map User.id = (team.eligible author).map User.id)
    (limit : Nat) : selectReviewers other otherAuthor limit = selectReviewers team author limit := by
  rw [selectReviewers, selectReviewers, hSame]

/-- **Changes beside the eligible members**, any number of them, leave the selection as it is. -/
theorem selectReviewers_eq_of_changes
    (hChanges : Relation.ReflTransGen (Team.ChangedBeside author) team other) (limit : Nat) :
    selectReviewers other author limit = selectReviewers team author limit := by
  induction hChanges with
  | refl => rfl
  | tail _ hChange ih => exact (selectReviewers_eq_of_eligible hChange.eligible limit).trans ih

/-! ### What is selected -/

theorem selectReviewers_of_fits {limit : Nat} (hFit : (team.eligible author).length ≤ limit) :
    selectReviewers team author limit = .done ((team.eligible author).map User.id) := by
  rw [selectReviewers, if_pos ((List.length_map _).trans_le hFit)]

theorem selectReviewers_of_exceeds {limit : Nat} (hMore : limit < (team.eligible author).length) :
    selectReviewers team author limit =
      Draws.sample limit ((team.eligible author).map User.id) := by
  rw [selectReviewers, if_neg (Nat.not_le.2 (hMore.trans_eq (List.length_map _).symm))]

/-- **The first reviewers.**  Among the `count` members of the team that are active and not the author,

* as many as asked for are selected, or all if there are no more, all different,
* if they fit, they are all taken in the order of the team, without a draw,
* if they do not fit, there is a draw for every reviewer, and every sequence of as many eligible members as
  asked for comes from one sequence of choices and no other; the reviewers are those at the indices drawn.

Two teams with the same eligible identifiers are treated alike, draws included; so are a team and what
becomes of it by changes beside the eligible members. -/
theorem selectReviewers_once (hDistinct : team.memberIds.Nodup) (author : UserId) (limit : Nat) :
    let selection := selectReviewers team author limit
    let ids := (team.eligible author).map User.id
    let count := (team.members.filter fun member => member.active && member.id != author).length
    (∀ source made,
      (selection.run source made).1.length = min limit count ∧ (selection.run source made).1.Nodup ∧
        ∀ id ∈ (selection.run source made).1,
          ∃ member ∈ team.members, member.id = id ∧ member.active = true ∧ id ≠ author) ∧
    (count ≤ limit → ∀ source made, selection.run source made = (ids, [])) ∧
    (limit < count →
      (∀ source made,
        let drawn := (Draws.sample limit (List.range count)).run source made
        (selection.run source made).2.map Drawn.alternatives =
            (List.range limit).map (fun i => count - i) ∧
          (selection.run source made).1.map some = drawn.1.map (ids[·]?) ∧
          (selection.run source made).2 = drawn.2) ∧
      Set.BijOn (fun picks => (selection.run (Source.listed picks) 0).1) (Draws.choices count limit)
        {chosen | chosen.length = limit ∧ chosen.Nodup ∧ ∀ id ∈ chosen, id ∈ ids}) ∧
    (∀ (other : Team) (otherAuthor : UserId), (other.eligible otherAuthor).map User.id = ids →
      selectReviewers other otherAuthor limit = selection) ∧
    ∀ other, Relation.ReflTransGen (Team.ChangedBeside author) team other →
      selectReviewers other author limit = selection := by
  intro selection ids count
  have hCount : ids.length = count := List.length_map _
  refine ⟨fun source made => ?_, fun hFit source made => ?_, fun hMore => ?_,
    fun other otherAuthor hSame => selectReviewers_eq_of_eligible hSame limit,
    fun other hChanges => selectReviewers_eq_of_changes hChanges limit⟩
  · have hSelection := (selectReviewers_all team author limit).run source made
    exact ⟨hSelection.length, hSelection.nodup hDistinct, fun _ => hSelection.exists_member⟩
  · simp only [selection, selectReviewers_of_fits hFit, Draws.run, ids]
  · have hLimit : min limit count = limit := Nat.min_eq_left hMore.le
    have hSelection : selection = Draws.sample limit ids := selectReviewers_of_exceeds hMore
    have hOnce := Draws.bijOn_sample limit (nodup_eligible hDistinct author)
    refine ⟨fun source made => ?_, ?_⟩
    · have hDraws := Draws.map_alternatives_sample limit ids source made
      have hPlaces := Draws.run_sample_range limit ids source made
      rw [hCount, hLimit] at hDraws
      rw [hCount] at hPlaces
      rw [hSelection]
      exact ⟨hDraws, hPlaces⟩
    · rw [hSelection]
      rwa [show ((team.eligible author).map User.id).length = count from hCount, hLimit] at hOnce

/-- One of two reviewers is drawn: Ann wrote it herself, and Dan is away. -/
theorem selectReviewers_once_of_two :
    let team : Team :=
      ⟨"core", [⟨"ann", "Ann", true⟩, ⟨"bob", "Bob", true⟩, ⟨"cy", "Cy", true⟩,
        ⟨"dan", "Dan", false⟩]⟩
    team.memberIds.Nodup ∧
      Set.BijOn (fun picks => ((selectReviewers team "ann" 1).run (Source.listed picks) 0).1)
        (Draws.choices 2 1)
        {chosen | chosen.length = 1 ∧ chosen.Nodup ∧ ∀ id ∈ chosen, id ∈ ["bob", "cy"]} := by
  intro team
  have hDistinct : team.memberIds.Nodup := by decide
  exact ⟨hDistinct, ((selectReviewers_once hDistinct "ann" 1).2.2.1 (by decide)).2⟩

end ReviewAssignment
