import ReviewAssignment.Operation.TeamUpsert
import Mathlib.Data.List.Induction
import Mathlib.Data.List.Nodup

/-!
# Checks of a team as it was handed in

A team is checked member after member, and the first complaint counts.  There is none exactly if the name
and all identifiers are not blank and the identifiers are different (`Operation.teamFault?_eq_none_iff`);
otherwise it is about the name, or about the first member whose identifier is blank or repeats an earlier
one (`Operation.teamFault?_eq_some_iff`).  Members who belong to other teams are all told at once.
-/

namespace ReviewAssignment

namespace Operation

variable {earlier : List UserId} {members : List User} {team : Team} {cause : Failure}

theorem blankFault?_eq_none_iff {value field : String} :
    blankFault? value field = none ↔ Text.isBlank value = false := by
  rw [blankFault?]
  cases Text.isBlank value <;> simp

theorem blankFault?_eq_some_iff {value field : String} :
    blankFault? value field = some cause ↔
      Text.isBlank value = true ∧ cause = .validation (field ++ " must not be empty") (some field) := by
  rw [blankFault?, Failure.blank]
  cases Text.isBlank value <;> simp [eq_comm]

structure WellNamed (members : List User) : Prop where
  named : ∀ member ∈ members, Text.isBlank member.id = false
  distinct : (members.map User.id).Nodup

/-- The first complaint about the members, who are fine up to the one it is about: an identifier is
blank, or repeats an earlier one. -/
inductive MemberFault (members : List User) : Failure → Prop where
  | blank {before after : List User} {member : User} (hMembers : members = before ++ member :: after)
    (hBefore : WellNamed before) (hBlank : Text.isBlank member.id = true) :
    MemberFault members (.validation "user_id must not be empty" (some "user_id"))
  | repeated {before after : List User} {member : User} (hMembers : members = before ++ member :: after)
    (hBefore : WellNamed before) (hNamed : Text.isBlank member.id = false)
    (hRepeated : member.id ∈ before.map User.id) :
    MemberFault members (.validation ("duplicate member " ++ member.id) (some "members"))

/-- Member after member: the complaint about the later ones takes the earlier ones into account. -/
theorem memberFault?_append (earlier : List UserId) (before rest : List User) :
    memberFault? earlier (before ++ rest) =
      (memberFault? earlier before).or (memberFault? ((before.map User.id).reverse ++ earlier) rest) := by
  induction before generalizing earlier with
  | nil => rfl
  | cons member before ih =>
    rw [List.cons_append, memberFault?, memberFault?]
    split
    · rfl
    · split
      · rfl
      · rw [ih, List.map_cons, List.reverse_cons, List.append_assoc, List.singleton_append]

theorem memberFault?_append_singleton (before : List User) (member : User) :
    memberFault? [] (before ++ [member]) = (memberFault? [] before).or
      (if Text.isBlank member.id then some (.blank "user_id")
        else if member.id ∈ before.map User.id then some (.repeatedMember member.id) else none) := by
  rw [memberFault?_append, List.append_nil]
  simp only [memberFault?, List.mem_reverse]

theorem wellNamed_append_singleton {member : User} :
    WellNamed (members ++ [member]) ↔
      WellNamed members ∧ Text.isBlank member.id = false ∧ member.id ∉ members.map User.id := by
  have hIds : ((members ++ [member]).map User.id).Nodup ↔
      member.id ∉ members.map User.id ∧ (members.map User.id).Nodup := by
    rw [List.map_append, List.map_singleton, ← List.concat_eq_append, List.nodup_concat]
  constructor
  · rintro ⟨hNamed, hDistinct⟩
    obtain ⟨hNew, hOthers⟩ := hIds.1 hDistinct
    exact ⟨⟨fun other hOther => hNamed other (List.mem_append_left _ hOther), hOthers⟩,
      hNamed member (List.mem_append_right _ (List.mem_singleton_self member)), hNew⟩
  · rintro ⟨⟨hNamed, hDistinct⟩, hLast, hNew⟩
    refine ⟨fun other hOther => ?_, hIds.2 ⟨hNew, hDistinct⟩⟩
    rcases List.mem_append.1 hOther with hOld | hSame
    · exact hNamed other hOld
    · rw [List.mem_singleton.1 hSame]
      exact hLast

/-- There is no complaint about members with different identifiers that are not blank. -/
theorem memberFault?_eq_none_iff : memberFault? [] members = none ↔ WellNamed members := by
  induction members using List.reverseRecOn with
  | nil => exact ⟨fun _ => ⟨List.forall_mem_nil _, List.nodup_nil⟩, fun _ => rfl⟩
  | append_singleton members member ih =>
    rw [memberFault?_append_singleton, Option.or_eq_none_iff, ih, wellNamed_append_singleton]
    refine and_congr_right fun _ => ?_
    cases Text.isBlank member.id <;> simp

/-- A complaint about a member after members who are fine is the complaint. -/
theorem memberFault?_of_last {before after : List User} {member : User}
    (hMembers : members = before ++ member :: after) (hBefore : WellNamed before)
    (hFault : (if Text.isBlank member.id then some (.blank "user_id")
      else if member.id ∈ before.map User.id then some (.repeatedMember member.id) else none) =
        some cause) : memberFault? [] members = some cause := by
  rw [hMembers, List.append_cons, memberFault?_append, memberFault?_append_singleton,
    memberFault?_eq_none_iff.2 hBefore, hFault]
  rfl

theorem MemberFault.append (h : MemberFault members cause) (later : List User) :
    MemberFault (members ++ later) cause := by
  cases h with
  | blank hMembers hBefore hBlank =>
    rw [hMembers, List.append_assoc, List.cons_append]
    exact .blank rfl hBefore hBlank
  | repeated hMembers hBefore hNamed hRepeated =>
    rw [hMembers, List.append_assoc, List.cons_append]
    exact .repeated rfl hBefore hNamed hRepeated

/-- The complaint is the first there is. -/
theorem memberFault?_eq_some_iff : memberFault? [] members = some cause ↔ MemberFault members cause := by
  constructor
  · intro hFault
    induction members using List.reverseRecOn with
    | nil => cases hFault
    | append_singleton before member ih =>
      rw [memberFault?_append_singleton, Option.or_eq_some_iff] at hFault
      rcases hFault with hEarlier | ⟨hNone, hLast⟩
      · exact (ih hEarlier).append [member]
      · have hBefore := memberFault?_eq_none_iff.1 hNone
        split at hLast
        · next hBlank =>
          cases hLast
          exact .blank rfl hBefore hBlank
        · next hNamed =>
          split at hLast
          · next hRepeated =>
            cases hLast
            exact .repeated rfl hBefore (Bool.eq_false_iff.2 hNamed) hRepeated
          · cases hLast
  · intro hFault
    cases hFault with
    | blank hMembers hBefore hBlank =>
      exact memberFault?_of_last hMembers hBefore (if_pos hBlank)
    | repeated hMembers hBefore hNamed hRepeated =>
      refine memberFault?_of_last hMembers hBefore ?_
      rw [if_neg (Bool.eq_false_iff.1 hNamed), if_pos hRepeated]
      rfl

theorem teamFault?_eq_none_iff :
    teamFault? team = none ↔ Text.isBlank team.name = false ∧ WellNamed team.members := by
  rw [teamFault?, Option.or_eq_none_iff, blankFault?_eq_none_iff, memberFault?_eq_none_iff]

theorem teamFault?_eq_some_iff :
    teamFault? team = some cause ↔
      Text.isBlank team.name = true ∧
          cause = .validation "team_name must not be empty" (some "team_name") ∨
        Text.isBlank team.name = false ∧ MemberFault team.members cause := by
  rw [teamFault?, Option.or_eq_some_iff, blankFault?_eq_some_iff, blankFault?_eq_none_iff,
    memberFault?_eq_some_iff]
  rfl

theorem claimFault?_eq_none_iff {claims : List (UserId × TeamName)} :
    claimFault? claims = none ↔ claims = [] := by
  cases claims <;> simp [claimFault?]

theorem claimFault?_eq_some_iff {claims : List (UserId × TeamName)} :
    claimFault? claims = some cause ↔ claims ≠ [] ∧ cause = .validation
      ("; ".intercalate (claims.map fun claim =>
        "user " ++ claim.1 ++ " already belongs to team " ++ claim.2))
      (some "members") := by
  cases claims <;> simp [claimFault?, Failure.claimedElsewhere, eq_comm]

/-- A team without a complaint has no blank name in it. -/
theorem not_blank_of_teamFault? (h : teamFault? team = none) :
    Text.isBlank team.name = false ∧ ∀ member ∈ team.members, Text.isBlank member.id = false :=
  ⟨(teamFault?_eq_none_iff.1 h).1, (teamFault?_eq_none_iff.1 h).2.named⟩

theorem nodup_of_teamFault? (h : teamFault? team = none) : team.memberIds.Nodup :=
  (teamFault?_eq_none_iff.1 h).2.distinct

theorem MemberFault.code (h : MemberFault members cause) : cause.code = "VALIDATION_ERROR" := by
  cases h <;> rfl

end Operation

end ReviewAssignment
