import ReviewAssignment.Proofs.Store.Membership

/-!
# Who is active

The activity of a user is a field of the user's record, and two writes change it: the activity switch and
a team upsert, which writes the records of its members as they come.  The lemmas below say what record
is found for a user after each of them; from it, who is active then.  No write to pull requests touches
the users.
-/

namespace ReviewAssignment.Store

variable {store written : Store} {id : UserId} {active : Bool}

/-- There is such a user, with the given activity. -/
def HasActivity (store : Store) (active : Bool) (id : UserId) : Prop :=
  ∃ record, store.user? id = some record ∧ record.active = active

theorem HasActivity.unique {other : Bool} (h : store.HasActivity active id)
    (g : store.HasActivity other id) : active = other := by
  obtain ⟨record, hRecord, rfl⟩ := h
  obtain ⟨again, hAgain, rfl⟩ := g
  rw [Option.some.inj (hRecord.symm.trans hAgain)]

theorem HasActivity.of_user? (h : store.HasActivity active id)
    (hSame : written.user? id = store.user? id) : written.HasActivity active id := by
  obtain ⟨record, hRecord, hActive⟩ := h
  exact ⟨record, hSame.trans hRecord, hActive⟩

/-! ### The activity switch -/

theorem user?_setActive (store : Store) (id other : UserId) (active : Bool) :
    (store.setActive id active).2.user? other =
      (store.user? other).map fun old => if old.id = id then { old with active } else old := by
  rw [setActive]
  split
  · rw [user?, user?, List.find?_map]
    congr 2
    funext old
    rw [Function.comp_apply]
    split <;> rfl
  · next hUnknown =>
    cases hUser : store.user? other with
    | none => rfl
    | some old =>
      have hOther : old.id ≠ id := by
        rintro rfl
        exact hUnknown (List.any_eq_true.2 ⟨old, (user?_some hUser).1, beq_self_eq_true _⟩)
      rw [Option.map_some, if_neg hOther]

theorem hasActivity_setActive (hUser : store.hasUser id = true) :
    (store.setActive id active).2.HasActivity active id := by
  obtain ⟨record, hRecord⟩ := hasUser_iff_exists.1 hUser
  refine ⟨{ record with active }, ?_, rfl⟩
  rw [user?_setActive, hRecord, Option.map_some, if_pos (user?_some hRecord).2]

theorem HasActivity.setActive_of_ne {other : Bool} (h : store.HasActivity active id) {user : UserId}
    (hOther : user ≠ id ∨ other = active) :
    (store.setActive user other).2.HasActivity active id := by
  obtain ⟨record, hRecord, hActive⟩ := h
  refine ⟨if record.id = user then { record with active := other } else record, ?_, ?_⟩
  · rw [user?_setActive, hRecord, Option.map_some]
  · split
    · next hSame =>
      rcases hOther with hOther | hOther
      · exact absurd (hSame.symm.trans (user?_some hRecord).2) hOther
      · exact hOther
    · exact hActive

/-! ### Team upserts -/

theorem user?_putUser (store : Store) (user : User) (id : UserId) :
    (store.putUser user).user? id = if user.id = id then some user else store.user? id := by
  rw [putUser]
  split
  · next hKnown =>
    have hFind : List.find? (fun entry => entry.id == id)
        (store.users.map fun old => if old.id = user.id then user else old) =
          (store.user? id).map fun old => if old.id = user.id then user else old := by
      rw [List.find?_map, user?]
      congr 2
      funext old
      rw [Function.comp_apply]
      split
      · next hSame => rw [hSame]
      · rfl
    rw [user?, hFind]
    by_cases hSame : user.id = id
    · subst hSame
      obtain ⟨record, hRecord⟩ := hasUser_iff_exists.1 hKnown
      rw [hRecord, Option.map_some, if_pos (user?_some hRecord).2, if_pos rfl]
    · rw [if_neg hSame]
      cases hUser : store.user? id with
      | none => rfl
      | some record =>
        have hOther : record.id ≠ user.id := fun hId => hSame (hId.symm.trans (user?_some hUser).2)
        rw [Option.map_some, if_neg hOther]
  · next hUnknown =>
    rw [user?, List.find?_append, ← user?]
    by_cases hSame : user.id = id
    · subst hSame
      have hNone : store.user? user.id = none := by
        rw [← Option.not_isSome_iff_eq_none, Option.isSome_iff_exists, ← hasUser_iff_exists]
        exact hUnknown
      rw [hNone, if_pos rfl]
      simp
    · simp [hSame]

theorem user?_foldl_putUser_of_notMem {users : List User} (hId : id ∉ users.map User.id) :
    (users.foldl putUser store).user? id = store.user? id := by
  induction users generalizing store with
  | nil => rfl
  | cons first rest ih =>
    rw [List.map_cons, List.mem_cons, not_or] at hId
    rw [List.foldl_cons, ih hId.2, user?_putUser, if_neg (Ne.symm hId.1)]

theorem user?_foldl_putUser_of_mem {users : List User} (hDistinct : (users.map User.id).Nodup)
    {user : User} (hUser : user ∈ users) :
    (users.foldl putUser store).user? user.id = some user := by
  induction users generalizing store with
  | nil => cases hUser
  | cons first rest ih =>
    rw [List.map_cons, List.nodup_cons] at hDistinct
    rcases List.mem_cons.1 hUser with rfl | hRest
    · rw [List.foldl_cons, user?_foldl_putUser_of_notMem hDistinct.1, user?_putUser, if_pos rfl]
    · exact ih hDistinct.2 hRest

/-- A member of an upserted team has the record that came with the team. -/
theorem user?_upsertTeam_of_mem {team : Team} (hWritten : store.upsertTeam team = .ok written)
    (hDistinct : team.memberIds.Nodup) {member : User} (hMember : member ∈ team.members) :
    written.user? member.id = some member := by
  rw [upsertTeam_eq_ok hWritten]
  exact user?_foldl_putUser_of_mem hDistinct hMember

theorem user?_upsertTeam_of_notMem {team : Team} (hWritten : store.upsertTeam team = .ok written)
    (hId : id ∉ team.memberIds) : written.user? id = store.user? id := by
  have hUsers : (store.ensureTeam team.name).2.user? id = store.user? id := by
    rw [ensureTeam]
    split <;> rfl
  rw [upsertTeam_eq_ok hWritten, ← hUsers]
  exact user?_foldl_putUser_of_notMem hId

/-- An upsert keeps the activity of whoever it does not carry with another one. -/
theorem HasActivity.upsertTeam {team : Team} (h : store.HasActivity active id)
    (hWritten : store.upsertTeam team = .ok written) (hDistinct : team.memberIds.Nodup)
    (hCarried : ∀ member ∈ team.members, member.id = id → member.active = active) :
    written.HasActivity active id := by
  by_cases hId : id ∈ team.memberIds
  · obtain ⟨member, hMember, rfl⟩ := List.mem_map.1 hId
    exact ⟨member, user?_upsertTeam_of_mem hWritten hDistinct hMember, hCarried member hMember rfl⟩
  · exact h.of_user? (user?_upsertTeam_of_notMem hWritten hId)

end ReviewAssignment.Store
