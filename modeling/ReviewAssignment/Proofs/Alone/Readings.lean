import ReviewAssignment.Proofs.Interleaving.Views
import ReviewAssignment.Proofs.Store.RosterViews

/-!
# What the lookups are answered

A request that looks something up is answered by its key and by what the store has under it.  The lemmas
below say so for each of them, with what the roster shows (`Store.teamShown?`, `Store.teamNameOf?`) in place
of the rows.
-/

namespace ReviewAssignment

open Program Operation

namespace Operation

variable {α : Type} {key field : String} {missing : Failure} {result : α}

theorem lookedUp_some (hNamed : Text.isBlank key = false) :
    lookedUp key field missing (some result) = .ok result := by
  rw [lookedUp, hNamed]
  rfl

theorem reached_reviews {outside : Surroundings} {session : Session} (user : UserId) :
    (reviews user).reached outside session =
      (Program.ofExcept (lookedUp user "user_id" (Failure.notFound "User" (some user))
        ((session.store.user? user).map fun _ => session.store.reviewsOf user)), session) := by
  rw [reviews, require_eq, lookedUp]
  split
  · rfl
  · change ((loadUser user >>= _).reached outside session) = _
    rw [reached_bind, reached_loadUser]
    cases session.store.user? user <;> rfl

end Operation

namespace Request

variable {settings : Settings} {outside : Surroundings} {draws readings : Nat} {store : Store}

theorem run_teamByName (name : TeamName) :
    (((Request.teamByName name).program settings).run outside ⟨store, draws, readings⟩).1 =
      (lookedUp name "team_name" (Failure.notFound "Team" (some name))
        (store.teamShown? name)).map Reply.team :=
  (run_answering Reply.team "get_team_by_name" (reached_teamByName name)).1

/-- A team is answered to a name that is not blank, if it is shown under it. -/
theorem run_teamByName_eq_ok_iff {name : TeamName} {team : Team} :
    (((Request.teamByName name).program settings).run outside ⟨store, draws, readings⟩).1 =
        .ok (.team team) ↔
      Text.isBlank name = false ∧ store.teamShown? name = some team := by
  rw [run_teamByName, map_lookedUp_eq_ok_iff fun _ _ => Reply.team.inj]

theorem run_teamByMember (hStore : store.Consistent) (user : UserId) :
    (((Request.teamByMember user).program settings).run outside ⟨store, draws, readings⟩).1 =
      (lookedUp user "user_id" (Failure.notFound "Team for user" (some user))
        ((store.teamNameOf? user).bind store.teamShown?)).map Reply.team := by
  rw [← hStore.map_teamOfRow_teamOf?]
  exact (run_answering Reply.team "get_team_by_member" (reached_teamByMember user)).1

theorem run_profile (hStore : store.Consistent) (user : UserId) :
    (((Request.profile user).program settings).run outside ⟨store, draws, readings⟩).1 =
      (lookedUp user "user_id" (Failure.notFound "User" (some user))
        ((store.user? user).map store.profileOf)).map Reply.profile :=
  (run_answering Reply.profile "get_user" (reached_profile hStore user)).1

theorem run_reviews (user : UserId) :
    (((Request.reviews user).program settings).run outside ⟨store, draws, readings⟩).1 =
      (lookedUp user "user_id" (Failure.notFound "User" (some user))
        ((store.user? user).map fun _ => store.reviewsOf user)).map Reply.reviews :=
  (run_answering Reply.reviews "list_reviews_for_user" (reached_reviews user)).1

end Request

end ReviewAssignment
