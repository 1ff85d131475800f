import ReviewAssignment.Proofs.Alone
import ReviewAssignment.Proofs.Interleaving.Lawful
import ReviewAssignment.Proofs.Store.Acceptance

/-!
# Which teams the service accepts

That nobody gets into two teams is looked after twice: by a batched lookup before the write, which can name
every member who is in the way, and by the key of the memberships when the team is written, which stops at
the first of them.  The two agree: in one and the same store, a team with names that are not blank passes
the checks exactly when the store accepts it (`Service.upserts_answered`).

So an upsert without company that passes its checks is never refused.  If others write between the lookup
and the write, only the key is left, and it decides by the store that the write finds.
-/

namespace ReviewAssignment

open Store (Call)

namespace Operation

variable {team : Team} {cause : Failure}

/-! ### Steps of an upsert -/

open Program

variable {outside : Surroundings} {session : Session}

/-- What an upsert does after its checks. -/
def writeTeam (team : Team) : Program Team := do
  .ofExcept (← .ask (.upsertTeam team))
  return team

theorem upsertTeam_of_fault (hFault : teamFault? team = some cause) : upsertTeam team = .fail cause := by
  rw [upsertTeam, hFault]
  rfl

/-- An upsert that there is no complaint about looks the members up before it writes. -/
theorem exists_upsertTeam_eq_note (hPasses : teamFault? team = none) :
    ∃ entry, upsertTeam team = .note entry (.call (.teamNames team.memberIds) fun names =>
      check (claimFault? (claims team names)) >>= fun _ => writeTeam team) := by
  rw [upsertTeam, hPasses]
  exact ⟨_, rfl⟩

theorem reached_writeTeam (team : Team) :
    (writeTeam team).reached outside session =
      (Program.ofExcept ((session.store.upsertTeam team).map fun _ => team),
        { session with store := (session.store.commit (session.store.upsertTeam team)).2 }) := by
  rw [writeTeam, reached_ask_bind, Store.perform]
  cases session.store.upsertTeam team <;> rfl

end Operation

/-! ### How an upsert is answered -/

structure Store.Admits (store : Store) (team : Team) : Prop where
  named : Text.isBlank team.name = false
  membersNamed : ∀ member ∈ team.members, Text.isBlank member.id = false
  distinct : team.memberIds.Nodup
  unattached : store.Unattached team

/-- Why a team is refused: for its name, for the first member whose identifier is blank or repeats an
earlier one, or for all its conflicts, in this order. -/
inductive Store.Refuses (store : Store) (team : Team) : Failure → Prop where
  | unnamed (hName : Text.isBlank team.name = true) :
    Refuses store team (.validation "team_name must not be empty" (some "team_name"))
  | member {cause : Failure} (hName : Text.isBlank team.name = false)
    (hFault : Operation.MemberFault team.members cause) : Refuses store team cause
  | claimed (hName : Text.isBlank team.name = false) (hMembers : Operation.WellNamed team.members)
    (hConflicts : store.conflicts team ≠ []) :
    Refuses store team (.validation
      ("; ".intercalate ((store.conflicts team).map fun claim =>
        "user " ++ claim.1 ++ " already belongs to team " ++ claim.2))
      (some "members"))

namespace Store

variable {store : Store} {team : Team} {cause : Failure}

/-- What there is to complain about: the checks of an upsert, one after the other. -/
def upsertFault? (store : Store) (team : Team) : Option Failure :=
  (Operation.teamFault? team).or (Operation.claimFault? (store.conflicts team))

theorem upsertFault?_eq_none_iff : store.upsertFault? team = none ↔ store.Admits team := by
  rw [upsertFault?, Option.or_eq_none_iff, Operation.teamFault?_eq_none_iff,
    Operation.claimFault?_eq_none_iff, conflicts_eq_nil_iff]
  constructor
  · rintro ⟨⟨hName, hNamed, hDistinct⟩, hFree⟩
    exact ⟨hName, hNamed, hDistinct, hFree⟩
  · rintro ⟨hName, hNamed, hDistinct, hFree⟩
    exact ⟨⟨hName, hNamed, hDistinct⟩, hFree⟩

theorem upsertFault?_eq_some_iff : store.upsertFault? team = some cause ↔ store.Refuses team cause := by
  rw [upsertFault?, Option.or_eq_some_iff, Operation.teamFault?_eq_some_iff,
    Operation.teamFault?_eq_none_iff, Operation.claimFault?_eq_some_iff]
  constructor
  · rintro ((⟨hName, rfl⟩ | ⟨hName, hFault⟩) | ⟨⟨hName, hMembers⟩, hConflicts, rfl⟩)
    · exact .unnamed hName
    · exact .member hName hFault
    · exact .claimed hName hMembers hConflicts
  · intro hRefuses
    cases hRefuses with
    | unnamed hName => exact Or.inl (Or.inl ⟨hName, rfl⟩)
    | member hName hFault => exact Or.inl (Or.inr ⟨hName, hFault⟩)
    | claimed hName hMembers hConflicts => exact Or.inr ⟨⟨hName, hMembers⟩, hConflicts, rfl⟩

theorem Refuses.code (h : store.Refuses team cause) : cause.code = "VALIDATION_ERROR" := by
  cases h with
  | unnamed => rfl
  | member _ hFault => cases hFault <;> rfl
  | claimed => rfl

end Store

/-- How the write of a team is answered in a store that others may have come to since the checks. -/
structure WriteAnswered (team : Team) (store : Store) (answer : Except Failure Reply) (left : Store) :
    Prop where
  accepted : (∃ reply, answer = .ok reply) ↔ store.Unattached team
  reply : ∀ reply, answer = .ok reply → reply = .team team ∧ store.upsertTeam team = .ok left
  refused : ∀ cause, answer = .error cause ↔
    ∃ claim others, store.conflicts team = claim :: others ∧
      cause = .validation ("user " ++ claim.1 ++ " already belongs to another team") (some "members")
  unchanged : ∀ cause, answer = .error cause → left = store

namespace Request

open Program Operation

variable {store : Store} {team : Team} {settings : Settings} {outside : Surroundings}
  {session : Session}

/-- The write of a team whose members are different is answered by the key of the memberships. -/
theorem writeTeam_answered (outside : Surroundings) (session : Session)
    (hStore : session.store.Consistent) (hDistinct : team.memberIds.Nodup) (operation : String) :
    WriteAnswered team session.store
      (((writeTeam team).answering Reply.team operation).run outside session).1
      (((writeTeam team).answering Reply.team operation).run outside session).2.session.store := by
  obtain ⟨hAnswer, hLeft⟩ := run_answering Reply.team operation (reached_writeTeam team)
  rw [hAnswer, hLeft]
  cases hConflicts : session.store.conflicts team with
  | nil =>
    have hFree := Store.conflicts_eq_nil_iff.1 hConflicts
    obtain ⟨written, hWritten⟩ := hStore.exists_upsertTeam_iff.2 ⟨hDistinct, hFree⟩
    rw [hWritten]
    refine ⟨⟨fun _ => hFree, fun _ => ⟨_, rfl⟩⟩, fun reply hReply => ?_, fun cause => ?_,
      fun cause hError => ?_⟩
    · cases hReply
      exact ⟨rfl, hWritten⟩
    · simp [hConflicts, Except.map]
    · cases hError
  | cons claim others =>
    have hRefused := hStore.upsertTeam_of_conflict hDistinct hConflicts
    have hTaken : ¬session.store.Unattached team := fun hFree =>
      List.cons_ne_nil claim others (hConflicts.symm.trans (Store.conflicts_eq_nil_iff.2 hFree))
    rw [hRefused]
    refine ⟨⟨?_, fun hFree => absurd hFree hTaken⟩, fun reply hReply => ?_, fun cause => ?_,
      fun _ _ => rfl⟩
    · rintro ⟨reply, hReply⟩
      cases hReply
    · cases hReply
    · simp [hConflicts, Except.map, eq_comm]

theorem upsertTeam_program_eq (settings : Settings) (team : Team) :
    (upsertTeam team).program settings =
      (Operation.upsertTeam team).answering Reply.team "upsert_team" :=
  rfl

/-- An upsert without company is refused for what there is to complain about, or writes the team. -/
theorem run_upsertTeam (settings : Settings) (outside : Surroundings) (session : Session)
    (hStore : session.store.Consistent) (team : Team) :
    let served := ((upsertTeam team).program settings).run outside session
    (∀ cause, session.store.upsertFault? team = some cause →
        served.1 = .error cause ∧ served.2.session.store = session.store) ∧
      (session.store.upsertFault? team = none →
        served.1 = .ok (.team team) ∧
          session.store.upsertTeam team = .ok served.2.session.store) := by
  intro served
  cases hFault : teamFault? team with
  | some fault =>
    have hServed : served.1 = .error fault ∧ served.2.session.store = session.store := by
      simp only [served, upsertTeam_program_eq, upsertTeam_of_fault hFault]
      exact ⟨rfl, rfl⟩
    rw [Store.upsertFault?, hFault, Option.some_or]
    refine ⟨?_, fun hNone => ?_⟩
    · rintro cause ⟨⟩
      exact hServed
    · cases hNone
  | none =>
    obtain ⟨entry, hProgram⟩ := exists_upsertTeam_eq_note hFault
    have hServed : served.1 = ((check (claimFault? (session.store.conflicts team)) >>= fun _ =>
          writeTeam team).answering Reply.team "upsert_team" |>.run outside session).1 ∧
        served.2.session = ((check (claimFault? (session.store.conflicts team)) >>= fun _ =>
          writeTeam team).answering Reply.team "upsert_team" |>.run outside session).2.session := by
      simp only [served, upsertTeam_program_eq, hProgram, ← hStore.claims_teamNames]
      exact ⟨rfl, rfl⟩
    rw [hServed.1, hServed.2, Store.upsertFault?, hFault, Option.none_or]
    refine ⟨fun cause hClaim => ?_, fun hNone => ?_⟩
    · rw [hClaim]
      exact ⟨rfl, rfl⟩
    · rw [hNone]
      have hDistinct := (teamFault?_eq_none_iff.1 hFault).2.distinct
      have hWrite := writeTeam_answered outside session hStore hDistinct "upsert_team"
      obtain ⟨reply, hReply⟩ :=
        hWrite.accepted.2 (Store.conflicts_eq_nil_iff.1 (claimFault?_eq_none_iff.1 hNone))
      obtain ⟨rfl, hWritten⟩ := hWrite.reply reply hReply
      exact ⟨hReply, hWritten⟩

/-- An upsert that has passed its checks writes next, whatever the lookup was followed by. -/
theorem exists_upsertTeam_program_eq (hStore : store.Consistent) (hAdmits : store.Admits team)
    (settings : Settings) :
    ∃ entry rest, (upsertTeam team).program settings =
        .note entry (.call (.teamNames team.memberIds) rest) ∧
      rest (store.teamNames team.memberIds) = (writeTeam team).answering Reply.team "upsert_team" := by
  obtain ⟨entry, hProgram⟩ := exists_upsertTeam_eq_note
    (teamFault?_eq_none_iff.2 ⟨hAdmits.named, hAdmits.membersNamed, hAdmits.distinct⟩)
  refine ⟨entry, _, congrArg (answering Reply.team "upsert_team") hProgram, ?_⟩
  change ((check (claimFault? (claims team (store.teamNames team.memberIds))) >>= fun _ =>
    writeTeam team).answering Reply.team "upsert_team") = _
  rw [hStore.claims_teamNames, Store.conflicts_eq_nil_iff.2 hAdmits.unattached]
  rfl

end Request

/-- **The lookup and the key agree.**  In every store that the service comes to, a team is handed in.

* Without company the upsert is answered with the team exactly if the team is admitted, and the team is
  written then; otherwise it is refused for the reason there is, and leaves the store as it was.
* Of teams with names that are not blank, the store by itself accepts those that are admitted and no others.
* If the team is admitted at the lookup, the next step is the write, and whatever others have done to the
  store by then, the write decides by the store it finds: it is refused exactly if a member belongs to
  another team there, for the first such member, and leaves the store as it was. -/
theorem Service.upserts_answered (before : List Action) (team : Team) :
    let store := (run before).store
    (∀ settings outside draws readings,
      let served := ((Request.upsertTeam team).program settings).run outside ⟨store, draws, readings⟩
      ((∃ reply, served.1 = .ok reply) ↔ store.Admits team) ∧
        (∀ reply, served.1 = .ok reply →
          reply = .team team ∧ store.upsertTeam team = .ok served.2.session.store) ∧
        (∀ cause, served.1 = .error cause ↔ store.Refuses team cause) ∧
        ∀ cause, served.1 = .error cause →
          cause.code = "VALIDATION_ERROR" ∧ served.2.session.store = store) ∧
    (Text.isBlank team.name = false → (∀ member ∈ team.members, Text.isBlank member.id = false) →
      ((∃ written, store.upsertTeam team = .ok written) ↔ store.Admits team)) ∧
    (store.Admits team → ∀ settings, ∃ entry rest write,
      (Request.upsertTeam team).program settings =
          .note entry (.call (.teamNames team.memberIds) rest) ∧
        rest (store.teamNames team.memberIds) = .call (.upsertTeam team) write ∧
        ∀ between outside draws readings,
          let later := (run (before ++ between)).store
          let served := (rest (store.teamNames team.memberIds)).run outside ⟨later, draws, readings⟩
          WriteAnswered team later served.1 served.2.session.store) := by
  intro store
  have hStore : store.Consistent := (lawful_run before).sound.toConsistent
  refine ⟨fun settings outside draws readings => ?_, fun hName hNamed => ?_, fun hAdmits settings => ?_⟩
  · intro served
    obtain ⟨hRefused, hAccepted⟩ :=
      Request.run_upsertTeam settings outside ⟨store, draws, readings⟩ hStore team
    simp only [← Store.upsertFault?_eq_none_iff, ← Store.upsertFault?_eq_some_iff]
    cases hFault : store.upsertFault? team with
    | some fault =>
      obtain ⟨hAnswer, hLeft⟩ := hRefused fault hFault
      rw [show served.1 = .error fault from hAnswer]
      refine ⟨by simp, fun reply hReply => ?_, fun cause => ?_, ?_⟩
      · cases hReply
      · rw [Except.error.injEq, Option.some.injEq]
      · rintro cause ⟨⟩
        exact ⟨(Store.upsertFault?_eq_some_iff.1 hFault).code, hLeft⟩
    | none =>
      obtain ⟨hAnswer, hWritten⟩ := hAccepted hFault
      rw [show served.1 = .ok (.team team) from hAnswer]
      refine ⟨by simp, ?_, fun cause => by simp, fun cause hCause => ?_⟩
      · rintro reply ⟨⟩
        exact ⟨rfl, hWritten⟩
      · cases hCause
  · rw [hStore.exists_upsertTeam_iff]
    exact ⟨fun h => ⟨hName, hNamed, h.1, h.2⟩, fun h => ⟨h.distinct, h.unattached⟩⟩
  · obtain ⟨entry, rest, hProgram, hRest⟩ := Request.exists_upsertTeam_program_eq hStore hAdmits settings
    refine ⟨entry, rest, _, hProgram, hRest, fun between outside draws readings => ?_⟩
    have hLater := (leads_run before between).consistent
    simp only [hRest]
    exact Request.writeTeam_answered outside ⟨_, draws, readings⟩ hLater hAdmits.distinct _

end ReviewAssignment
