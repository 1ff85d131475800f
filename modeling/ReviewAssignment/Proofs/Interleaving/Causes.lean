import ReviewAssignment.Proofs.Interleaving.Records
import ReviewAssignment.Proofs.Store.Acceptance
import ReviewAssignment.Proofs.Store.Membership
import ReviewAssignment.Proofs.Store.RefusedWrites
import ReviewAssignment.Proofs.Store.Swap

/-!
# Why a request fails

A request is refused for a reason that lies with the caller or with the other clients: `Refusal` lists
the reasons, request by request, with the failure that tells each of them.  The service itself is never
at fault for any other: however the clients take turns, no foreign key is found missing, no slots are
found corrupt and nobody is drawn twice.

There is one exception.  A merge that finds no pull request looks again, to say so; if the pull request
has been created meanwhile, the merge takes its own failure for a contradiction of the service
(`Request.Overtaken`).  `Service.refusals_run` says that this is the only one.

The programs are gone through as for their contracts, with `Request.answers` in place of
`Request.contract`.
-/

namespace ReviewAssignment

/-! ### Reasons -/

namespace Request

/-- The fields of a request that must not be blank, by the name each goes by in a failure. -/
def required : Request → List (String × String)
  | .teamByName name => [(name, "team_name")]
  | .teamByMember user | .setActive user _ | .profile user | .reviews user => [(user, "user_id")]
  | .create id name author =>
    [(id, "pull_request_id"), (name, "pull_request_name"), (author, "author_id")]
  | .merge id => [(id, "pull_request_id")]
  | .reassign id old => [(id, "pull_request_id"), (old, "old_reviewer_id")]
  | .upsertTeam team => [(team.name, "team_name")]
  | .reviewerLoads | .reviewerCounts => []

def referred : Request → List (String × String)
  | .teamByName name => [("Team", name)]
  | .teamByMember user => [("Team for user", user)]
  | .setActive user _ | .profile user | .reviews user => [("User", user)]
  | .create _ _ author => [("Team for author", author)]
  | .merge id => [("PullRequest", id)]
  | .reassign id old => [("PullRequest", id), ("Team for user", old)]
  | .upsertTeam _ | .reviewerLoads | .reviewerCounts => []

def refusalCodes : Request → List String
  | .upsertTeam _ => ["VALIDATION_ERROR"]
  | .teamByName _ | .teamByMember _ | .setActive _ _ | .profile _ | .reviews _ | .merge _ =>
    ["VALIDATION_ERROR", "NOT_FOUND"]
  | .create _ _ _ => ["VALIDATION_ERROR", "NOT_FOUND", "PR_EXISTS"]
  | .reassign _ _ =>
    ["VALIDATION_ERROR", "NOT_FOUND", "PR_MERGED", "NOT_ASSIGNED", "NO_CANDIDATE", "CONFLICT"]
  | .reviewerLoads | .reviewerCounts => []

end Request

/-- **The reasons to refuse a request**, each with the failure that tells it.  Who belongs to which team
is looked up before the answer, so it is said of a store that the one at the answer has come from. -/
inductive Refusal (store : Store) : Request → Failure → Prop where
  | blank {request : Request} {value field : String} (hField : (value, field) ∈ request.required)
    (hBlank : Text.isBlank value = true) :
    Refusal store request (.validation (field ++ " must not be empty") (some field))
  | missing {request : Request} {kind key : String} (hKey : (kind, key) ∈ request.referred) :
    Refusal store request (.notFound kind (some key))
  | malformed {team : Team} {cause : Failure} (hFault : Operation.MemberFault team.members cause) :
    Refusal store (.upsertTeam team) cause
  | claimed {team : Team} {found : Store} (hFound : found.Leads store)
    (hConflicts : found.conflicts team ≠ []) :
    Refusal store (.upsertTeam team) (.validation
      ("; ".intercalate ((found.conflicts team).map fun claim =>
        "user " ++ claim.1 ++ " already belongs to team " ++ claim.2))
      (some "members"))
  | attached {team : Team} {found : Store} {claim : UserId × TeamName}
    {others : List (UserId × TeamName)} (hFound : found.Leads store)
    (hConflicts : found.conflicts team = claim :: others) :
    Refusal store (.upsertTeam team) (.validation
      ("user " ++ claim.1 ++ " already belongs to another team") (some "members"))
  | taken {id : PullRequestId} {name : String} {author : UserId} :
    Refusal store (.create id name author) (.alreadyExists id)
  | merged {id : PullRequestId} {old : UserId} : Refusal store (.reassign id old) (.alreadyMerged id)
  | notAssigned {id : PullRequestId} {old : UserId} :
    Refusal store (.reassign id old) (.reviewerNotAssigned id old)
  | nobody {id : PullRequestId} {old : UserId} :
    Refusal store (.reassign id old) (.noReviewerCandidates id)
  | changed {id : PullRequestId} {old : UserId} :
    Refusal store (.reassign id old)
      (.conflict ("reviewers of pull request " ++ id ++ " changed concurrently"))

variable {store : Store} {request : Request} {cause : Failure}

/-- A request is refused with one of its codes. -/
theorem Refusal.code_mem (h : Refusal store request cause) : cause.code ∈ request.refusalCodes := by
  cases h with
  | blank hField _ =>
    cases request with
    | reviewerLoads | reviewerCounts => cases hField
    | _ => exact List.mem_cons_self
  | missing hKey =>
    cases request with
    | upsertTeam | reviewerLoads | reviewerCounts => cases hKey
    | _ => exact List.mem_cons_of_mem _ List.mem_cons_self
  | malformed hFault => exact List.mem_singleton.2 hFault.code
  | _ => simp [Request.refusalCodes, Failure.code]

theorem Refusal.of_teamFault? {team : Team} (hFault : Operation.teamFault? team = some cause) :
    Refusal store (.upsertTeam team) cause := by
  have hField : (team.name, "team_name") ∈ (Request.upsertTeam team).required :=
    List.mem_singleton_self _
  rcases Operation.teamFault?_eq_some_iff.1 hFault with ⟨hName, rfl⟩ | ⟨-, hMember⟩
  · exact .blank hField hName
  · exact .malformed hMember

theorem Refusal.of_swapFault? {id : PullRequestId} {old : UserId} {pr : PullRequest}
    (hFault : Operation.swapFault? id old pr = some cause) :
    Refusal store (.reassign id old) cause := by
  rw [Operation.swapFault?] at hFault
  split at hFault
  · rw [← Option.some.inj hFault]
    exact .merged
  · split at hFault
    · cases hFault
    · rw [← Option.some.inj hFault]
      exact .notAssigned

theorem Refusal.of_lostSwap (id : PullRequestId) (old : UserId) (current : PullRequest) :
    Refusal store (.reassign id old) (Operation.lostSwap id old current) := by
  rw [Operation.lostSwap]
  split
  · exact .merged
  · split
    · exact .changed
    · exact .notAssigned

/-! ### What is read on the way -/

structure Store.Staffs (store : Store) (team : Team) : Prop where
  distinct : team.memberIds.Nodup
  users : ∀ id ∈ team.memberIds, store.hasUser id = true

theorem Store.Staffs.of_leads {store later : Store} {team : Team} (h : store.Staffs team)
    (hLater : store.Leads later) : later.Staffs team :=
  ⟨h.distinct, fun id hId => hLater.evolves.users id (h.users id hId)⟩

theorem Store.Consistent.staffs_teamOfRow {store : Store} (h : store.Consistent) (row : TeamRow) :
    store.Staffs (store.teamOfRow row) := by
  refine ⟨h.nodup_memberIds row, fun id hId => ?_⟩
  obtain ⟨member, hMember, rfl⟩ := List.mem_map.1 hId
  exact Store.hasUser_iff_exists.2 ⟨member, Store.user?_of_mem_membersOf hMember⟩

namespace Operation

open Program

variable {store : Store}

theorem loadPullRequest_refused {id : PullRequestId} (hKey : ("PullRequest", id) ∈ request.referred) :
    (loadPullRequest id).Finds (fun _ outcome =>
      ∀ later cause, outcome = .error cause → Refusal later request cause) store := by
  refine ⟨rfl, fun first _ => ?_⟩
  rw [show (first.perform (.pullRequestRow id)).1 = first.pullRequestRow? id from rfl]
  cases first.pullRequestRow? id with
  | none => exact fun _ _ _ cause hError => Except.error.inj hError ▸ .missing hKey
  | some row =>
    refine ⟨rfl, fun second hSecond => ?_⟩
    rw [show (second.perform (.reviewersOf id)).1 = second.reviewersOf id from rfl]
    simp only [Program.bind, hSecond.consistent.assemble_reviewersOf row id]
    intro _ _ _ cause hError
    cases hError

theorem loadUser_refused {id : UserId} (hKey : ("User", id) ∈ request.referred) :
    (loadUser id).Finds (fun _ outcome =>
      ∀ later cause, outcome = .error cause → Refusal later request cause) store := by
  refine ⟨rfl, fun later _ => ?_⟩
  change Obeys _ _ _ later (.ofOption _ (later.user? id))
  cases later.user? id with
  | some user =>
    intro _ _ _ cause hError
    cases hError
  | none => exact fun _ _ _ cause hError => Except.error.inj hError ▸ .missing hKey

theorem readTeam_isOk (row? : Option TeamRow) :
    (readTeam row?).Finds (fun _ outcome => outcome.isOk = true) store := by
  cases row? with
  | none => exact fun _ _ => rfl
  | some row => exact ⟨rfl, fun _ _ _ _ => rfl⟩

theorem readTeamOf_isOk (user : UserId) :
    (readTeamOf user).Finds (fun _ outcome => outcome.isOk = true) store :=
  ⟨rfl, fun later _ => readTeam_isOk (later.teamOf? user)⟩

/-- The team of a user is read without a failure.  If there is one, the user is there, and its members
are different users. -/
theorem readTeamOf_staffed (user : UserId) :
    (readTeamOf user).Finds (fun later outcome => ∃ team?, outcome = .ok team? ∧
      ∀ team, team? = some team → later.hasUser user = true ∧ later.Staffs team) store := by
  refine ⟨rfl, fun first hFirst => ?_⟩
  change Obeys _ _ _ first (readTeam (first.teamOf? user))
  cases hRow : first.teamOf? user with
  | none => exact fun _ _ => ⟨none, rfl, fun _ hTeam => nomatch hTeam⟩
  | some row =>
    refine ⟨rfl, fun second hSecond last hLast => ⟨_, rfl, fun team hTeam => ?_⟩⟩
    have hUser := hFirst.consistent.hasUser_of_teamOf? hRow
    have hStaffs : second.Staffs (second.teamOfRow row) := hSecond.consistent.staffs_teamOfRow row
    rw [← Option.some.inj hTeam]
    exact ⟨(hSecond.trans hLast).evolves.users user hUser, hStaffs.of_leads hLast⟩

variable {α β : Type} {contract : Contract β} {deeds : List Move} {done : α → Account → Prop}
  {failed : Failure → Account → Prop}

theorem obeys_require_bind {value field : String} {next : Unit → Program α}
    (hField : (value, field) ∈ request.required)
    (hRefused : ∀ cause, (∀ later, Refusal later request cause) → failed cause ⟨deeds, store⟩)
    (hNext : (next ()).Obeys contract.rules done failed ⟨deeds, store⟩) :
    (require value field >>= next).Obeys contract.rules done failed ⟨deeds, store⟩ := by
  refine .check_bind (fun cause hFault => hRefused cause fun later => ?_) fun _ => hNext
  obtain ⟨hBlank, rfl⟩ := blankFault?_eq_some_iff.1 hFault
  exact .blank hField hBlank

/-- Reading the team of a user who has to have one. -/
theorem obeys_teamOf_bind {user : UserId} {missing : Failure} {next : Team → Program α}
    (hStore : store.Consistent) (hMissing : ∀ later, failed missing ⟨deeds, later⟩)
    (hNext : ∀ later team, store.Leads later → later.hasUser user = true → later.Staffs team →
      (next team).Obeys contract.rules done failed ⟨deeds, later⟩) :
    (readTeamOf user >>= fun team? => ofOption missing team? >>= next).Obeys contract.rules done failed
      ⟨deeds, store⟩ := by
  refine .finds_bind (readTeamOf_staffed user) hStore ?_ fun later team? hLater hTeam? => ?_
  · rintro _ _ _ ⟨_, hOk, -⟩
    cases hOk
  · obtain ⟨_, hOk, hTeam⟩ := hTeam?
    obtain rfl := Except.ok.inj hOk
    refine .ofOption_bind (fun _ => hMissing later) fun team hSome => ?_
    obtain ⟨hUser, hStaffs⟩ := hTeam team hSome
    exact hNext later team hLater hUser hStaffs

end Operation

/-! ### The requests -/

namespace Request

open Program Operation

/-- **A merge is overtaken** when the pull request was missing at its transition and has been created
by the time it looks again. -/
def Overtaken (deeds : List Move) (store : Store) (cause : Failure) : Request → Prop
  | .merge id =>
    cause = .internal ("pull request " ++ id ++ " still open after merge") ∧
      ∃ moment found, deeds = [.read moment, .asked (.transition id .opened .merged moment) found] ∧
        found.pullRequestRow? id = none ∧ ∃ row, store.pullRequestRow? id = some row
  | _ => False

/-- **What a failure tells.** -/
def answers (request : Request) : Contract Reply where
  allows := fun _ _ => True
  concludes := fun deeds store outcome =>
    ∀ cause, outcome = .error cause →
      Refusal store request cause ∨ request.Overtaken deeds store cause

variable {store : Store} {settings : Settings} {deeds : List Move}

theorem answered (reply : Reply) : request.answers.concludes deeds store (.ok reply) :=
  fun _ hError => nomatch hError

theorem refused (h : Refusal store request cause) :
    request.answers.concludes deeds store (.error cause) :=
  fun _ hError => Or.inl (Except.error.inj hError ▸ h)

theorem upsertTeam_answers (team : Team) :
    ((upsertTeam team).steps settings).Abides (upsertTeam team).answers [] store := by
  refine .map Reply.team ?_
  refine .check_bind (fun _ hFault _ _ => refused (.of_teamFault? hFault)) fun hTeam => ?_
  refine .log_bind ?_
  refine .read_bind rfl fun looked hLooked => ?_
  refine .check_bind (fun cause hFault later hLater => ?_) fun _ => ?_
  · change Operation.claimFault? (Operation.claims team (looked.teamNames team.memberIds)) = _ at hFault
    rw [hLooked.consistent.claims_teamNames] at hFault
    obtain ⟨hConflicts, rfl⟩ := claimFault?_eq_some_iff.1 hFault
    exact refused (.claimed hLater hConflicts)
  · refine .write_bind rfl fun found hFound => ⟨trivial, ?_⟩
    refine .ofExcept_bind (fun cause hCause later hLater => ?_) fun _ _ _ _ => answered _
    have hRefused := Store.commit_eq_error hCause
    rw [Store.perform, hRefused] at hLater
    obtain ⟨claim, others, hConflicts, rfl⟩ :=
      hFound.consistent.upsertTeam_eq_error (nodup_of_teamFault? hTeam) hRefused
    exact refused (.attached hLater hConflicts)

theorem setActive_answers (user : UserId) (active : Bool) :
    ((setActive user active).steps settings).Abides (setActive user active).answers [] store := by
  have hKey : ("User", user) ∈ (setActive user active).referred := List.mem_singleton_self _
  refine .map Reply.profile ?_
  refine obeys_require_bind (List.mem_singleton_self _) (fun _ h _ _ => refused (h _)) ?_
  refine .log_bind ?_
  refine .write_bind rfl fun found hFound => ⟨trivial, ?_⟩
  cases (found.perform (.setActive user active)).1 with
  | true =>
    refine .finds_bind (loadUser_refused hKey) (hFound.consistent.perform _)
      (fun _ cause _ h _ _ => refused (h _ cause rfl)) fun _ _ _ _ => ?_
    exact .read_bind rfl fun _ _ _ _ => answered _
  | false => exact fun _ _ => refused (.missing hKey)

/-- How a creation goes.  It is refused before it writes, or it inserts a pull request of users, and
what comes of the insertion is the answer: the reviewers are different users, as the members of the team
are. -/
theorem create_inserts (hStore : store.Consistent) (id : PullRequestId) (name : String)
    (author : UserId) {contract : Contract Reply}
    (hRefused : ∀ later cause, Refusal later (create id name author) cause →
      contract.concludes [] later (.error cause))
    (hRead : ∀ moment, contract.allows [] (.read moment))
    (hInserted : ∀ moment pr found, found.HasUsersOf pr → pr.id = id →
      contract.allows [.read moment] (.asked (.insertPullRequest pr) found) ∧
        ∀ later, contract.concludes [.read moment, .asked (.insertPullRequest pr) found] later
          (if (Move.asked (.insertPullRequest pr) found).applied then .ok (.pullRequest pr)
            else .error (.alreadyExists pr.id))) :
    ((create id name author).steps settings).Abides contract [] store := by
  refine .map Reply.pullRequest ?_
  refine obeys_require_bind (by simp [required]) (fun cause h _ _ => hRefused _ cause (h _)) ?_
  refine obeys_require_bind (by simp [required]) (fun cause h _ _ => hRefused _ cause (h _)) ?_
  refine obeys_require_bind (by simp [required]) (fun cause h _ _ => hRefused _ cause (h _)) ?_
  refine .log_bind ?_
  refine obeys_teamOf_bind hStore
    (fun _ later _ => hRefused later _ (.missing (List.mem_singleton_self _)))
    fun given team _ hAuthor hStaffs => ?_
  refine .ofDraws_bind trivial (selectReviewers_all team author settings.maxReviewers)
    fun selected hSelected => ?_
  have hDistinct := hSelected.nodup hStaffs.distinct
  rw [Slots.ofList_of_nodup hDistinct]
  refine .now_bind fun createdAt => ⟨hRead createdAt, ?_⟩
  refine .write_bind rfl fun found hFound => ?_
  let pr : PullRequest := ⟨id, name, author, .opened, ⟨selected, hDistinct⟩, createdAt, none⟩
  have hUsers : found.HasUsersOf pr :=
    ⟨hFound.evolves.users author hAuthor, fun reviewer hMem =>
      hFound.evolves.users reviewer (hStaffs.users reviewer (hSelected.mem_memberIds hMem))⟩
  obtain ⟨hAllowed, hAnswered⟩ := hInserted createdAt pr found hUsers rfl
  refine ⟨hAllowed, .ofExcept_bind (fun cause hCause later _ => ?_)
    fun _ hOk => .log_bind fun later _ => ?_⟩
  · have hTaken := hFound.consistent.insertPullRequest_eq_error hUsers (Store.commit_eq_error hCause)
    have hAnswer := hAnswered later
    rw [Move.applied, hCause, hTaken] at hAnswer
    rw [hTaken]
    exact hAnswer
  · have hAnswer := hAnswered later
    rw [Move.applied, hOk] at hAnswer
    exact hAnswer

/-- A creation can only be refused for a blank field, for want of a team, or for the identifier. -/
theorem create_answers (hStore : store.Consistent) (id : PullRequestId) (name : String)
    (author : UserId) :
    ((create id name author).steps settings).Abides (create id name author).answers [] store := by
  refine create_inserts hStore id name author (fun _ _ => refused) (fun _ => trivial)
    fun moment pr found _ hId => ⟨trivial, fun later => ?_⟩
  split
  · exact answered _
  · exact hId ▸ refused .taken

/-- A merge reads back what its transition has left merged, unless there was nothing for the
transition to find. -/
theorem merge_answers (id : PullRequestId) :
    ((merge id).steps settings).Abides (merge id).answers [] store := by
  have hKey : ("PullRequest", id) ∈ (merge id).referred := List.mem_singleton_self _
  refine .map Reply.pullRequest ?_
  refine obeys_require_bind (List.mem_singleton_self _) (fun _ h _ _ => refused (h _)) ?_
  refine .log_bind ?_
  refine .now_bind fun moment => ⟨trivial, ?_⟩
  refine .write_bind rfl fun found hFound => ⟨trivial, ?_⟩
  refine .finds_bind ((loadPullRequest_finds id).and (loadPullRequest_refused hKey))
    (hFound.consistent.perform _) (fun _ cause _ h _ _ => refused (h.2 _ cause rfl))
    fun later pr _ hLoads => ?_
  obtain ⟨first, second, hLoaded⟩ := hLoads.1.1 pr rfl
  cases hStatus : pr.status with
  | merged =>
    rw [PullRequest.isOpen, hStatus]
    cases (found.perform (.transition id .opened .merged moment)).1 with
    | true => exact fun _ _ => answered _
    | false => exact .log_bind fun _ _ => answered _
  | opened =>
    rw [PullRequest.isOpen, hStatus]
    have hMissing : found.pullRequestRow? id = none := by
      by_contra hThere
      obtain ⟨row, hRow⟩ := Option.ne_none_iff_exists'.1 hThere
      obtain ⟨left, hLeft, hMerged⟩ := Store.pullRequestRow?_transition hRow moment
      cases hStatus.symm.trans (hLoaded.status hLeft hMerged)
    intro last hLast cause hCause
    obtain ⟨row, hRow, -⟩ := (hLoaded.between.trans (hLoaded.after.trans hLast)).evolves.pullRequests
      id pr.row hLoaded.row
    exact Or.inr ⟨(Except.error.inj hCause).symm, moment, found, rfl, hMissing, row, hRow⟩

/-- A reassignment hands the slot to a user, so that a swap which is not made is explained by the
pull request. -/
theorem reassign_answers (hStore : store.Consistent) (id : PullRequestId) (old : UserId) :
    ((reassign id old).steps settings).Abides (reassign id old).answers [] store := by
  have hKey : ("PullRequest", id) ∈ (reassign id old).referred := List.mem_cons_self
  refine .map Reply.reassignment ?_
  refine obeys_require_bind (by simp [required]) (fun _ h _ _ => refused (h _)) ?_
  refine obeys_require_bind (by simp [required]) (fun _ h _ _ => refused (h _)) ?_
  refine .log_bind ?_
  refine .finds_bind (loadPullRequest_refused hKey) hStore
    (fun _ cause _ h _ _ => refused (h _ cause rfl)) fun read pr hRead _ => ?_
  refine .check_bind (fun _ hFault _ _ => refused (.of_swapFault? hFault)) fun hFault => ?_
  refine obeys_teamOf_bind hRead.consistent (fun _ _ _ => refused (.missing (by simp [referred])))
    fun given team _ _ hStaffs => ?_
  refine .ofDraws_bind trivial (pickReplacement_all (team.candidates pr old)) fun picked hPicked => ?_
  refine .ofOption_bind (fun _ _ _ => refused .nobody) fun replacement hReplacement => ?_
  obtain ⟨hMember, hNew⟩ := mem_members_of_mem_candidates (hPicked replacement hReplacement)
  obtain ⟨slot, expected, hSlots⟩ :=
    Slots.exists_replace_eq_ok pr.reviewers id (mem_reviewers_of_swapFault? hFault) hNew
  rw [hSlots]
  refine .write_bind rfl fun found hFound => ⟨trivial, ?_⟩
  refine .ofExcept_bind (fun cause hCause => ?_) fun updated _ => ?_
  · obtain ⟨-, -, hNobody⟩ := hFound.consistent.swap_eq_error_iff.1 hCause
    have hUser := hStaffs.users replacement.id (List.mem_map_of_mem hMember)
    cases (hFound.evolves.users _ hUser).symm.trans hNobody
  cases updated with
  | none =>
    exact .finds_bind (loadPullRequest_refused hKey) (hFound.consistent.perform _)
      (fun _ cause _ h _ _ => refused (h _ cause rfl))
      fun _ current _ _ _ _ => refused (.of_lostSwap id old current)
  | some updated =>
    refine .log_bind ?_
    split
    · exact .log_bind fun _ _ => answered _
    · exact fun _ _ => answered _

/-- Every request answers for its failures. -/
theorem abides_answers (settings : Settings) (request : Request) (store : Store)
    (hStore : store.Consistent) :
    (request.program settings).Abides request.answers [] store := by
  refine .reporting request.operation ?_
  cases request with
  | upsertTeam team => exact upsertTeam_answers team
  | setActive user active => exact setActive_answers user active
  | create id name author => exact create_answers hStore id name author
  | merge id => exact merge_answers id
  | reassign id old => exact reassign_answers hStore id old
  | teamByName name =>
    refine .map Reply.team ?_
    refine obeys_require_bind (List.mem_singleton_self _) (fun _ h _ _ => refused (h _)) ?_
    refine .read_bind rfl fun later hLater => ?_
    refine .finds_bind (readTeam_isOk _) hLater.consistent (fun _ _ _ hOk => nomatch hOk)
      fun _ team? _ _ => ?_
    cases team? with
    | none => exact fun _ _ => refused (.missing (List.mem_singleton_self _))
    | some team => exact fun _ _ => answered _
  | teamByMember user =>
    refine .map Reply.team ?_
    refine obeys_require_bind (List.mem_singleton_self _) (fun _ h _ _ => refused (h _)) ?_
    refine .finds_bind (readTeamOf_isOk user) hStore (fun _ _ _ hOk => nomatch hOk)
      fun _ team? _ _ => ?_
    cases team? with
    | none => exact fun _ _ => refused (.missing (List.mem_singleton_self _))
    | some team => exact fun _ _ => answered _
  | profile user =>
    refine .map Reply.profile ?_
    refine obeys_require_bind (List.mem_singleton_self _) (fun _ h _ _ => refused (h _)) ?_
    refine .finds_bind (loadUser_refused (List.mem_singleton_self _)) hStore
      (fun _ cause _ h _ _ => refused (h _ cause rfl)) fun _ _ _ _ => ?_
    exact .read_bind rfl fun _ _ _ _ => answered _
  | reviews user =>
    refine .map Reply.reviews ?_
    refine obeys_require_bind (List.mem_singleton_self _) (fun _ h _ _ => refused (h _)) ?_
    refine .finds_bind (loadUser_refused (List.mem_singleton_self _)) hStore
      (fun _ cause _ h _ _ => refused (h _ cause rfl)) fun _ _ _ _ => ?_
    exact .read_bind rfl fun _ _ _ _ => answered _
  | reviewerLoads => exact .read_bind rfl fun _ _ _ _ => answered _
  | reviewerCounts => exact .read_bind rfl fun _ _ _ _ => answered _

end Request

/-! ### Runs -/

namespace Service

/-- **Why a request fails in a run.**  However the clients take turns, a request that fails is refused for
one of its reasons, with one of its codes.

The one exception is a merge whose transition found no pull request, and which was overtaken by a client
who created the pull request before the merge looked again: what it then finds open, it takes for a fault
of the service.

A team may have any number of members: the one statement that looks up the teams of all of them
(`Store.Call.teamNames`) is assumed to be answered, however many there are. -/
theorem refusals_run {actions : List Action} {client : Nat} {actor : Client} {cause : Failure}
    (hActor : (run actions).clients[client]? = some actor)
    (hOutcome : (run actions).outcome? client = some (.error cause)) :
    (Refusal (run actions).store actor.request cause ∧ cause.code ∈ actor.request.refusalCodes) ∨
      ∃ id moment found creation creator, actor.request = .merge id ∧
        cause = .internal ("pull request " ++ id ++ " still open after merge") ∧
        Move.deedsOf ((run actions).movesOf client) =
          [.read moment, .asked (.transition id .opened .merged moment) found] ∧
        found.pullRequestRow? id = none ∧ (run actions).creations id = [creation] ∧
        (run actions).clients[creation.client]? = some creator ∧
        creator.request = .create id creation.pr.name creation.pr.author := by
  have hStore := (lawful_run actions).sound.toConsistent
  have hAbides := abides_run Request.abides_answers actions client actor hActor
  rw [outcome?, hActor, Option.bind_some] at hOutcome
  rcases hAbides.outcome hStore.leads_refl hOutcome cause rfl with hRefusal | hOvertaken
  · exact Or.inl ⟨hRefusal, hRefusal.code_mem⟩
  · cases hRequest : actor.request with
    | merge id =>
      rw [hRequest] at hOvertaken
      obtain ⟨hCause, moment, found, hDeeds, hMissing, row, hRow⟩ := hOvertaken
      obtain ⟨creation, -, hCreations, -⟩ := (recorded_run actions id).present row hRow
      obtain ⟨creator, -, hCreator, -, hCreate, -⟩ :=
        exists_creator (hCreations ▸ List.mem_singleton_self creation)
      exact Or.inr ⟨id, moment, found, creation, creator, rfl, hCause, hDeeds, hMissing, hCreations,
        hCreator, hCreate⟩
    | _ =>
      rw [hRequest] at hOvertaken
      exact hOvertaken.elim

/-- A merge of a pull request that is not there. -/
def vainMerge : List Action :=
  [.enter default (.merge "p"), .advance 0 0 default, .advance 0 0 default, .advance 0 0 default,
    .advance 0 0 default, .advance 0 0 default]

/-- A merge of nothing is refused, for what is missing. -/
theorem merge_of_missing :
    ∃ actor, (run vainMerge).clients[0]? = some actor ∧
      (run vainMerge).outcome? 0 = some (.error (.notFound "PullRequest" (some "p"))) ∧
      Refusal (run vainMerge).store actor.request (.notFound "PullRequest" (some "p")) ∧
      "NOT_FOUND" ∈ actor.request.refusalCodes := by
  have hOutcome : (run vainMerge).outcome? 0 =
      some (.error (.notFound "PullRequest" (some "p"))) := rfl
  have hClient : 0 < (run vainMerge).clients.length := by decide
  have hActor := List.getElem?_eq_getElem hClient
  refine ⟨_, hActor, hOutcome, ?_⟩
  rcases refusals_run hActor hOutcome with hRefused | ⟨_, _, _, _, _, _, hCause, _⟩
  · exact hRefused
  · cases hCause

/-- Ann's merge finds nothing at first.  Then she creates the pull request, and the merge looks again. -/
def overtakenMerge : List Action :=
  [.enter default (.upsertTeam ⟨"t", [⟨"a", "A", true⟩]⟩),
    .advance 0 0 default, .advance 0 0 default, .advance 0 0 default,
    .enter default (.merge "p"),
    .advance 1 0 default, .advance 1 0 default, .advance 1 0 default,
    .enter default (.create "p" "n" "a"),
    .advance 2 0 default, .advance 2 0 default, .advance 2 0 default, .advance 2 0 default,
    .advance 2 0 default, .advance 2 0 default,
    .advance 1 0 default, .advance 1 0 default, .advance 1 0 default]

/-- A merge that is overtaken by the creation is told of a fault of the service, which is none of the
codes of a merge. -/
theorem merge_overtaken :
    ∃ actor, (run overtakenMerge).clients[1]? = some actor ∧ actor.request = .merge "p" ∧
      (run overtakenMerge).outcome? 1 =
        some (.error (.internal "pull request p still open after merge")) ∧
      (Failure.internal "pull request p still open after merge").code ∉ actor.request.refusalCodes := by
  have hRequest : ((run overtakenMerge).clients[1]?).map Client.request = some (.merge "p") := by
    decide +kernel
  obtain ⟨actor, hActor, hMerge⟩ := Option.map_eq_some_iff.1 hRequest
  refine ⟨actor, hActor, hMerge, by decide +kernel, ?_⟩
  rw [hMerge]
  decide

end Service

end ReviewAssignment
