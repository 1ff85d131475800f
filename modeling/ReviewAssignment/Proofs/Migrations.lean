import ReviewAssignment.Startup.Migration
import Mathlib.Data.List.Nodup

/-!
# Migrations are made up for

A list of migrations is gone through element by element: one that is recorded is passed over, any other is
carried out and recorded, and the first that fails ends it.  What this comes to is said without the records
in between (`Database.Grows`): the scripts that are due run one after the other, and either all of them
succeed, or those before the first that fails have been carried out and recorded and nothing else has
happened (`grows_iff`).

The records tell where to go on.  A second run passes over what the first has carried out, and comes to the
same failure if there was one, because a failed script has left nothing behind (`migrate_again`); so it
makes no difference to have run a part of a list before the whole of it (`migrate_resumes`).
-/

namespace ReviewAssignment.Startup

variable {Content : Type}

/-! ### What is due -/

/-- The migrations that a database has not gone through. -/
def Database.pending (database : Database Content) (migrations : List (Migration Content)) :
    List (Migration Content) :=
  migrations.filter fun migration => migration.name ∉ database.recorded

/-- Scripts, one after the other, on the result of the one before. -/
def runScripts (migrations : List (Migration Content)) (content : Content) : Except String Content :=
  migrations.foldlM (fun content migration => migration.script content) content

def announced (migrations : List (Migration Content)) : List Log.Entry :=
  migrations.map fun migration => .info ("Applying migration " ++ migration.name)

/-- A database with a new content, in which migrations are recorded. -/
def Database.grown (database : Database Content) (content : Content)
    (migrations : List (Migration Content)) : Database Content :=
  ⟨content, database.recorded ++ migrations.map Migration.name⟩

/-- **What becomes of a database for which migrations are due.** -/
inductive Database.Grows (database : Database Content) (due : List (Migration Content)) :
    Migrated Content → Prop where
  /-- All scripts succeed, and all are recorded. -/
  | completed {content : Content} (hScripts : runScripts due database.content = .ok content) :
    database.Grows due ⟨database.grown content due, none, announced due⟩
  /-- The first script that fails leaves what those before it have made of the database. -/
  | stopped {before after : List (Migration Content)} {failed : Migration Content} {content : Content}
      {cause : String} (hDue : due = before ++ failed :: after)
      (hBefore : runScripts before database.content = .ok content)
      (hFailed : failed.script content = .error cause) :
    database.Grows due ⟨database.grown content before, some (failed.name ++ ": " ++ cause),
      announced (before ++ [failed])⟩

variable {database : Database Content} {due migrations : List (Migration Content)}
  {migration : Migration Content} {migrated : Migrated Content} {content : Content} {cause : String}

theorem Database.grown_nil (database : Database Content) :
    database.grown database.content [] = database := by
  rw [grown, List.map_nil, List.append_nil]

theorem runScripts_cons (migration : Migration Content) (rest : List (Migration Content))
    (content : Content) :
    runScripts (migration :: rest) content = (migration.script content).bind (runScripts rest) :=
  List.foldlM_cons

theorem runScripts_append (before after : List (Migration Content)) (content : Content) :
    runScripts (before ++ after) content = (runScripts before content).bind (runScripts after) :=
  List.foldlM_append

theorem runScripts_ne_ok {before after : List (Migration Content)} {failed : Migration Content}
    {start last : Content} (hBefore : runScripts before start = .ok content)
    (hFailed : failed.script content = .error cause) :
    runScripts (before ++ failed :: after) start ≠ .ok last := by
  have hError : runScripts (before ++ failed :: after) start = .error cause := by
    rw [runScripts_append, hBefore]
    change runScripts (failed :: after) content = .error cause
    rw [runScripts_cons, hFailed]
    rfl
  rw [hError]
  exact fun hOk => nomatch hOk

theorem length_le_of_stopped {before after early late : List (Migration Content)}
    {failed : Migration Content} {start other : Content}
    (hDue : before ++ failed :: after = early ++ late)
    (hBefore : runScripts before start = .ok content) (hFailed : failed.script content = .error cause)
    (hEarly : runScripts early start = .ok other) : early.length ≤ before.length := by
  by_contra hLonger
  have hStop : before ++ [failed] <+: early ++ late := by
    rw [← hDue]
    exact ⟨after, by rw [List.append_assoc, List.singleton_append]⟩
  obtain ⟨between, rfl⟩ : before ++ [failed] <+: early := by
    refine List.prefix_of_prefix_length_le hStop (List.prefix_append early late) ?_
    rw [List.length_append, List.length_singleton]
    omega
  rw [List.append_assoc, List.singleton_append] at hEarly
  exact runScripts_ne_ok hBefore hFailed hEarly

namespace Database.Grows

/-- What becomes of a database is determined by what is due. -/
theorem unique {other : Migrated Content} (h : database.Grows due migrated)
    (hOther : database.Grows due other) : migrated = other := by
  cases h with
  | completed hScripts =>
    cases hOther with
    | completed hAlso =>
      obtain rfl := Except.ok.inj (hScripts.symm.trans hAlso)
      rfl
    | stopped hDue hBefore hFailed => exact absurd (hDue ▸ hScripts) (runScripts_ne_ok hBefore hFailed)
  | @stopped before after failed content cause hDue hBefore hFailed =>
    cases hOther with
    | completed hScripts => exact absurd (hDue ▸ hScripts) (runScripts_ne_ok hBefore hFailed)
    | @stopped before' after' failed' content' cause' hDue' hBefore' hFailed' =>
      have hSame := hDue.symm.trans hDue'
      have hLength : before.length = before'.length :=
        Nat.le_antisymm (length_le_of_stopped hSame.symm hBefore' hFailed' hBefore)
          (length_le_of_stopped hSame hBefore hFailed hBefore')
      obtain ⟨rfl, hRest⟩ := List.append_inj hSame hLength
      obtain ⟨rfl, -⟩ := List.cons.inj hRest
      obtain rfl := Except.ok.inj (hBefore.symm.trans hBefore')
      obtain rfl := Except.error.inj (hFailed.symm.trans hFailed')
      rfl

/-- There is no fault exactly if all scripts that are due succeed. -/
theorem fault_eq_none_iff (h : database.Grows due migrated) :
    migrated.fault = none ↔ ∃ content, runScripts due database.content = .ok content := by
  cases h with
  | completed hScripts => exact ⟨fun _ => ⟨_, hScripts⟩, fun _ => rfl⟩
  | stopped hDue hBefore hFailed =>
    constructor
    · intro hNone
      cases hNone
    · rintro ⟨content, hScripts⟩
      exact absurd (hDue ▸ hScripts) (runScripts_ne_ok hBefore hFailed)

theorem cons (hScript : migration.script database.content = .ok content)
    (h : (database.grown content [migration]).Grows due migrated) :
    database.Grows (migration :: due)
      { migrated with log := .info ("Applying migration " ++ migration.name) :: migrated.log } := by
  have hRun : ∀ scripts, runScripts (migration :: scripts) database.content =
      runScripts scripts content := by
    intro scripts
    rw [runScripts_cons, hScript]
    rfl
  have hGrown : ∀ last scripts, (database.grown content [migration]).grown last scripts =
      database.grown last (migration :: scripts) := by
    intro last scripts
    rw [grown, grown, grown, List.append_assoc]
    rfl
  cases h with
  | completed hScripts =>
    rw [hGrown]
    exact .completed ((hRun due).trans hScripts)
  | @stopped before after failed last cause hDue hBefore hFailed =>
    rw [hGrown]
    exact .stopped (congrArg (migration :: ·) hDue) ((hRun before).trans hBefore) hFailed

end Database.Grows

/-! ### What is carried out -/

theorem migrate_cons_of_recorded (hRecorded : migration.name ∈ database.recorded) :
    migrate (migration :: migrations) database = migrate migrations database := by
  rw [migrate, if_pos hRecorded]

theorem migrate_cons_of_ok (hNew : migration.name ∉ database.recorded)
    (hScript : migration.script database.content = .ok content) :
    migrate (migration :: migrations) database =
      { migrate migrations (database.grown content [migration]) with
        log := .info ("Applying migration " ++ migration.name) ::
          (migrate migrations (database.grown content [migration])).log } := by
  rw [migrate, if_neg hNew, Migration.carryOut, hScript]
  rfl

theorem migrate_cons_of_error (hNew : migration.name ∉ database.recorded)
    (hScript : migration.script database.content = .error cause) :
    migrate (migration :: migrations) database =
      ⟨database, some (migration.name ++ ": " ++ cause),
        [.info ("Applying migration " ++ migration.name)]⟩ := by
  rw [migrate, if_neg hNew, Migration.carryOut, hScript]

/-- What is not recorded is due, and nothing else. -/
theorem grows_migrate (hNames : (migrations.map Migration.name).Nodup)
    (database : Database Content) :
    database.Grows (database.pending migrations) (migrate migrations database) := by
  induction migrations generalizing database with
  | nil =>
    have hDone : database.Grows [] ⟨database.grown database.content [], none, []⟩ := .completed rfl
    rw [database.grown_nil] at hDone
    exact hDone
  | cons migration rest ih =>
    rw [List.map_cons, List.nodup_cons] at hNames
    by_cases hRecorded : migration.name ∈ database.recorded
    · rw [migrate_cons_of_recorded hRecorded, Database.pending,
        List.filter_cons_of_neg (by simpa using hRecorded)]
      exact ih hNames.2 database
    · rw [Database.pending, List.filter_cons_of_pos (by simpa using hRecorded)]
      cases hScript : migration.script database.content with
      | error cause =>
        have hStopped : database.Grows (migration :: database.pending rest) _ :=
          .stopped (List.nil_append _).symm rfl hScript
        rw [database.grown_nil] at hStopped
        rw [migrate_cons_of_error hRecorded hScript]
        exact hStopped
      | ok content =>
        -- No later migration has the name that has just been recorded.
        have hPending : (database.grown content [migration]).pending rest = database.pending rest := by
          refine List.filter_congr fun other hOther => ?_
          have hName : other.name ≠ migration.name := fun hSame =>
            hNames.1 (hSame ▸ List.mem_map_of_mem hOther)
          simp [Database.grown, hName]
        have hRest := ih hNames.2 (database.grown content [migration])
        rw [hPending] at hRest
        rw [migrate_cons_of_ok hRecorded hScript]
        exact hRest.cons hScript

theorem grows_iff (hNames : (migrations.map Migration.name).Nodup) :
    database.Grows (database.pending migrations) migrated ↔
      migrate migrations database = migrated := by
  constructor
  · exact fun h => (grows_migrate hNames database).unique h
  · rintro rfl
    exact grows_migrate hNames database

/-! ### Running again -/

theorem recorded_subset (migrations : List (Migration Content)) (database : Database Content) :
    database.recorded ⊆ (migrate migrations database).database.recorded := by
  induction migrations generalizing database with
  | nil => exact List.Subset.refl _
  | cons migration rest ih =>
    by_cases hRecorded : migration.name ∈ database.recorded
    · rw [migrate_cons_of_recorded hRecorded]
      exact ih database
    · cases hScript : migration.script database.content with
      | error cause =>
        rw [migrate_cons_of_error hRecorded hScript]
        exact List.Subset.refl _
      | ok content =>
        rw [migrate_cons_of_ok hRecorded hScript]
        exact List.Subset.trans (List.subset_append_left _ _) (ih (database.grown content [migration]))

/-- **A list and an extension of it**, run one after the other, come to what the extension comes to. -/
theorem migrate_again (migrations more : List (Migration Content)) (database : Database Content) :
    (migrate (migrations ++ more) (migrate migrations database).database).database =
        (migrate (migrations ++ more) database).database ∧
      (migrate (migrations ++ more) (migrate migrations database).database).fault =
        (migrate (migrations ++ more) database).fault := by
  induction migrations generalizing database with
  | nil => exact ⟨rfl, rfl⟩
  | cons migration rest ih =>
    by_cases hRecorded : migration.name ∈ database.recorded
    · have hStill := recorded_subset rest database hRecorded
      rw [migrate_cons_of_recorded hRecorded, List.cons_append, migrate_cons_of_recorded hStill,
        migrate_cons_of_recorded hRecorded]
      exact ih database
    · cases hScript : migration.script database.content with
      | error cause =>
        -- The script has left nothing behind, so it fails again.
        rw [migrate_cons_of_error hRecorded hScript]
        exact ⟨rfl, rfl⟩
      | ok content =>
        have hName : migration.name ∈ (database.grown content [migration]).recorded :=
          List.mem_append_right _ (List.mem_singleton_self _)
        have hStill := recorded_subset rest (database.grown content [migration]) hName
        rw [migrate_cons_of_ok hRecorded hScript, List.cons_append, migrate_cons_of_recorded hStill,
          migrate_cons_of_ok hRecorded hScript]
        exact ih (database.grown content [migration])

theorem migrate_of_recorded (hRecorded : ∀ migration ∈ migrations, migration.name ∈ database.recorded) :
    migrate migrations database = ⟨database, none, []⟩ := by
  induction migrations with
  | nil => rfl
  | cons migration rest ih =>
    obtain ⟨hFirst, hRest⟩ := List.forall_mem_cons.1 hRecorded
    rw [migrate_cons_of_recorded hFirst]
    exact ih hRest

theorem recorded_of_fault_eq_none (hNames : (migrations.map Migration.name).Nodup)
    (hFault : (migrate migrations database).fault = none) :
    ∀ migration ∈ migrations, migration.name ∈ (migrate migrations database).database.recorded := by
  intro migration hMigration
  by_cases hRecorded : migration.name ∈ database.recorded
  · exact recorded_subset migrations database hRecorded
  · have hGrows := grows_migrate hNames database
    generalize migrate migrations database = migrated at hFault hGrows ⊢
    cases hGrows with
    | completed hScripts =>
      have hDue : migration ∈ database.pending migrations :=
        List.mem_filter.2 ⟨hMigration, by simpa using hRecorded⟩
      exact List.mem_append_right _ (List.mem_map_of_mem hDue)
    | stopped hDue hBefore hFailed => cases hFault

/-- **Migrations are carried out once, in order, each whole or not at all.**  Whatever a database has gone
through before:

* a list of migrations with different names comes to what the scripts of those that are not recorded come
  to, one after the other: to all of them, recorded, if none fails, and else to those before the first that
  fails, with a fault that begins with its name;
* if there is no fault, everything is recorded, and running the list again does nothing;
* running the list and then an extension of it comes to what running the extension comes to. -/
theorem migrate_resumes (hNames : (migrations.map Migration.name).Nodup) (database : Database Content) :
    (∀ migrated, migrate migrations database = migrated ↔
        database.Grows (database.pending migrations) migrated) ∧
      ((migrate migrations database).fault = none ↔
        ∃ content, runScripts (database.pending migrations) database.content = .ok content) ∧
      ((migrate migrations database).fault = none →
        (∀ migration ∈ migrations,
          migration.name ∈ (migrate migrations database).database.recorded) ∧
        migrate migrations (migrate migrations database).database =
          ⟨(migrate migrations database).database, none, []⟩) ∧
      ∀ more, (migrate (migrations ++ more) (migrate migrations database).database).database =
          (migrate (migrations ++ more) database).database ∧
        (migrate (migrations ++ more) (migrate migrations database).database).fault =
          (migrate (migrations ++ more) database).fault := by
  refine ⟨fun migrated => (grows_iff hNames).symm, (grows_migrate hNames database).fault_eq_none_iff,
    fun hFault => ?_, fun more => migrate_again migrations more database⟩
  have hRecorded := recorded_of_fault_eq_none hNames hFault
  exact ⟨hRecorded, migrate_of_recorded hRecorded⟩

/-- The first of four migrations is recorded and the third one fails: the second one stays, and a second
run comes to the same. -/
theorem migrate_resumes_after_failure :
    let creation := fun name table => (⟨name, fun tables =>
      if table ∈ tables then .error "table already exists" else .ok (tables ++ [table])⟩ :
        Migration (List String))
    let migrations := [creation "1" "users", creation "2" "teams", creation "3" "users",
      creation "4" "slots"]
    let database : Database (List String) := ⟨["users"], ["1"]⟩
    let left : Database (List String) := ⟨["users", "teams"], ["1", "2"]⟩
    (migrations.map Migration.name).Nodup ∧ (migrate migrations database).database = left ∧
      (migrate migrations database).fault = some "3: table already exists" ∧
      (migrate migrations left).database = left := by
  intro creation migrations database left
  have hNames : (migrations.map Migration.name).Nodup := by decide
  obtain ⟨hGrows, -, -, hAgain⟩ := migrate_resumes hNames database
  have hDue : database.pending migrations =
      [creation "2" "teams"] ++ creation "3" "users" :: [creation "4" "slots"] := rfl
  have hRun := (hGrows _).2 (.stopped hDue rfl rfl)
  refine ⟨hNames, ?_, ?_, ?_⟩
  · rw [hRun]
    rfl
  · rw [hRun]
    rfl
  · have hTwice := (hAgain []).1
    rw [List.append_nil, hRun] at hTwice
    exact hTwice

end ReviewAssignment.Startup
