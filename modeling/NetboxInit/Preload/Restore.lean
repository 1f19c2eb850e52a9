import NetboxInit.Preload.Backup

/-!
# Restoring the chosen backup, and the population gate (`netbox_init.py:517-700`)

When `preloadDatabaseFile` is a regular file, `main` restores it inside one `try` whose
`except Exception` only logs. The block stops the NetBox processes, drops the database, creates
a new one and loads the dump into it; `preloadDatabaseSuccess` is set right after the load. Two
more `psql` calls follow, and only then are the processes started again, before the migrations
and the superuser script. Last, the media archive named after the backup is unpacked into
NetBox's media directory, inside a `try` of its own. `main` then populates NetBox through its API
when `not preloadDatabaseSuccess and not args.preloadBackupFile`.

The world outside is an oracle (`RestoreEnv`): what `malcolm_utils.run_process` returns for each
command, or that it raised, which paths `os.path.isfile` finds, and whether the other calls of
the block return. The model keeps the calls that returned, in order, and
`preloadDatabaseSuccess`.

The VRF migration and the truncation put the set `{args.postgresUser}` in their argument lists,
which `subprocess` refuses with `TypeError`. Unless `run_process` catches it, the block ends
there: the dump is loaded and `preloadDatabaseSuccess` is True, but the processes are never
started again (`restore_outcome`), the media is not restored (`restore_media`), and `main` does
not populate either.
-/

namespace NetboxInit.Preload

/-- A `manage.py` command of the migrations step (`netbox_init.py:633-681`); `shell` is
`shell --interface python`, fed `/usr/local/bin/netbox_superuser_create.py`. -/
inductive ManageOperation
  | migrateCheck
  | migrate
  | tracePaths
  | removeStaleContenttypes
  | clearsessions
  | reindex
  | shell
  deriving DecidableEq, Repr

/-- What runs, in this order, when `migrate --check` fails. -/
def migrationOperations : List ManageOperation :=
  [.migrate, .tracePaths, .removeStaleContenttypes, .clearsessions, .reindex]

/-- A call of the block: a command it hands to `malcolm_utils.run_process`, or one of the two
library calls of the media restore. -/
inductive RestoreCommand
  -- `supervisorctl stop` for every `netbox:*` process but `:initialization`
  | stopNetbox
  -- `dropdb -f`, `createdb` and `GRANT ALL PRIVILEGES` for `args.postgresDB`
  | dropdb
  | createdb
  | grantPrivileges
  -- `psql` fed the text of the backup
  | loadDump
  -- `UPDATE ipam_prefix ...` and `TRUNCATE users_user CASCADE`, whose argument lists hold the
  -- set literal `{args.postgresUser}` where the other `psql` commands hold the string
  | migrateVrfNames
  | truncateUsers
  -- `supervisorctl start` for the processes `stopNetbox` stopped
  | startNetbox
  -- `manage.py` run by NetBox's virtualenv Python
  | manage (operation : ManageOperation)
  -- `malcolm_utils.RemoveEmptyFolders(mediaPath, removeRoot=False)`, then
  -- `tarfile.open(mediaFileName)` and `extractall(mediaPath)`
  | removeEmptyFolders
  | extractMedia
  deriving DecidableEq, Repr

/-- What the block's calls give back: `run_process`'s exit code and output lines, or `none` when
it raises; whether the backup is read (`magic.from_file`, then `gzip.open` or `open`, and
`read`), `pushd` into the directory of `manage.py` returns and the superuser script is read;
`os.path.isfile`; `os.path.isdir(mediaPath)`; and whether the two media calls return. -/
structure RestoreEnv where
  runProcess : RestoreCommand → Option (Int × List String)
  readDump : Bool
  enterManageDir : Bool
  readSuperuserScript : Bool
  isFile : String → Bool
  mediaDirIsDir : Bool
  removeEmptyFolders : Bool
  extractMedia : Bool

/-- An exception that ends the block: the two it raises itself after `createdb` and after the
load, with the exit code and output, or one from a call. -/
inductive RestoreError
  | createDatabase (err : Int) (results : List String)
  | loadDatabase (err : Int) (results : List String)
  | raised
  deriving DecidableEq, Repr

/-- The calls that returned so far, in order, and `preloadDatabaseSuccess`. -/
structure RestoreRun where
  commands : List RestoreCommand
  success : Bool
  deriving DecidableEq, Repr

def RestoreRun.ran (r : RestoreRun) (cs : List RestoreCommand) : RestoreRun :=
  { r with commands := r.commands ++ cs }

@[simp] theorem RestoreRun.ran_commands (r : RestoreRun) (cs : List RestoreCommand) :
    (r.ran cs).commands = r.commands ++ cs := rfl

@[simp] theorem RestoreRun.ran_success (r : RestoreRun) (cs : List RestoreCommand) :
    (r.ran cs).success = r.success := rfl

@[simp] theorem RestoreRun.mk_ran (cs ds : List RestoreCommand) (success : Bool) :
    (RestoreRun.mk cs success).ran ds = ⟨cs ++ ds, success⟩ := rfl

@[simp] theorem RestoreRun.ran_nil (r : RestoreRun) : r.ran [] = r := by
  simp [RestoreRun.ran]

@[simp] theorem RestoreRun.ran_ran (r : RestoreRun) (cs ds : List RestoreCommand) :
    (r.ran cs).ran ds = r.ran (cs ++ ds) := by
  simp [RestoreRun.ran]

/-- The block: an exception ends it and keeps what ran before. -/
abbrev RestoreM := ExceptT RestoreError (StateM RestoreRun)

namespace RestoreM

variable {α β : Type}

@[simp] theorem run_pure (a : α) (r : RestoreRun) :
    (pure a : RestoreM α).run.run r = (.ok a, r) := rfl

@[simp] theorem run_throw (e : RestoreError) (r : RestoreRun) :
    (throw e : RestoreM α).run.run r = (.error e, r) := rfl

@[simp] theorem run_modify (f : RestoreRun → RestoreRun) (r : RestoreRun) :
    (modify f : RestoreM Unit).run.run r = (.ok (), f r) := rfl

@[simp] theorem run_bind (x : RestoreM α) (g : α → RestoreM β) (r : RestoreRun) :
    (x >>= g).run.run r = match x.run.run r with
      | (.ok a, r') => (g a).run.run r'
      | (.error e, r') => (.error e, r') := by
  simp only [ExceptT.run_bind]
  show StateT.run (x.run >>= _) r = _
  simp only [StateT.run_bind]
  rcases x.run.run r with ⟨_ | _, _⟩ <;> rfl

@[simp] theorem run_tryCatch (x : RestoreM α) (h : RestoreError → RestoreM α) (r : RestoreRun) :
    (tryCatch x h : RestoreM α).run.run r = match x.run.run r with
      | (.ok a, r') => (.ok a, r')
      | (.error e, r') => (h e).run.run r' := by
  show StateT.run (ExceptT.tryCatch x h).run r = _
  simp only [ExceptT.tryCatch, ExceptT.run_mk, StateT.run_bind]
  show (x.run.run r >>= _) = _
  rcases x.run.run r with ⟨_ | _, _⟩ <;> rfl

end RestoreM

/-- `os.path.splitext(p)[0]` (POSIX): `p` without the part from the last `.` of its last
component, unless that component holds only dots before it. -/
def splitextRoot (p : String) : String :=
  let rs := p.toList.reverse
  let ext := rs.takeWhile fun c => c != '.' && c != '/'
  match rs.drop ext.length with
  | '.' :: rest => if (rest.takeWhile (· != '/')).any (· != '.') then String.mk rest.reverse else p
  | _ => p

/-- `mediaFileName` (`netbox_init.py:684-685`). -/
def mediaFileName (preloadDatabaseFile : String) : String :=
  splitextRoot preloadDatabaseFile ++ ".media.tar.gz"

example : mediaFileName "/x/..gz" = "/x/..gz.media.tar.gz" := by decide

section Block

variable (env : RestoreEnv)

/-- `err, results = malcolm_utils.run_process(cmd, ...)`. -/
def runProcess (c : RestoreCommand) : RestoreM (Int × List String) :=
  match env.runProcess c with
  | some out => do
    modify (RestoreRun.ran · [c])
    pure out
  | none => throw .raised

/-- A command whose failure the block only logs. -/
def runLogged (c : RestoreCommand) : RestoreM Unit := do
  let _ ← runProcess env c
  pure ()

/-- A call that returns or raises: opening a file, `pushd`. -/
def require (ok : Bool) : RestoreM Unit :=
  if ok then pure () else throw .raised

/-- A library call of the media restore, recorded when it returns. -/
def libraryCall (ok : Bool) (c : RestoreCommand) : RestoreM Unit := do
  require ok
  modify (RestoreRun.ran · [c])

@[simp] theorem run_runProcess (c : RestoreCommand) (r : RestoreRun) :
    (runProcess env c).run.run r = match env.runProcess c with
      | some out => (.ok out, r.ran [c])
      | none => (.error .raised, r) := by
  unfold runProcess; cases env.runProcess c <;> rfl

@[simp] theorem run_runLogged (c : RestoreCommand) (r : RestoreRun) :
    (runLogged env c).run.run r = match env.runProcess c with
      | some _ => (.ok (), r.ran [c])
      | none => (.error .raised, r) := by
  simp only [runLogged, RestoreM.run_bind, run_runProcess]
  cases env.runProcess c <;> rfl

@[simp] theorem run_require (ok : Bool) (r : RestoreRun) :
    (require ok).run.run r = if ok then (.ok (), r) else (.error .raised, r) := by
  unfold require; split <;> rfl

@[simp] theorem run_libraryCall (ok : Bool) (c : RestoreCommand) (r : RestoreRun) :
    (libraryCall ok c).run.run r = if ok then (.ok (), r.ran [c]) else (.error .raised, r) := by
  cases ok <;> simp [libraryCall]

/-- `netbox_init.py:534-573`: drop the database, create a new one and grant privileges on it. -/
def recreateDatabase : RestoreM Unit := do
  runLogged env .dropdb
  let (err, results) ← runProcess env .createdb
  if err ≠ 0 then throw (.createDatabase err results)
  runLogged env .grantPrivileges

/-- `netbox_init.py:575-592`: load the dump, the one place `preloadDatabaseSuccess` is set. -/
def loadDatabase : RestoreM Unit := do
  require env.readDump
  let (err, results) ← runProcess env .loadDump
  if err = 0 ∧ results ≠ [] then modify fun r => { r with success := true }
  else throw (.loadDatabase err results)

/-- `netbox_init.py:594-631`: the VRF name migration, the `users_user` truncation, and the
restart of the processes. -/
def restartNetbox : RestoreM Unit := do
  runLogged env .migrateVrfNames
  runLogged env .truncateUsers
  runLogged env .startNetbox

/-- `netbox_init.py:633-681`: migrations if needed, then the superuser script. -/
def runMigrations : RestoreM Unit := do
  require env.enterManageDir
  let (err, _) ← runProcess env (.manage .migrateCheck)
  if err ≠ 0 then
    for operation in migrationOperations do
      runLogged env (.manage operation)
  require env.readSuperuserScript
  runLogged env (.manage .shell)

/-- `netbox_init.py:683-694`: when the archive named after the backup and the media directory
both exist, the directory's empty subdirectories are removed and the archive is extracted into
it; the inner `try` only logs. -/
def restoreMedia (preloadDatabaseFile : String) : RestoreM Unit := do
  if env.isFile (mediaFileName preloadDatabaseFile) && env.mediaDirIsDir then
    try
      libraryCall env.removeEmptyFolders .removeEmptyFolders
      libraryCall env.extractMedia .extractMedia
    catch _ => pure ()

/-- The body of the block's `try` up to the media (`netbox_init.py:519-681`), the stop of the
processes first (`netbox_init.py:524-532`). -/
def restoreDatabase : RestoreM Unit := do
  runLogged env .stopNetbox
  recreateDatabase env
  loadDatabase env
  restartNetbox env
  runMigrations env

/-- The body of the block's `try` (`netbox_init.py:519-694`). -/
def restoreBlock (preloadDatabaseFile : String) : RestoreM Unit := do
  restoreDatabase env
  restoreMedia env preloadDatabaseFile

/-- What the block ran and `preloadDatabaseSuccess`, after its `except` ends it quietly. -/
def restore (preloadDatabaseFile : String) : RestoreRun :=
  ((restoreBlock env preloadDatabaseFile).run.run ⟨[], false⟩).2

end Block

section Outcome

variable (env : RestoreEnv)

/-! ### What the oracle lets each step do

`Stops`, `Recreates`, `Loads`, `Restarts` and `Migrates` say that every call of a step returns
(and that `createdb` and the load succeed); `RestoresDatabase` that all of them do. -/

def Stops : Prop :=
  (env.runProcess .stopNetbox).isSome

def Recreates : Prop :=
  (env.runProcess .dropdb).isSome ∧
    (∃ results, env.runProcess .createdb = some (0, results)) ∧
      (env.runProcess .grantPrivileges).isSome

def Loads : Prop :=
  env.readDump ∧ ∃ results, results ≠ [] ∧ env.runProcess .loadDump = some (0, results)

def Restarts : Prop :=
  (env.runProcess .migrateVrfNames).isSome ∧ (env.runProcess .truncateUsers).isSome ∧
    (env.runProcess .startNetbox).isSome

def Migrates : Prop :=
  env.enterManageDir ∧
    (∃ out, env.runProcess (.manage .migrateCheck) = some out ∧
      (out.1 ≠ 0 → ∀ op ∈ migrationOperations, (env.runProcess (.manage op)).isSome)) ∧
    env.readSuperuserScript ∧ (env.runProcess (.manage .shell)).isSome

/-- The media calls that return, when the media restore runs. -/
def mediaCalls (preloadDatabaseFile : String) : List RestoreCommand :=
  if env.isFile (mediaFileName preloadDatabaseFile) && env.mediaDirIsDir && env.removeEmptyFolders
  then .removeEmptyFolders :: if env.extractMedia then [.extractMedia] else []
  else []

/-- `m` raised from `r` after running calls that satisfy `P`. -/
def Raises {α : Type} (P : RestoreCommand → Prop) (m : RestoreM α) (r : RestoreRun) : Prop :=
  ∃ e cs, (∀ c ∈ cs, P c) ∧ m.run.run r = (.error e, r.ran cs)

/-- Whatever its calls return, `m` only appends calls that satisfy `P`, and keeps
`preloadDatabaseSuccess`. -/
def Appends {α : Type} (P : RestoreCommand → Prop) (m : RestoreM α) : Prop :=
  ∀ r, ∃ cs, (∀ c ∈ cs, P c) ∧ (m.run.run r).2 = r.ran cs

/-- Whatever ran before, `m` returns exactly when `P` holds. -/
def ReturnsIff {α : Type} (P : Prop) (m : RestoreM α) : Prop :=
  ∀ r, (∃ a, (m.run.run r).1 = .ok a) ↔ P

variable {env}

section Frames

variable {α β : Type} {r : RestoreRun} {c : RestoreCommand} {P : RestoreCommand → Prop}

theorem run_runProcess_of_some {out : Int × List String} (h : env.runProcess c = some out)
    (r : RestoreRun) : (runProcess env c).run.run r = (.ok out, r.ran [c]) := by
  simp [h]

theorem run_runLogged_of_isSome (h : (env.runProcess c).isSome) (r : RestoreRun) :
    (runLogged env c).run.run r = (.ok (), r.ran [c]) := by
  obtain ⟨o, e⟩ := Option.isSome_iff_exists.mp h
  simp [e]

theorem Raises.bind {m : RestoreM α} (hm : Raises P m r) (g : α → RestoreM β) :
    Raises P (m >>= g) r := by
  obtain ⟨e, cs, hcs, he⟩ := hm
  exact ⟨e, cs, hcs, by simp [he]⟩

theorem Raises.bind_ok {m : RestoreM α} {g : α → RestoreM β} {a : α}
    {cs : List RestoreCommand} (hm : m.run.run r = (.ok a, r.ran cs))
    (hcs : ∀ c ∈ cs, P c) (hg : Raises P (g a) (r.ran cs)) : Raises P (m >>= g) r := by
  obtain ⟨e, ds, hds, he⟩ := hg
  exact ⟨e, cs ++ ds, fun d hd => (List.mem_append.mp hd).elim (hcs d) (hds d), by simp [hm, he]⟩

theorem raises_throw (e : RestoreError) : Raises P (throw e : RestoreM α) r :=
  ⟨e, [], List.forall_mem_nil _, by simp⟩

theorem raises_require : Raises P (require false) r :=
  ⟨.raised, [], List.forall_mem_nil _, by simp⟩

theorem raises_runProcess (h : env.runProcess c = none) : Raises P (runProcess env c) r :=
  ⟨.raised, [], List.forall_mem_nil _, by simp [h]⟩

theorem raises_runLogged (h : env.runProcess c = none) : Raises P (runLogged env c) r :=
  (raises_runProcess h).bind _

theorem appends_pure (a : α) : Appends P (pure a : RestoreM α) :=
  fun r => ⟨[], by simp, by simp⟩

theorem appends_require (ok : Bool) : Appends P (require ok) :=
  fun r => ⟨[], by simp, by cases ok <;> simp⟩

theorem appends_runProcess (hc : P c) : Appends P (runProcess env c) := fun r => by
  cases h : env.runProcess c
  · exact ⟨[], by simp, by simp [h]⟩
  · exact ⟨[c], by simpa using hc, by simp [h]⟩

theorem Appends.bind {m : RestoreM α} {g : α → RestoreM β} (hm : Appends P m)
    (hg : ∀ a, Appends P (g a)) : Appends P (m >>= g) := fun r => by
  obtain ⟨cs, hcs, he⟩ := hm r
  rcases hx : m.run.run r with ⟨_ | a, r'⟩
  · exact ⟨cs, hcs, by rw [hx] at he; simp [hx, he]⟩
  · obtain ⟨ds, hds, hd⟩ := hg a r'
    rw [hx] at he
    subst he
    exact ⟨cs ++ ds, fun d hd' => (List.mem_append.mp hd').elim (hcs d) (hds d),
      by simp [hx, hd]⟩

theorem appends_runLogged (hc : P c) : Appends P (runLogged env c) :=
  (appends_runProcess hc).bind fun _ => appends_pure _

theorem appends_forIn {γ : Type} (f : γ → PUnit → RestoreM (ForInStep PUnit))
    (hf : ∀ x b, Appends P (f x b)) (l : List γ) (b : PUnit) : Appends P (forIn l b f) := by
  induction l generalizing b with
  | nil => exact appends_pure b
  | cons x l ih =>
    rw [List.forIn_cons]
    refine (hf x b).bind fun step => ?_
    cases step with
    | done b => exact appends_pure b
    | yield b => exact ih b

variable {Q : Prop}

theorem ReturnsIff.of_iff {Q' : Prop} {m : RestoreM α} (hm : ReturnsIff Q m) (h : Q ↔ Q') :
    ReturnsIff Q' m :=
  fun r => (hm r).trans h

theorem returnsIff_pure (a : α) : ReturnsIff True (pure a : RestoreM α) :=
  fun r => by simp

theorem returnsIff_require (ok : Bool) : ReturnsIff (ok = true) (require ok) :=
  fun r => by cases ok <;> simp

theorem returnsIff_runLogged (env : RestoreEnv) (c : RestoreCommand) :
    ReturnsIff (env.runProcess c).isSome (runLogged env c) :=
  fun r => by cases h : env.runProcess c <;> simp [h]

theorem ReturnsIff.bind {Q' : Prop} {m : RestoreM α} {g : α → RestoreM β} (hm : ReturnsIff Q m)
    (hg : ∀ a, ReturnsIff Q' (g a)) : ReturnsIff (Q ∧ Q') (m >>= g) := fun r => by
  have hq := hm r
  rcases hx : m.run.run r with ⟨_ | a, r'⟩ <;> rw [hx] at hq
  · have hQ : ¬ Q := fun h => by obtain ⟨_, h'⟩ := hq.mpr h; cases h'
    simp [hx, hQ]
  · have hQ : Q := hq.mp ⟨a, rfl⟩
    simp only [RestoreM.run_bind, hx, hg a r', hQ, true_and]

theorem ReturnsIff.bind_some {Q : Prop} {g : Int × List String → RestoreM β}
    {out : Int × List String} (h : env.runProcess c = some out) (hg : ReturnsIff Q (g out)) :
    ReturnsIff Q (runProcess env c >>= g) :=
  fun r => by simpa [h] using hg (r.ran [c])

theorem returnsIff_bind_none {g : Int × List String → RestoreM β}
    (h : env.runProcess c = none) : ReturnsIff False (runProcess env c >>= g) :=
  fun r => by simp [h]

/-- A loop whose body only runs `g` returns when `g` returns for every element. -/
theorem returnsIff_forIn {γ : Type} (g : γ → RestoreM PUnit) (Q : γ → Prop)
    (hg : ∀ x, ReturnsIff (Q x) (g x)) (l : List γ) :
    ReturnsIff (∀ x ∈ l, Q x) (forIn l PUnit.unit fun x _ => do
      g x
      pure (ForInStep.yield PUnit.unit)) := by
  induction l with
  | nil => exact (returnsIff_pure _).of_iff (by simp)
  | cons x l ih =>
    rw [List.forIn_cons]
    simp only [bind_assoc, pure_bind]
    exact ((hg x).bind fun _ => ih).of_iff (by simp)

end Frames

/-! ### Each step of the block -/

theorem recreateDatabase_of_recreates (h : Recreates env) (r : RestoreRun) :
    (recreateDatabase env).run.run r = (.ok (), r.ran [.dropdb, .createdb, .grantPrivileges]) := by
  obtain ⟨h2, ⟨results, e3⟩, h4⟩ := h
  simp [recreateDatabase, run_runLogged_of_isSome h2, e3, run_runLogged_of_isSome h4]

theorem recreateDatabase_raises (h : ¬ Recreates env) (r : RestoreRun) :
    Raises (· ∈ [.dropdb, .createdb, .grantPrivileges]) (recreateDatabase env) r := by
  unfold recreateDatabase
  rcases e2 : env.runProcess .dropdb with _ | o2
  · exact (raises_runLogged e2).bind _
  refine .bind_ok (run_runLogged_of_isSome (by simp [e2]) r) (by decide) ?_
  rcases e3 : env.runProcess .createdb with _ | ⟨err, results⟩
  · exact (raises_runProcess e3).bind _
  refine .bind_ok (run_runProcess_of_some e3 _) (by decide) ?_
  by_cases herr : err = 0
  · rcases e4 : env.runProcess .grantPrivileges with _ | o4
    · simpa only [herr, ne_eq, not_true_eq_false, if_false, pure_bind]
        using raises_runLogged e4
    · exact absurd ⟨by simp [e2], ⟨results, by rw [e3, herr]⟩, by simp [e4]⟩ h
  · simpa only [herr, ne_eq, not_false_eq_true, if_true] using (raises_throw _).bind _

theorem loadDatabase_of_loads (h : Loads env) (r : RestoreRun) :
    (loadDatabase env).run.run r = (.ok (), { r.ran [.loadDump] with success := true }) := by
  obtain ⟨h1, results, hne, e2⟩ := h
  simp [loadDatabase, h1, e2, hne]

theorem loadDatabase_raises (h : ¬ Loads env) (r : RestoreRun) :
    Raises (· ∈ [.loadDump]) (loadDatabase env) r := by
  unfold loadDatabase
  cases h1 : env.readDump
  · exact raises_require.bind _
  simp only [require, if_true, pure_bind]
  rcases e2 : env.runProcess .loadDump with _ | ⟨err, results⟩
  · exact (raises_runProcess e2).bind _
  refine .bind_ok (run_runProcess_of_some e2 r) (by decide) ?_
  by_cases hok : err = 0 ∧ results ≠ []
  · exact absurd ⟨h1, results, hok.2, by rw [e2, hok.1]⟩ h
  · simpa only [hok, if_false] using raises_throw _

theorem restartNetbox_of_restarts (h : Restarts env) (r : RestoreRun) :
    (restartNetbox env).run.run r =
      (.ok (), r.ran [.migrateVrfNames, .truncateUsers, .startNetbox]) := by
  simp [restartNetbox, run_runLogged_of_isSome h.1, run_runLogged_of_isSome h.2.1,
    run_runLogged_of_isSome h.2.2]

theorem restartNetbox_raises (h : ¬ Restarts env) (r : RestoreRun) :
    Raises (· ∈ [.migrateVrfNames, .truncateUsers]) (restartNetbox env) r := by
  unfold restartNetbox
  rcases e1 : env.runProcess .migrateVrfNames with _ | o1
  · exact (raises_runLogged e1).bind _
  refine .bind_ok (run_runLogged_of_isSome (by simp [e1]) r) (by decide) ?_
  rcases e2 : env.runProcess .truncateUsers with _ | o2
  · exact (raises_runLogged e2).bind _
  refine .bind_ok (run_runLogged_of_isSome (by simp [e2]) _) (by decide) ?_
  rcases e3 : env.runProcess .startNetbox with _ | o3
  · exact raises_runLogged e3
  · exact absurd ⟨by simp [e1], by simp [e2], by simp [e3]⟩ h

/-- The migrations and the superuser script run `manage.py` only. -/
theorem runMigrations_appends : Appends (fun c => ∃ op, c = .manage op) (runMigrations env) := by
  unfold runMigrations
  have superuser : Appends (fun c => ∃ op, c = .manage op)
      (require env.readSuperuserScript >>= fun _ => runLogged env (.manage .shell)) :=
    (appends_require _).bind fun _ => appends_runLogged ⟨_, rfl⟩
  refine (appends_require _).bind fun _ => (appends_runProcess ⟨_, rfl⟩).bind fun ⟨err, _⟩ => ?_
  dsimp only
  split
  · exact (appends_forIn _ (fun op _ => (appends_runLogged ⟨op, rfl⟩).bind fun _ =>
      appends_pure _) _ _).bind fun _ => (appends_pure _).bind fun _ => superuser
  · exact (appends_pure _).bind fun _ => superuser

theorem runMigrations_returnsIff : ReturnsIff (Migrates env) (runMigrations env) := by
  have superuser := (returnsIff_require env.readSuperuserScript).bind fun _ =>
    returnsIff_runLogged env (.manage .shell)
  have loop := returnsIff_forIn (fun op => runLogged env (.manage op))
    (fun op => (env.runProcess (.manage op)).isSome) (fun op => returnsIff_runLogged env _)
    migrationOperations
  unfold runMigrations
  rcases e2 : env.runProcess (.manage .migrateCheck) with _ | ⟨err, out⟩
  · exact ((returnsIff_require _).bind fun _ => returnsIff_bind_none e2).of_iff
      (by simp [Migrates, e2])
  refine ((returnsIff_require _).bind fun _ => (ReturnsIff.bind_some e2 ?_ :
    ReturnsIff ((err ≠ 0 → ∀ op ∈ migrationOperations, (env.runProcess (.manage op)).isSome) ∧
      env.readSuperuserScript = true ∧ (env.runProcess (.manage .shell)).isSome) _)).of_iff ?_
  · dsimp only
    split
    · exact (loop.bind fun _ => (returnsIff_pure _).bind fun _ => superuser).of_iff (by simp [*])
    · exact ((returnsIff_pure _).bind fun _ => superuser).of_iff (by simp [*])
  · simp [Migrates, e2]

theorem run_restoreMedia (preloadDatabaseFile : String) (r : RestoreRun) :
    (restoreMedia env preloadDatabaseFile).run.run r =
      (.ok (), r.ran (mediaCalls env preloadDatabaseFile)) := by
  unfold restoreMedia mediaCalls
  cases env.isFile (mediaFileName preloadDatabaseFile) <;> cases env.mediaDirIsDir <;>
    cases env.removeEmptyFolders <;> cases env.extractMedia <;> simp

/-! ### The whole block, by how far it gets -/

theorem restore_of_not_stops (h : ¬ Stops env) (file : String) : restore env file = ⟨[], false⟩ := by
  simp [restore, restoreBlock, restoreDatabase, Option.not_isSome_iff_eq_none.mp h]

theorem restore_of_not_recreates (h1 : Stops env) (h : ¬ Recreates env) (file : String) :
    ∃ cs, (∀ c ∈ cs, c ∈ [.dropdb, .createdb, .grantPrivileges]) ∧
      restore env file = ⟨.stopNetbox :: cs, false⟩ := by
  obtain ⟨e, cs, hcs, he⟩ := recreateDatabase_raises h ⟨[.stopNetbox], false⟩
  exact ⟨cs, hcs, by simp [restore, restoreBlock, restoreDatabase, run_runLogged_of_isSome h1, he]⟩

theorem restore_of_not_loads (h1 : Stops env) (h2 : Recreates env) (h : ¬ Loads env)
    (file : String) :
    ∃ cs, (∀ c ∈ cs, c ∈ [.loadDump]) ∧
      restore env file = ⟨[.stopNetbox, .dropdb, .createdb, .grantPrivileges] ++ cs, false⟩ := by
  obtain ⟨e, cs, hcs, he⟩ :=
    loadDatabase_raises h ⟨[.stopNetbox, .dropdb, .createdb, .grantPrivileges], false⟩
  exact ⟨cs, hcs, by simp [restore, restoreBlock, restoreDatabase, run_runLogged_of_isSome h1,
    recreateDatabase_of_recreates h2, he]⟩

theorem restore_of_not_restarts (h1 : Stops env) (h2 : Recreates env) (h3 : Loads env)
    (h : ¬ Restarts env) (file : String) :
    ∃ cs, (∀ c ∈ cs, c ∈ [.migrateVrfNames, .truncateUsers]) ∧ restore env file =
      ⟨[.stopNetbox, .dropdb, .createdb, .grantPrivileges, .loadDump] ++ cs, true⟩ := by
  obtain ⟨e, cs, hcs, he⟩ := restartNetbox_raises h
    ⟨[.stopNetbox, .dropdb, .createdb, .grantPrivileges, .loadDump], true⟩
  exact ⟨cs, hcs, by simp [restore, restoreBlock, restoreDatabase, run_runLogged_of_isSome h1,
    recreateDatabase_of_recreates h2, loadDatabase_of_loads h3, he]⟩

theorem restore_of_restarts (h1 : Stops env) (h2 : Recreates env) (h3 : Loads env)
    (h4 : Restarts env) (file : String) :
    ∃ cs, (∀ c ∈ cs, ∃ op, c = .manage op) ∧
      (Migrates env → restore env file = ⟨[.stopNetbox, .dropdb, .createdb, .grantPrivileges,
        .loadDump, .migrateVrfNames, .truncateUsers, .startNetbox] ++ cs ++ mediaCalls env file,
        true⟩) ∧
      (¬ Migrates env → restore env file = ⟨[.stopNetbox, .dropdb, .createdb, .grantPrivileges,
        .loadDump, .migrateVrfNames, .truncateUsers, .startNetbox] ++ cs, true⟩) := by
  obtain ⟨cs, hcs, he⟩ := @runMigrations_appends env ⟨[.stopNetbox, .dropdb, .createdb,
    .grantPrivileges, .loadDump, .migrateVrfNames, .truncateUsers, .startNetbox], true⟩
  have hret := @runMigrations_returnsIff env ⟨[.stopNetbox, .dropdb, .createdb,
    .grantPrivileges, .loadDump, .migrateVrfNames, .truncateUsers, .startNetbox], true⟩
  refine ⟨cs, hcs, ?_⟩
  simp only [restore, restoreBlock, restoreDatabase, RestoreM.run_bind, run_runLogged_of_isSome h1,
    recreateDatabase_of_recreates h2, loadDatabase_of_loads h3, restartNetbox_of_restarts h4,
    run_restoreMedia, RestoreRun.mk_ran, RestoreRun.ran_ran, List.nil_append, List.cons_append]
  rcases hx : (runMigrations env).run.run ⟨[.stopNetbox, .dropdb, .createdb, .grantPrivileges,
    .loadDump, .migrateVrfNames, .truncateUsers, .startNetbox], true⟩ with ⟨_ | _, r⟩ <;>
    rw [hx] at he hret <;> subst he
  · exact ⟨fun hm => absurd (hret.mpr hm) (by simp), fun _ => by simp⟩
  · exact ⟨fun _ => by simp, fun hm => absurd (hret.mp ⟨_, rfl⟩) hm⟩

/-- A run that does not get through the load leaves `preloadDatabaseSuccess` false, and neither
starts the processes again nor restores the media. -/
theorem restore_of_not_loaded (h : ¬ (Stops env ∧ Recreates env ∧ Loads env)) (file : String) :
    (restore env file).success = false ∧ .startNetbox ∉ (restore env file).commands ∧
      (.stopNetbox ∈ (restore env file).commands ↔ Stops env) ∧
      .removeEmptyFolders ∉ (restore env file).commands ∧
      .extractMedia ∉ (restore env file).commands := by
  by_cases h1 : Stops env
  · by_cases h2 : Recreates env
    · obtain ⟨cs, hcs, he⟩ := restore_of_not_loads h1 h2 (fun h3 => h ⟨h1, h2, h3⟩) file
      simp [he, h1, fun c => mt (hcs c)]
    · obtain ⟨cs, hcs, he⟩ := restore_of_not_recreates h1 h2 file
      simp [he, h1, fun c => mt (hcs c)]
  · simp [restore_of_not_stops h1, h1]

/-- A run that gets through the load sets `preloadDatabaseSuccess`, and starts the processes
again exactly when the three calls after the load return. -/
theorem restore_of_loaded (h1 : Stops env) (h2 : Recreates env) (h3 : Loads env) (file : String) :
    (restore env file).success = true ∧
      (.startNetbox ∈ (restore env file).commands ↔ Restarts env) ∧
      .stopNetbox ∈ (restore env file).commands := by
  by_cases h4 : Restarts env
  · obtain ⟨cs, -, hm, hnm⟩ := restore_of_restarts h1 h2 h3 h4 file
    by_cases h5 : Migrates env
    · simp [hm h5, h4]
    · simp [hnm h5, h4]
  · obtain ⟨cs, hcs, he⟩ := restore_of_not_restarts h1 h2 h3 h4 file
    simp [he, h4, fun c => mt (hcs c)]

theorem restore_success_iff (file : String) :
    (restore env file).success = true ↔ Stops env ∧ Recreates env ∧ Loads env := by
  by_cases h : Stops env ∧ Recreates env ∧ Loads env
  · exact iff_of_true (restore_of_loaded h.1 h.2.1 h.2.2 file).1 h
  · simp [(restore_of_not_loaded h file).1, h]

variable (env) in
/-- The block sets `preloadDatabaseSuccess` exactly when every call up to the load returns,
`createdb` exits 0 and `psql` loads the dump with exit code 0 and output. It starts the NetBox
processes again exactly when, in addition, the three calls after the load return, and it has
stopped them exactly when that call returned. -/
theorem restore_outcome (preloadDatabaseFile : String) :
    ((restore env preloadDatabaseFile).success = true ↔ Stops env ∧ Recreates env ∧ Loads env) ∧
      (.startNetbox ∈ (restore env preloadDatabaseFile).commands ↔
        Stops env ∧ Recreates env ∧ Loads env ∧ Restarts env) ∧
      (.stopNetbox ∈ (restore env preloadDatabaseFile).commands ↔ Stops env) := by
  by_cases h : Stops env ∧ Recreates env ∧ Loads env
  · obtain ⟨hs, hst, hstop⟩ := restore_of_loaded h.1 h.2.1 h.2.2 preloadDatabaseFile
    exact ⟨iff_of_true hs h, by simp [hst, h], iff_of_true hstop h.1⟩
  · obtain ⟨hs, hst, hstop, -⟩ := restore_of_not_loaded h preloadDatabaseFile
    exact ⟨by simp [hs, h], iff_of_false hst fun ⟨h1, h2, h3, _⟩ => h ⟨h1, h2, h3⟩, hstop⟩

end Outcome

/-- `os.path.isfile(preloadDatabaseFile)` (`netbox_init.py:517`) on the snapshot the selection
read: the named file's answer when the selection kept it, otherwise whether it chose a candidate
(candidates are regular files, and `''` is none). -/
def preloadIsFile (v : PreloadView) : Bool :=
  if !v.backupIsFile && v.dirIsDir then !(preloadFiles v.entries).isEmpty else v.backupIsFile

/-- The restore, when `main` runs it, and whether the API population and the import of the
device-type library follow (`netbox_init.py:700` and `951` test the same condition). -/
structure PreloadOutcome where
  restored : Option RestoreRun
  populate : Bool

/-- `netbox_init.py:504-700`: choose the backup, restore it when it is a regular file, and
populate through the API when `not preloadDatabaseSuccess and not args.preloadBackupFile`. -/
def preloadPhase (preloadBackupFile : String) (v : PreloadView) (env : RestoreEnv) :
    PreloadOutcome :=
  let restored :=
    if preloadIsFile v then some (restore env (preloadDatabaseFile preloadBackupFile v)) else none
  let preloadDatabaseSuccess := (restored.map RestoreRun.success).getD false
  ⟨restored, !preloadDatabaseSuccess && preloadBackupFile == ""⟩

theorem preloadPhase_populate_iff (preloadBackupFile : String) (v : PreloadView)
    (env : RestoreEnv) :
    (preloadPhase preloadBackupFile v env).populate = true ↔ preloadBackupFile = "" ∧
      (preloadIsFile v = true → ¬ (Stops env ∧ Recreates env ∧ Loads env)) := by
  rw [← restore_success_iff (preloadDatabaseFile preloadBackupFile v)]
  cases h : preloadIsFile v <;> simp [preloadPhase, h, and_comm]

/-- `psql` rejects the dump; every other call returns with exit code 0, and there is no media
archive. -/
def failedLoad : RestoreEnv :=
  ⟨fun c => if c = .loadDump then some (1, ["ERROR"]) else some (0, []), true, true, true,
    fun _ => false, false, true, true⟩

/-- When `main` populates through the API after a restore, the restore did not get through the
load, never started the NetBox processes again, and had stopped them whenever that call
returned. -/
theorem preloadPhase_populates_stopped (preloadBackupFile : String) (v : PreloadView)
    (env : RestoreEnv) (hpop : (preloadPhase preloadBackupFile v env).populate = true)
    (hrun : preloadIsFile v = true) :
    (preloadPhase preloadBackupFile v env).restored =
        some (restore env (preloadDatabaseFile preloadBackupFile v)) ∧
      ¬ (Stops env ∧ Recreates env ∧ Loads env) ∧
      .startNetbox ∉ (restore env (preloadDatabaseFile preloadBackupFile v)).commands ∧
      (.stopNetbox ∈ (restore env (preloadDatabaseFile preloadBackupFile v)).commands ↔
        Stops env) := by
  have hnl := ((preloadPhase_populate_iff preloadBackupFile v env).mp hpop).2 hrun
  have hr := restore_of_not_loaded hnl (preloadDatabaseFile preloadBackupFile v)
  exact ⟨by simp [preloadPhase, hrun], hnl, hr.2.1, hr.2.2.1⟩

theorem preloadPhase_populates_stopped_failedLoad :
    (preloadPhase "" twoBackups failedLoad).populate = true ∧ preloadIsFile twoBackups = true ∧
      (preloadPhase "" twoBackups failedLoad).restored =
        some (restore failedLoad (preloadDatabaseFile "" twoBackups)) ∧
      ¬ (Stops failedLoad ∧ Recreates failedLoad ∧ Loads failedLoad) ∧
      .startNetbox ∉ (restore failedLoad (preloadDatabaseFile "" twoBackups)).commands ∧
      (.stopNetbox ∈ (restore failedLoad (preloadDatabaseFile "" twoBackups)).commands ↔
        Stops failedLoad) :=
  ⟨by decide, by decide,
    preloadPhase_populates_stopped "" twoBackups failedLoad (by decide) (by decide)⟩

end NetboxInit.Preload
