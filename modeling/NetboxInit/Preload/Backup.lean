import NetboxInit.Python.Sort

/-!
# Choosing the database backup to preload (`netbox_init.py:504-515`)

`preloadDatabaseFile` starts as `args.preloadBackupFile`. When that is not a regular file and
`args.preloadDir` is a directory, `main` globs `*.gz` in the directory, keeps the regular files
whose path does not end in `.media.tar.gz`, sorts them with `list.sort(key=getmtime)` (ascending
and stable) and takes the first one, or `''` when none is left. The comment above the block says
it prefers the newest backup; the first element of an ascending sort is an oldest one.

A directory entry is given by its name. `glob` returns `os.path.join(args.preloadDir, name)`;
since `.media.tar.gz` holds no separator, that path ends in it exactly when the name does, and
the chosen path is modelled by the name.
-/

namespace NetboxInit.Preload
open NetboxInit.Python

/-- An entry of the preload directory: its name, `os.path.isfile` and `os.path.getmtime`. -/
structure DirEntry where
  name : String
  isFile : Bool
  mtime : Nat
  deriving DecidableEq, Repr

/-- What the block reads from the file system. -/
structure PreloadView where
  /-- `os.path.isfile(args.preloadBackupFile)`. -/
  backupIsFile : Bool
  /-- `os.path.isdir(args.preloadDir)`. -/
  dirIsDir : Bool
  /-- The directory's entries, in the order `glob` lists them. -/
  entries : List DirEntry

/-- `glob.glob(os.path.join(args.preloadDir, '*.gz'))`: `*` matches any name but one that starts
with a dot. -/
def globGz (entries : List DirEntry) : List DirEntry :=
  entries.filter fun e => endswith e.name ".gz" && !startswith e.name "."

/-- `preloadFiles` before the sort. -/
def preloadFiles (entries : List DirEntry) : List DirEntry :=
  ((globGz entries).filter DirEntry.isFile).filter fun x => !endswith x.name ".media.tar.gz"

/-- `preloadDatabaseFile` after `netbox_init.py:506-515`. -/
def preloadDatabaseFile (preloadBackupFile : String) (v : PreloadView) : String :=
  if !v.backupIsFile && v.dirIsDir then
    match sorted orderLt DirEntry.mtime (preloadFiles v.entries) with
    | .ok fs => (fs.head?.map DirEntry.name).getD ""
    | .error _ => ""
  else preloadBackupFile

theorem mem_preloadFiles (entries : List DirEntry) (f : DirEntry) :
    f ∈ preloadFiles entries ↔ f ∈ entries ∧ endswith f.name ".gz" ∧ !startswith f.name "." ∧
      f.isFile ∧ !endswith f.name ".media.tar.gz" := by
  simp only [preloadFiles, globGz, List.mem_filter, Bool.and_eq_true]
  tauto

/-- The block picks a backup with the least modification time among the candidates, and `''`
when there is none. -/
theorem preloadDatabaseFile_oldest (preloadBackupFile : String) (v : PreloadView)
    (hfile : v.backupIsFile = false) (hdir : v.dirIsDir = true) :
    (preloadFiles v.entries = [] → preloadDatabaseFile preloadBackupFile v = "") ∧
      (preloadFiles v.entries ≠ [] → ∃ f ∈ preloadFiles v.entries,
        preloadDatabaseFile preloadBackupFile v = f.name ∧
          ∀ g ∈ preloadFiles v.entries, f.mtime ≤ g.mtime) := by
  obtain ⟨fs, hfs, hmem, hleast⟩ := sorted_orderLt DirEntry.mtime (preloadFiles v.entries)
  have hsel : preloadDatabaseFile preloadBackupFile v = (fs.head?.map DirEntry.name).getD "" := by
    simp [preloadDatabaseFile, hfile, hdir, hfs]
  rw [hsel]
  cases fs with
  | nil => exact ⟨fun _ => rfl, fun hne => absurd (List.eq_nil_iff_forall_not_mem.mpr
      fun z hz => by simpa using (hmem z).mpr hz) hne⟩
  | cons f fs =>
    refine ⟨fun hnil => by simpa [hnil] using (hmem f).mp (List.mem_cons_self _ _), fun _ =>
      ⟨f, (hmem f).mp (List.mem_cons_self _ _), rfl, fun g hg => hleast f rfl g ((hmem g).mpr hg)⟩⟩

/-- Two backups, the older one listed first. -/
def twoBackups : PreloadView := ⟨false, true, [⟨"a.gz", true, 1⟩, ⟨"b.gz", true, 2⟩]⟩

theorem preloadDatabaseFile_oldest_twoBackups :
    twoBackups.backupIsFile = false ∧ twoBackups.dirIsDir = true ∧
      (preloadFiles twoBackups.entries = [] → preloadDatabaseFile "" twoBackups = "") ∧
      (preloadFiles twoBackups.entries ≠ [] → ∃ f ∈ preloadFiles twoBackups.entries,
        preloadDatabaseFile "" twoBackups = f.name ∧
          ∀ g ∈ preloadFiles twoBackups.entries, f.mtime ≤ g.mtime) :=
  ⟨rfl, rfl, preloadDatabaseFile_oldest "" twoBackups rfl rfl⟩

theorem preloadDatabaseFile_twoBackups :
    preloadFiles twoBackups.entries = [⟨"a.gz", true, 1⟩, ⟨"b.gz", true, 2⟩] ∧
      preloadDatabaseFile "" twoBackups = "a.gz" :=
  ⟨by decide, by decide⟩

end NetboxInit.Preload
