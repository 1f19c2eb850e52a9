import NetboxInit.Python.Dict

/-!
# The package installer gate (`netbox_init.py:96-166`, `netbox_init.py:379-407`)

`InstallPackageDirIfNeeded` runs `pip install --dry-run --report` on a directory and installs
for real only when the report lists a package that is not installed or newer than the installed
one; a failed dry run, or one that wrote no report, counts as "install". The report is read with
plain Python: `dryRunReport.get('install', [])` (only a `dict` has `get`), iteration over what
that gives, `deep_get` of `metadata.name` and `metadata.version`, a `dict` keyed by name (a
later item overwrites an earlier item's version), `Version(...)` on both versions, and `any`
over the list of passing *names*, which reads their truthiness. Neither the function nor the
loops of `main` that call it catch an exception.
-/

namespace NetboxInit.Install
open NetboxInit.Python

/-- A value `json.load` returns (numbers as integers); an object's members are in file order, and
the `dict` keeps the last value of a repeated key. -/
inductive Json
  | null
  | bool (b : Bool)
  | num (n : Int)
  | str (s : String)
  | arr (xs : List Json)
  | obj (members : List (String × Json))

/-- A hashable JSON scalar as a `dict` key: `True` and `False` hash and compare as `1` and
`0`. -/
inductive PyKey
  | none
  | int (n : Int)
  | str (s : String)
  deriving DecidableEq

def PyKey.truthy : PyKey → Bool
  | .none => false
  | .int n => n != 0
  | .str s => s != ""

namespace Json

/-- `v.get(k, default)`. -/
def get (v : Json) (k : String) (default : Json) : Except PyError Json :=
  match v with
  | .obj ms => .ok (((PyDict.ofList ms).get? k).getD default)
  | _ => .error .attributeError

/-- `for x in v`: a list gives its elements, a dict its keys, a string its characters. -/
def iter : Json → Except PyError (List Json)
  | .arr xs => .ok xs
  | .obj ms => .ok ((PyDict.ofList ms).keys.map .str)
  | .str s => .ok (s.data.map fun c => .str c.toString)
  | _ => .error .typeError

/-- `v` hashed as a `dict` key. -/
def key : Json → Except PyError PyKey
  | .null => .ok .none
  | .bool b => .ok (.int (if b then 1 else 0))
  | .num n => .ok (.int n)
  | .str s => .ok (.str s)
  | _ => .error .typeError

end Json

/-- Modelled from the spec: the report is read as "package name → version" through
`malcolm_utils.deep_get`, which src/ does not include. It walks the key path through dicts,
gives `None` when a key is missing or a value on the way is `None`, and calls `.get` on any
other value, which raises. -/
def deepGet : Json → List String → Except PyError Json
  | .null, _ => .ok .null
  | d, [] => .ok d
  | d, k :: ks => do deepGet (← d.get k .null) ks

/-- `packaging.version.Version`: parsing (`InvalidVersion` when it fails) and PEP 440 order. -/
structure VersionScheme where
  Version : Type
  parse : String → Option Version
  lt : Version → Version → Bool

/-- `Version(v)`; a value that is not a string raises `TypeError`. -/
def VersionScheme.ofJson (vs : VersionScheme) : Json → Except PyError vs.Version
  | .str s => match vs.parse s with
    | some v => .ok v
    | none => .error .invalidVersion
  | _ => .error .typeError

/-- An entry of `GetInstalledPackages`'s map (the `pip list` item; only `version` is read). -/
structure InstalledPackage where
  version : String

/-! ### The decision -/

/-- `report.get('install', [])`, iterated. -/
def installItems (report : Json) : Except PyError (List Json) := do
  (← report.get "install" (.arr [])).iter

/-- One step of the comprehension: the name, then the version, then the name hashed. -/
def installEntry (item : Json) : Except PyError (PyKey × Json) := do
  let name ← deepGet item ["metadata", "name"]
  let version ← deepGet item ["metadata", "version"]
  pure ((← name.key), version)

/-- `wouldInstallInfo`. -/
def wouldInstallInfo (report : Json) : Except PyError (PyDict PyKey Json) := do
  let pairs ← (← installItems report).mapM installEntry
  pure (PyDict.ofList pairs)

section Decision

variable (vs : VersionScheme) (installed : PyDict String InstalledPackage)

/-- `(package_name not in preinstalledPackagesDict) or (Version(new_version) >
Version(preinstalledPackagesDict[package_name]['version']))`. -/
def entryNeedsInstall (k : PyKey) (newVersion : Json) : Except PyError Bool :=
  match k with
  | .str s =>
    match installed.get? s with
    | none => .ok true
    | some p => do
      let a ← vs.ofJson newVersion
      let b ← vs.ofJson (.str p.version)
      pure (vs.lt b a)
  | _ => .ok true

/-- `[package_name for package_name, new_version in wouldInstallInfo.items() if ...]`. -/
def passingNames : List (PyKey × Json) → Except PyError (List PyKey)
  | [] => .ok []
  | (k, v) :: rest => do
    let c ← entryNeedsInstall vs installed k v
    let ns ← passingNames rest
    pure (if c then k :: ns else ns)

/-- `pluginNeedsInstall` after a dry run that succeeded and wrote `report`. -/
def needsInstallFromReport (report : Json) : Except PyError Bool := do
  let info ← wouldInstallInfo report
  pure ((← passingNames vs installed info.items).any PyKey.truthy)

/-- What the dry run left: its exit status and the JSON of the report file; `none` when
`os.path.isfile` finds no report, which reads the file as pip's own, so long as
`malcolm_utils.temporary_filename` does not create it before pip runs. -/
structure DryRun where
  err : Int
  report : Option Json

/-- Whether the real `pip install` ran, and the returned `installResult`. -/
structure InstallOutcome where
  ranInstall : Bool
  installResult : Bool

/-- `InstallPackageDirIfNeeded`, given the dry run and the exit status of the real install. -/
def installPackageDirIfNeeded (dryRun : DryRun) (installErr : Int) :
    Except PyError InstallOutcome := do
  let pluginNeedsInstall ←
    if dryRun.err = 0 then
      match dryRun.report with
      | some report => needsInstallFromReport vs installed report
      | none => pure true
    else pure true
  if pluginNeedsInstall then pure ⟨true, installErr == 0⟩ else pure ⟨false, false⟩

/-- A package directory with what pip does there. -/
structure PackageDir where
  path : String
  dryRun : DryRun
  installErr : Int

/-- The loop over package directories; the paths whose call returned true, in order. -/
def installDirs : List PackageDir → Except PyError (List String)
  | [] => .ok []
  | d :: ds => do
    let r ← installPackageDirIfNeeded vs installed d.dryRun d.installErr
    let rest ← installDirs ds
    pure (if r.installResult then d.path :: rest else rest)

/-- The custom plugin installation of `main`: the `requirements` directories first, then the
plugin directories, all against the same `packagesInstalled`, with no `try` around them. -/
def installCustomPlugins (requirementDirs pluginDirs : List PackageDir) :
    Except PyError (List String) := do
  let _ ← installDirs vs installed requirementDirs
  installDirs vs installed pluginDirs

/-! ### What the gate decides on a readable report -/

end Decision

/-! ### A concrete version scheme -/

/-- A dry run that succeeds and leaves the report `[]`: `[].get` raises, and the exception
leaves `InstallPackageDirIfNeeded` and the plugin installation of `main`. -/
theorem installCustomPlugins_listReport (vs : VersionScheme)
    (installed : PyDict String InstalledPackage) :
    installPackageDirIfNeeded vs installed ⟨0, some (.arr [])⟩ 0 = .error .attributeError ∧
      installCustomPlugins vs installed [] [⟨"plugin", ⟨0, some (.arr [])⟩, 0⟩] =
        .error .attributeError :=
  ⟨rfl, rfl⟩

end NetboxInit.Install
