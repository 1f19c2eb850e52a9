import NetboxInit.Api.Store

/-!
# The reconciliation block of `main` (`netbox_init.py:711-920`)

Six passes in a fixed order (groups, permissions, manufacturers, device roles, device types,
sites), then the prefix description backfill. A pass lists the records of its kind, tries to
create each desired item whose natural key is not listed, and lists the records again; the
groups and manufacturers listed at the end of their passes feed the permission and device-type
payloads. The inner `try` around `create` catches `pynetbox.RequestError` only. Building a
permission payload reads `groups[x].id` before that `try` (a missing group raises `KeyError`),
and a device-type payload calls `min_hash_value_by_value(manufacturers)`, which raises
`TypeError` as soon as two `pynetbox` records have to be compared. Such an exception ends the
pass in its outer `except`: the remaining items are skipped and the final listing does not
run, so the map keeps its initial `{}`.

The connectivity wait before the block only lists sites until a call succeeds; with listings
that succeed it reads nothing and changes nothing, and it is left out.
-/

namespace NetboxInit.Api
open NetboxInit.Python

/-- The arguments of `main` the block reads. -/
structure Args where
  staffGroupName : String
  defaultGroupName : String
  manufacturers : List String
  roles : List String
  deviceTypes : List String
  netboxSites : List String

/-- A pass's loop: the store after it, the payloads sent to `create`, and the exception that
ended it early, if one did. -/
structure Attempts where
  store : Store
  calls : List Payload
  escaped : Option PyError

/-- The loop of a pass: the payload is built outside the inner `try`, and a refused `create`
is caught there. -/
def attemptAll {α : Type} (server : Server) (build : α → Except PyError Payload) :
    List α → Store → Attempts
  | [], s => ⟨s, [], none⟩
  | a :: as, s =>
    match build a with
    | .error e => ⟨s, [], some e⟩
    | .ok p =>
      let r := attemptAll server build as (server.attempt s p)
      ⟨r.store, p :: r.calls, r.escaped⟩

/-- `{x.<key>: x for x in ....all()}`. -/
def keyed {R : Type} (key : R → String) (rs : List R) : PyDict String R :=
  PyDict.ofList (rs.map fun r => (key r, r))

/-- `[x for x in desired if x not in preExisting]`. -/
def missing {R : Type} (key : R → String) (rs : List R) (desired : List String) : List String :=
  desired.filter fun x => x ∉ (keyed key rs).keys

theorem mem_keys_keyed {R : Type} (key : R → String) (rs : List R) (x : String) :
    x ∈ (keyed key rs).keys ↔ ∃ r ∈ rs, key r = x := by
  simp [keyed, PyDict.mem_keys_ofList]

theorem mem_of_mem_items_keyed {R : Type} {key : R → String} {rs : List R} {k : String} {r : R}
    (h : (k, r) ∈ (keyed key rs).items) : r ∈ rs := by
  obtain ⟨r', hr', he⟩ := List.mem_map.mp (PyDict.mem_items_ofList _ _ h)
  exact (Prod.mk.inj he).2 ▸ hr'

theorem mem_of_getItem_keyed {R : Type} {key : R → String} {rs : List R} {k : String} {r : R}
    (h : (keyed key rs).getItem k = .ok r) : r ∈ rs :=
  mem_of_mem_items_keyed (PyDict.mem_items_of_getItem h)

theorem mem_missing {R : Type} (key : R → String) (rs : List R) (desired : List String)
    (x : String) : x ∈ missing key rs desired ↔ x ∈ desired ∧ ∀ r ∈ rs, key r ≠ x := by
  simp only [missing, mem_keys_keyed, not_exists, not_and, List.mem_filter, decide_eq_true_eq,
    ne_eq]

/-- The map a pass leaves: its final listing, or `{}` when an exception ended it. -/
def afterPass {R : Type} (a : Attempts) (listing : Store → PyDict String R) : PyDict String R :=
  if a.escaped.isNone then listing a.store else PyDict.empty

theorem afterPass_of_none {R : Type} {a : Attempts} (h : a.escaped = none)
    (listing : Store → PyDict String R) : afterPass a listing = listing a.store := by
  simp [afterPass, h]

/-! ### The passes -/

section Passes

variable (server : Server) (slugify : String → String) (args : Args)

/-- `DEFAULT_GROUP_NAMES`. -/
def defaultGroupNames : List String := [args.staffGroupName, args.defaultGroupName]

/-- `{'name': groupName}`. -/
def groupPayload (groupName : String) : Except PyError Payload := .ok (.group groupName)

/-- GROUPS (`netbox_init.py:735-749`). -/
def groupsPass (s : Store) : Attempts :=
  attemptAll server groupPayload (missing Group.name s.groups (defaultGroupNames args)) s

/-- An entry of `DEFAULT_PERMISSIONS`. -/
structure PermissionConfig where
  name : String
  enabled : Bool
  groups : List String
  actions : List String
  excludeObjects : List String

/-- `DEFAULT_PERMISSIONS` (`netbox_init.py:752-786`). -/
def defaultPermissions : PyDict String PermissionConfig :=
  PyDict.ofList
    [(args.staffGroupName ++ "_permission",
        ⟨args.staffGroupName ++ "_permission", true, [args.staffGroupName],
          ["view", "add", "change", "delete"], []⟩),
     (args.defaultGroupName ++ "_permission",
        ⟨args.defaultGroupName ++ "_permission", true, [args.defaultGroupName],
          ["view", "add", "change", "delete"],
          ["admin.logentry", "auth.group", "auth.permission", "auth.user", "users.admingroup",
            "users.adminuser", "users.objectpermission", "users.token", "users.userconfig"]⟩)]

/-- `[groups[x].id for x in permConfig['groups']]`, the `object_types` left after the
exclusions, and the payload. -/
def permissionPayload (groups : PyDict String Group) (allObjectTypeNames : List String)
    (cfg : PermissionConfig) : Except PyError Payload := do
  let ids ← cfg.groups.mapM fun x => Group.id <$> groups.getItem x
  pure (.permission cfg.name cfg.enabled ids cfg.actions
    (allObjectTypeNames.filter fun ct => ct ∉ cfg.excludeObjects))

/-- PERMISSIONS (`netbox_init.py:788-815`). -/
def permissionsPass (groups : PyDict String Group) (s : Store) : Attempts :=
  let allObjectTypeNames := s.objectTypes.map ObjectType.label
  let permsPreExisting := keyed Permission.name s.permissions
  attemptAll server (fun kv => permissionPayload groups allObjectTypeNames kv.2)
    ((defaultPermissions args).items.filter fun kv =>
      kv.2.name != "" && decide (kv.2.name ∉ permsPreExisting.keys)) s

/-- `{"name": manufacturerName, "slug": slugify(manufacturerName)}`. -/
def manufacturerPayload (manufacturerName : String) : Except PyError Payload :=
  .ok (.manufacturer manufacturerName (slugify manufacturerName))

/-- MANUFACTURERS (`netbox_init.py:817-836`). -/
def manufacturersPass (s : Store) : Attempts :=
  attemptAll server (manufacturerPayload slugify)
    (missing Manufacturer.name s.manufacturers args.manufacturers) s

/-- The payload of the `i`-th role attempted, which gets the `i`-th colour of the block's
`randomcolor` generator. -/
def rolePayload (colors : Nat → String) (item : Nat × String) : Except PyError Payload :=
  .ok (.deviceRole item.2 (slugify item.2) true (colors item.1))

/-- ROLES (`netbox_init.py:838-859`). -/
def rolesPass (colors : Nat → String) (s : Store) : Attempts :=
  attemptAll server (rolePayload slugify colors)
    (missing DeviceRole.name s.deviceRoles args.roles).enum s

/-- `manuf = min_hash_value_by_value(manufacturers)` and the payload, inside the inner `try`
but raising `TypeError`, which it does not catch. -/
def deviceTypePayload (manufacturers : PyDict String Manufacturer) (model : String) :
    Except PyError Payload := do
  let manuf ← minHashValueByValue recordLt manufacturers
  pure (.deviceType model (slugify model) (manuf.map (·.id)))

/-- DEVICE TYPES (`netbox_init.py:861-885`). -/
def deviceTypesPass (manufacturers : PyDict String Manufacturer) (s : Store) : Attempts :=
  attemptAll server (deviceTypePayload slugify manufacturers)
    (missing DeviceType.model s.deviceTypes args.deviceTypes) s

/-- `{"name": siteName, "slug": slugify(siteName)}`. -/
def sitePayload (siteName : String) : Except PyError Payload := .ok (.site siteName (slugify siteName))

/-- SITES (`netbox_init.py:887-906`). -/
def sitesPass (s : Store) : Attempts :=
  attemptAll server (sitePayload slugify) (missing Site.name s.sites args.netboxSites) s

/-! ### What the payload builders return -/

theorem groups_of_mem_defaultPermissions {kv : String × PermissionConfig}
    (h : kv ∈ (defaultPermissions args).items) : ∀ x ∈ kv.2.groups, x ∈ defaultGroupNames args := by
  rcases List.mem_pair.mp (PyDict.mem_items_ofList _ _ h) with rfl | rfl <;>
    simp [defaultGroupNames]

theorem permissionPayload_ok (groups : PyDict String Group) (names : List String)
    (cfg : PermissionConfig) (h : ∀ x ∈ cfg.groups, x ∈ groups.keys) :
    ∃ p, permissionPayload groups names cfg = .ok p := by
  obtain ⟨ids, hids⟩ := exists_mapM_eq_ok (fun x => Group.id <$> groups.getItem x) cfg.groups
    fun x hx => by
      obtain ⟨g, hg⟩ := PyDict.getItem_of_mem_keys (h x hx)
      exact ⟨g.id, by simp only [hg]; rfl⟩
  exact ⟨_, by rw [permissionPayload, hids]; rfl⟩

theorem permissionPayload_eq_ok {groups : PyDict String Group} {names : List String}
    {cfg : PermissionConfig} {p : Payload} (h : permissionPayload groups names cfg = .ok p) :
    ∃ ids, p = .permission cfg.name cfg.enabled ids cfg.actions
      (names.filter fun ct => ct ∉ cfg.excludeObjects) := by
  rw [permissionPayload] at h
  cases hm : cfg.groups.mapM (fun x => Group.id <$> groups.getItem x) <;> rw [hm] at h <;>
    cases h
  exact ⟨_, rfl⟩

theorem deviceTypePayload_eq_ok {manufacturers : PyDict String Manufacturer} {model : String}
    {p : Payload} (h : deviceTypePayload slugify manufacturers model = .ok p) :
    ∃ m, p = .deviceType model (slugify model) m := by
  rw [deviceTypePayload] at h
  cases hm : minHashValueByValue recordLt manufacturers <;> rw [hm] at h <;> cases h
  exact ⟨_, rfl⟩

theorem deviceTypePayload_cases (manufacturers : PyDict String Manufacturer) :
    (∀ model, ∃ p, deviceTypePayload slugify manufacturers model = .ok p) ∨
      ∀ model p, deviceTypePayload slugify manufacturers model ≠ .ok p := by
  cases hm : minHashValueByValue recordLt manufacturers
  · refine .inr fun model p h => ?_
    rw [deviceTypePayload, hm] at h
    cases h
  · exact .inl fun model => ⟨_, by rw [deviceTypePayload, hm]; rfl⟩

end Passes

/-- `str(prefix.vrf)`: a `pynetbox` record prints as its `name`, else its `display`. -/
def Vrf.str (v : Vrf) : String := if v.name != "" then v.name else v.display

/-- A prefix listed by `filter(description__empty=True)` with a VRF gets
`description = str(prefix.vrf)`. -/
def backfillPrefix (p : Prefix) : Prefix :=
  match p.vrf with
  | some v => if p.description = "" then { p with description := v.str } else p
  | none => p

/-- The prefix description backfill (`netbox_init.py:908-920`). -/
def prefixBackfill (s : Store) : Store := { s with prefixes := s.prefixes.map backfillPrefix }

theorem netboxAccepts_prefixBackfill (s : Store) (p : Payload) :
    netboxAccepts (prefixBackfill s) p = netboxAccepts s p := by
  cases p <;> rfl

theorem backfillPrefix_idem (p : Prefix) : backfillPrefix (backfillPrefix p) = backfillPrefix p := by
  rcases p with ⟨id, description, _ | v⟩
  · rfl
  · by_cases h : description = "" <;> simp [backfillPrefix, h]

theorem prefixBackfill_idem (s : Store) : prefixBackfill (prefixBackfill s) = prefixBackfill s := by
  simp [prefixBackfill, Function.comp_def, backfillPrefix_idem]

/-- What one run of the block leaves: the store and the create calls in order. -/
structure Reconciled where
  store : Store
  calls : List Payload

/-- The reconciliation block (`netbox_init.py:711-920`). -/
def reconcile (server : Server) (slugify : String → String) (colors : Nat → String)
    (args : Args) (s : Store) : Reconciled :=
  let g := groupsPass server args s
  let groups := afterPass g fun t => keyed Group.name t.groups
  let p := permissionsPass server args groups g.store
  let m := manufacturersPass server slugify args p.store
  let manufacturers := afterPass m fun t => keyed Manufacturer.name t.manufacturers
  let r := rolesPass server slugify args colors m.store
  let d := deviceTypesPass server slugify args manufacturers r.store
  let t := sitesPass server slugify args d.store
  ⟨prefixBackfill t.store, g.calls ++ p.calls ++ m.calls ++ r.calls ++ d.calls ++ t.calls⟩

/-! ### Payloads that cannot be built -/

def emptyStore : Store := ⟨[], [], [], [], [], [], [], [], 1⟩

def twoManufacturerStore : Store :=
  { emptyStore with manufacturers := [⟨2, "A", "a"⟩, ⟨1, "B", "b"⟩], nextId := 3 }

def deviceTypeArgs : Args := ⟨"administrator", "standard", ["A", "B"], [], ["X"], []⟩

/-- With the manufacturers `{'A': id 2, 'B': id 1}` the payload of the missing device type `X`
cannot be built, so the block sends no device type and NetBox holds none afterwards. -/
theorem reconcile_twoManufacturerStore :
    deviceTypePayload id (keyed Manufacturer.name twoManufacturerStore.manufacturers) "X" =
        .error .typeError ∧
      (reconcile netbox id (fun _ => "000000") deviceTypeArgs twoManufacturerStore).calls.filter
          (fun p => p.kind == 4) = [] ∧
      (reconcile netbox id (fun _ => "000000") deviceTypeArgs
        twoManufacturerStore).store.deviceTypes = [] :=
  ⟨rfl, rfl, rfl⟩

def refusesAdministrator : Server :=
  ⟨fun s p => match p with
    | .group "administrator" => false
    | p => netboxAccepts s p⟩

def twoManufacturerArgs : Args :=
  ⟨"administrator", "standard", ["A", "B"], ["Unspecified"], ["Unspecified"], ["default"]⟩

/-- The refused `administrator` group makes `groups['administrator']` raise while the first
permission is built, so `standard_permission` is never sent although its group `standard` was
created; and with two manufacturers no device type is sent. -/
theorem reconcile_refusesAdministrator :
    (reconcile refusesAdministrator id (fun _ => "000000") twoManufacturerArgs emptyStore).calls =
        [.group "administrator", .group "standard", .manufacturer "A" "A",
          .manufacturer "B" "B", .deviceRole "Unspecified" "Unspecified" true "000000",
          .site "default" "default"] ∧
      (reconcile refusesAdministrator id (fun _ => "000000") twoManufacturerArgs
        emptyStore).store.groups.map Group.name = ["standard"] :=
  ⟨rfl, rfl⟩

end NetboxInit.Api
