import NetboxInit.Api.Idempotence
import NetboxInit.Api.Effect

/-!
# What one run leaves in NetBox

Against NetBox's rule a refusal means a collision, so the invariant `Settled` of the block's
output says that NetBox holds what the block is for (`Reached`): the two default groups and a
permission for each, every desired manufacturer, role and site under its name or, when another
record took it, its slug, every desired device type as well when the manufacturers share one
name, and a description on every prefix whose VRF prints non-empty. Conversely a store in that
state refuses every payload the block builds. So one run from any store reaches the desired
state (`reconcile_reached`), and the block leaves a store unchanged exactly when the store is
in it (`reconcile_eq_self_iff`).

Device types are the exception to "every desired item": a device-type payload names a
manufacturer only when the listed manufacturers share one name (`min_hash_value_by_value`
raises on two records, and NetBox refuses a device type without manufacturer), so a run adds a
device type only in that case (`reconcile_deviceTypes_oneName`).
-/

namespace NetboxInit.Api
open NetboxInit.Python

/-! ### NetBox's refusals as collisions -/

/-- NetBox refuses a record unique by name and slug exactly when a listed record holds the name
or the slug. -/
theorem all_name_slug_eq_false {R : Type} (name slug : R → String) (rs : List R) (n sl : String) :
    (rs.all fun r => name r != n && slug r != sl) = false ↔ ∃ r ∈ rs, name r = n ∨ slug r = sl := by
  simp only [List.all_eq_false, Bool.and_eq_true, bne_iff_ne, ne_eq, not_and_or, not_not]

/-- The manufacturers listed under a single name, the only case in which a device-type payload
can name a manufacturer. -/
def OneName (rs : List Manufacturer) : Prop := rs ≠ [] ∧ ∃ n₀, ∀ m ∈ rs, m.name = n₀

/-- `{x.name: x for x in rs}` holds one item exactly when the records share one name. -/
theorem keyed_items_eq_single {rs : List Manufacturer} :
    (∃ k M, (keyed Manufacturer.name rs).items = [(k, M)]) ↔ OneName rs := by
  constructor
  · rintro ⟨k, M, h⟩
    have hkeys : (keyed Manufacturer.name rs).keys = [k] := by simp [PyDict.keys, h]
    refine ⟨fun hnil => ?_, k, fun m hm => ?_⟩
    · obtain ⟨r, hr, -⟩ := (mem_keys_keyed Manufacturer.name rs k).mp (by simp [hkeys])
      simp [hnil] at hr
    · simpa [hkeys] using (mem_keys_keyed Manufacturer.name rs m.name).mpr ⟨m, hm, rfl⟩
  · rintro ⟨hne, n₀, hn⟩
    obtain ⟨r, hr⟩ := List.exists_mem_of_ne_nil rs hne
    have hall : ∀ j ∈ (keyed Manufacturer.name rs).keys, j = n₀ := fun j hj => by
      obtain ⟨m, hm, rfl⟩ := (mem_keys_keyed _ _ j).mp hj
      exact hn m hm
    have hmem : n₀ ∈ (keyed Manufacturer.name rs).keys :=
      (mem_keys_keyed _ _ _).mpr ⟨r, hr, hn r hr⟩
    have hlen : (keyed Manufacturer.name rs).keys.length = 1 :=
      le_antisymm (List.subperm_of_subset (keyed Manufacturer.name rs).keys_nodup fun j hj =>
        List.mem_singleton.mpr (hall j hj)).length_le (List.length_pos_of_mem hmem)
    obtain ⟨⟨k, M⟩, hkM⟩ := List.length_eq_one.mp (by simpa [PyDict.keys] using hlen)
    exact ⟨k, M, hkM⟩

section DeviceTypes

variable (slugify : String → String)

/-- A device-type payload names a manufacturer only when the manufacturers share one name, and
it names one of them. -/
theorem oneName_of_deviceTypePayload {rs : List Manufacturer} {model model' sl : String}
    {i : Nat} (h : deviceTypePayload slugify (keyed Manufacturer.name rs) model =
      .ok (.deviceType model' sl (some i))) :
    OneName rs ∧ ∃ M ∈ rs, M.id = i := by
  rw [deviceTypePayload] at h
  cases hm : minHashValueByValue recordLt (keyed Manufacturer.name rs) with
  | error e => rw [hm] at h; cases h
  | ok manuf =>
    rw [hm] at h
    cases manuf with
    | none => cases h
    | some M =>
      cases h
      obtain ⟨k, hk⟩ := (minHashValueByValue_recordLt_eq_some _ _).mp hm
      exact ⟨keyed_items_eq_single.mp ⟨k, M, hk⟩, M,
        mem_of_mem_items_keyed (by rw [hk]; exact List.mem_singleton_self _), rfl⟩

/-- With the manufacturers under a single name, every device-type payload names the one
manufacturer the map keeps. -/
theorem deviceTypePayload_of_oneName {rs : List Manufacturer} (h : OneName rs) :
    ∃ M ∈ rs, ∀ model, deviceTypePayload slugify (keyed Manufacturer.name rs) model =
      .ok (.deviceType model (slugify model) (some M.id)) := by
  obtain ⟨k, M, hk⟩ := keyed_items_eq_single.mpr h
  refine ⟨M, mem_of_mem_items_keyed (by rw [hk]; exact List.mem_singleton_self _), fun model => ?_⟩
  rw [deviceTypePayload, (minHashValueByValue_recordLt_eq_some _ _).mpr ⟨k, hk⟩]
  rfl

end DeviceTypes

/-! ### Prefixes -/

theorem backfillPrefix_eq_self_iff (p : Prefix) :
    backfillPrefix p = p ↔ ∀ v, p.vrf = some v → v.str ≠ "" → p.description ≠ "" := by
  rcases p with ⟨id, d, _ | v⟩
  · simp [backfillPrefix]
  · by_cases hd : d = "" <;> simp [backfillPrefix, hd, eq_comm]

theorem prefixBackfill_eq_self_iff (S : Store) :
    prefixBackfill S = S ↔ ∀ p ∈ S.prefixes, backfillPrefix p = p := by
  rcases S with ⟨_, _, _, _, _, _, _, prefixes, _⟩
  simp only [prefixBackfill, Store.mk.injEq, true_and, and_true]
  simpa using (List.map_inj_left : prefixes.map backfillPrefix = prefixes.map id ↔ _)

/-! ### The desired state -/

section Desired

variable (slugify : String → String) (args : Args)

/-- Each entry of `DEFAULT_PERMISSIONS` is keyed and named `<group>_permission` after a default
group. -/
theorem defaultPermissions_entry {kv : String × PermissionConfig}
    (h : kv ∈ (defaultPermissions args).items) :
    ∃ n ∈ defaultGroupNames args, kv.1 = n ++ "_permission" ∧ kv.2.name = n ++ "_permission" := by
  rcases List.mem_pair.mp (PyDict.mem_items_ofList _ _ h) with rfl | rfl <;>
    simp [defaultGroupNames]

theorem exists_defaultPermissions_entry {n : String} (h : n ∈ defaultGroupNames args) :
    ∃ kv ∈ (defaultPermissions args).items, kv.2.name = n ++ "_permission" := by
  have hk : n ++ "_permission" ∈ (defaultPermissions args).keys := by
    rw [defaultPermissions, PyDict.mem_keys_ofList]
    rcases List.mem_pair.mp h with rfl | rfl <;> simp
  obtain ⟨kv, hkv, hk1⟩ := List.mem_map.mp hk
  obtain ⟨m, -, h1, h2⟩ := defaultPermissions_entry args hkv
  exact ⟨kv, hkv, h2.trans (h1.symm.trans hk1)⟩

theorem permission_name_ne (n : String) : (n ++ "_permission" != "") = true :=
  bne_iff_ne.mpr fun h => by
    have h11 : "_permission".length = 11 := by decide
    simpa [h11] using congrArg String.length h

/-- NetBox refuses a default permission only when one of that name is listed, once its groups
are listed. -/
theorem exists_permission_of_refused {S : Store} {cfg : PermissionConfig}
    (hg : ∀ x ∈ cfg.groups, ∃ g ∈ S.groups, g.name = x)
    (h : Refused (permissionPayload (keyed Group.name S.groups)
      (S.objectTypes.map ObjectType.label)) S cfg) :
    ∃ q ∈ S.permissions, q.name = cfg.name := by
  obtain ⟨p, hp⟩ := permissionPayload_ok _ _ cfg fun x hx => (mem_keys_keyed _ _ _).mpr (hg x hx)
  have hr := h p hp
  rw [permissionPayload] at hp
  cases hm : cfg.groups.mapM (fun x => Group.id <$> (keyed Group.name S.groups).getItem x) with
  | error e => rw [hm] at hp; cases hp
  | ok ids =>
    rw [hm] at hp
    cases hp
    have hids : (ids.all fun i => S.groups.any (·.id == i)) = true := by
      refine List.all_eq_true.mpr fun i hi => ?_
      obtain ⟨x, -, hx⟩ := mem_of_mapM_eq_ok _ _ hm i hi
      cases hgx : (keyed Group.name S.groups).getItem x with
      | error e => rw [hgx] at hx; cases hx
      | ok g =>
        rw [hgx] at hx
        cases hx
        exact List.any_eq_true.mpr ⟨g, mem_of_getItem_keyed hgx, by simp⟩
    have hots : (((S.objectTypes.map ObjectType.label).filter fun ct => ct ∉ cfg.excludeObjects).all
        fun o => S.objectTypes.any (·.label == o)) = true := by
      refine List.all_eq_true.mpr fun o ho => ?_
      obtain ⟨ot, hot, rfl⟩ := List.mem_map.mp (List.mem_filter.mp ho).1
      exact List.any_eq_true.mpr ⟨ot, hot, by simp⟩
    simp only [netboxAccepts, hids, hots, Bool.and_true, List.all_eq_false] at hr
    obtain ⟨q, hq, hqn⟩ := hr
    exact ⟨q, hq, by simpa using hqn⟩

/-- What the block is for: NetBox holds both default groups and a permission for each, every
desired manufacturer, role and site under its name or its slug, every desired device type too
when the manufacturers share one name, and every prefix whose VRF prints non-empty has a
description. -/
structure Reached (S : Store) : Prop where
  groups : ∀ n ∈ defaultGroupNames args, ∃ g ∈ S.groups, g.name = n
  permissions : ∀ n ∈ defaultGroupNames args, ∃ q ∈ S.permissions, q.name = n ++ "_permission"
  manufacturers : ∀ n ∈ args.manufacturers, ∃ m ∈ S.manufacturers, m.name = n ∨ m.slug = slugify n
  roles : ∀ n ∈ args.roles, ∃ r ∈ S.deviceRoles, r.name = n ∨ r.slug = slugify n
  deviceTypes : OneName S.manufacturers →
    ∀ n ∈ args.deviceTypes, ∃ d ∈ S.deviceTypes, d.model = n ∨ d.slug = slugify n
  sites : ∀ n ∈ args.netboxSites, ∃ x ∈ S.sites, x.name = n ∨ x.slug = slugify n
  prefixes : ∀ p ∈ S.prefixes, ∀ v, p.vrf = some v → v.str ≠ "" → p.description ≠ ""

variable {slugify args} {S : Store}

/-- The invariant of the block's output is the desired state. -/
theorem Settled.reached (h : Settled slugify args S) : Reached slugify args S where
  groups n hn := (netboxAccepts_group S n).mp (h.groups n hn _ rfl)
  permissions n hn := by
    obtain ⟨kv, hkv, hname⟩ := exists_defaultPermissions_entry args hn
    have hg : ∀ x ∈ kv.2.groups, ∃ g ∈ S.groups, g.name = x := fun x hx =>
      (netboxAccepts_group S x).mp
        (h.groups x (groups_of_mem_defaultPermissions args hkv x hx) _ rfl)
    obtain ⟨q, hq, hqn⟩ := exists_permission_of_refused hg
      (h.permissions kv hkv (hname ▸ permission_name_ne n))
    exact ⟨q, hq, hqn.trans hname⟩
  manufacturers n hn := (all_name_slug_eq_false _ _ _ _ _).mp (h.manufacturers n hn _ rfl)
  roles n hn := (all_name_slug_eq_false _ _ _ _ _).mp
    (h.roles n hn (fun _ => "") 0 (.deviceRole n (slugify n) true "") rfl)
  deviceTypes hone n hn := by
    obtain ⟨M, hM, hpay⟩ := deviceTypePayload_of_oneName slugify hone
    have hr := h.deviceTypes n hn _ (hpay n)
    simp only [netboxAccepts, Option.any_some, Bool.and_eq_false_iff] at hr
    rcases hr with hr | hr
    · exact (all_name_slug_eq_false _ _ _ _ _).mp hr
    · exact absurd (beq_self_eq_true M.id) (List.any_eq_false.mp hr M hM)
  sites n hn := (all_name_slug_eq_false _ _ _ _ _).mp (h.sites n hn _ rfl)
  prefixes p hp :=
    (backfillPrefix_eq_self_iff p).mp ((prefixBackfill_eq_self_iff S).mp h.prefixes p hp)

/-- A store in the desired state is one the block leaves alone: NetBox refuses every payload it
can build. -/
theorem Reached.settled (h : Reached slugify args S) : Settled slugify args S where
  groups n hn _ hp := by cases hp; exact (netboxAccepts_group S n).mpr (h.groups n hn)
  permissions kv hkv _ p hp := by
    obtain ⟨n, hn, -, hname⟩ := defaultPermissions_entry args hkv
    obtain ⟨q, hq, hqn⟩ := h.permissions n hn
    obtain ⟨ids, rfl⟩ := permissionPayload_eq_ok hp
    simp only [netboxAccepts, Bool.and_eq_false_iff, List.all_eq_false]
    exact .inl (.inl ⟨q, hq, by simp [hqn, hname]⟩)
  manufacturers n hn _ hp := by
    cases hp; exact (all_name_slug_eq_false _ _ _ _ _).mpr (h.manufacturers n hn)
  roles n hn _ _ _ hp := by cases hp; exact (all_name_slug_eq_false _ _ _ _ _).mpr (h.roles n hn)
  deviceTypes n hn p hp := by
    obtain ⟨man, rfl⟩ := deviceTypePayload_eq_ok slugify hp
    cases man with
    | none => simp [netboxAccepts]
    | some i =>
      have hd := h.deviceTypes (oneName_of_deviceTypePayload slugify hp).1 n hn
      simp only [netboxAccepts, Bool.and_eq_false_iff]
      exact .inl ((all_name_slug_eq_false _ _ _ _ _).mpr hd)
  sites n hn _ hp := by cases hp; exact (all_name_slug_eq_false _ _ _ _ _).mpr (h.sites n hn)
  prefixes := (prefixBackfill_eq_self_iff S).mpr fun p hp =>
    (backfillPrefix_eq_self_iff p).mpr (h.prefixes p hp)

end Desired

/-! ### One run against NetBox -/

/-- Against NetBox, one run of the block from any store reaches the desired state. -/
theorem reconcile_reached (slugify : String → String) (colors : Nat → String) (args : Args)
    (s : Store) : Reached slugify args (reconcile netbox slugify colors args s).store :=
  (reconcile_settled slugify args colors s).reached

/-- Against NetBox, the block leaves a store unchanged exactly when the store is already in the
desired state. -/
theorem reconcile_eq_self_iff (slugify : String → String) (colors : Nat → String) (args : Args)
    (S : Store) : (reconcile netbox slugify colors args S).store = S ↔ Reached slugify args S :=
  ⟨fun h => h ▸ reconcile_reached slugify colors args S,
    fun h => reconcile_of_settled slugify args colors h.settled⟩

/-- Against NetBox, a run adds a device type only if the manufacturers listed after its
manufacturers pass share one name: with none, NetBox refuses a device type without
manufacturer, and with two names `min_hash_value_by_value` raises. -/
theorem reconcile_deviceTypes_oneName (slugify : String → String) (colors : Nat → String)
    (args : Args) (s : Store)
    (h : (reconcile netbox slugify colors args s).store.deviceTypes ≠ s.deviceTypes) :
    OneName (reconcile netbox slugify colors args s).store.manufacturers := by
  obtain ⟨hgE, -⟩ := groupsPass_refused args s
  let G := (groupsPass netbox args s).store
  let P := (permissionsPass netbox args (keyed Group.name G.groups) G).store
  obtain ⟨hmE, -⟩ := manufacturersPass_refused slugify args P
  let M := (manufacturersPass netbox slugify args P).store
  let R := (rolesPass netbox slugify args colors M).store
  let D := (deviceTypesPass netbox slugify args (keyed Manufacturer.name M.manufacturers) R).store
  let T := (sitesPass netbox slugify args D).store
  have hS : (reconcile netbox slugify colors args s).store = prefixBackfill T := by
    simp only [reconcile, afterPass_of_none hgE, afterPass_of_none hmE]
  -- device types change only in their own pass, manufacturers only in theirs
  have hR : R.deviceTypes = s.deviceTypes :=
    (attemptAll_deviceTypes netbox (rolePayload_ofKind slugify colors) (by decide) _ _).trans <|
    (attemptAll_deviceTypes netbox (manufacturerPayload_ofKind slugify) (by decide) _ _).trans <|
    (attemptAll_deviceTypes netbox (fun kv p hp => permissionPayload_ofKind _ _ kv.2 p hp)
      (by decide) _ _).trans
    (attemptAll_deviceTypes netbox groupPayload_ofKind (by decide) _ _)
  have hT : T.deviceTypes = D.deviceTypes :=
    attemptAll_deviceTypes netbox (sitePayload_ofKind slugify) (by decide) _ _
  have hMT : T.manufacturers = M.manufacturers :=
    (attemptAll_manufacturers netbox (sitePayload_ofKind slugify) (by decide) _ _).trans <|
    (attemptAll_manufacturers netbox (deviceTypePayload_ofKind slugify _) (by decide) _ _).trans
    (attemptAll_manufacturers netbox (rolePayload_ofKind slugify colors) (by decide) _ _)
  rw [hS] at h ⊢
  show OneName T.manufacturers
  rw [hMT]
  by_contra hone
  refine h ((hT.trans (congrArg Store.deviceTypes
    (attemptAll_store_of_refused netbox _ _ R fun m _ p hp => ?_))).trans hR)
  obtain ⟨man, rfl⟩ := deviceTypePayload_eq_ok slugify hp
  cases man with
  | none => simp [netbox, netboxAccepts]
  | some i => exact absurd (oneName_of_deviceTypePayload slugify hp).1 hone

/-- One manufacturer and one device type asked for, from an empty NetBox. -/
def oneManufacturerArgs : Args := ⟨"administrator", "standard", ["A"], [], ["X"], []⟩

theorem reconcile_deviceTypes_oneName_oneManufacturer :
    (reconcile netbox id (fun _ => "000000") oneManufacturerArgs emptyStore).store.deviceTypes ≠
        emptyStore.deviceTypes ∧
      OneName (reconcile netbox id (fun _ => "000000") oneManufacturerArgs
        emptyStore).store.manufacturers :=
  have h : (reconcile netbox id (fun _ => "000000") oneManufacturerArgs
      emptyStore).store.deviceTypes ≠ emptyStore.deviceTypes :=
    fun he => absurd (congrArg List.length he) (by decide)
  ⟨h, reconcile_deviceTypes_oneName id (fun _ => "000000") oneManufacturerArgs emptyStore h⟩

end NetboxInit.Api
