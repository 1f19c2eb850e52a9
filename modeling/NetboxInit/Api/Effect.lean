import NetboxInit.Api.Attempts

/-!
# What the reconciliation block sends and stores, whatever the server accepts

Every create call of the block is one it is asked for (`Requested`): a default group, a
default permission built from its `DEFAULT_PERMISSIONS` entry, or a desired manufacturer,
role, device type or site under the slug `slugify` gives it. A pass's loop adds the records of
the calls the server accepted, in the order sent, and nothing else (`attemptAll_addsSome`, in
`Api.Attempts`), so the block's whole effect on NetBox is some of its own calls appended in order, then the prefix
backfill (`reconcile_effect`).
-/

namespace NetboxInit.Api
open NetboxInit.Python

section Loop

variable {α : Type} (server : Server) (build : α → Except PyError Payload)

/-- Every call of a loop is the payload of one of its items. -/
theorem mem_attemptAll_calls {items : List α} {s : Store} {p : Payload}
    (h : p ∈ (attemptAll server build items s).calls) : ∃ a ∈ items, build a = .ok p := by
  induction items generalizing s with
  | nil => exact absurd h (List.not_mem_nil p)
  | cons a as ih =>
    cases hb : build a with
    | error e => simp [attemptAll, hb] at h
    | ok q =>
      simp only [attemptAll, hb, List.mem_cons] at h
      rcases h with rfl | h
      · exact ⟨a, List.mem_cons_self _ _, hb⟩
      · obtain ⟨b, hb', hp⟩ := ih h
        exact ⟨b, List.mem_cons_of_mem _ hb', hp⟩

end Loop

/-! ### The calls the block is asked for -/

section Requested

variable (slugify : String → String) (args : Args)

/-- A create call the block is asked for: a default group, a default permission with its
configured name, flag and actions and none of its excluded object types, or a desired
manufacturer, role, device type or site under the slug `slugify` gives its name. -/
def Requested : Payload → Prop
  | .group name => name ∈ defaultGroupNames args
  | .permission name enabled _ actions objectTypes => ∃ kv ∈ (defaultPermissions args).items,
      name = kv.2.name ∧ enabled = kv.2.enabled ∧ actions = kv.2.actions ∧
        ∀ o ∈ objectTypes, o ∉ kv.2.excludeObjects
  | .manufacturer name slug => name ∈ args.manufacturers ∧ slug = slugify name
  | .deviceRole name slug vmRole _ => name ∈ args.roles ∧ slug = slugify name ∧ vmRole = true
  | .deviceType model slug _ => model ∈ args.deviceTypes ∧ slug = slugify model
  | .site name slug => name ∈ args.netboxSites ∧ slug = slugify name

variable (server : Server) (s : Store) {p : Payload}

theorem groupsPass_requested (h : p ∈ (groupsPass server args s).calls) :
    Requested slugify args p := by
  obtain ⟨n, hn, hp⟩ := mem_attemptAll_calls server _ h
  cases hp
  exact ((mem_missing _ _ _ _).mp hn).1

theorem permissionsPass_requested (groups : PyDict String Group)
    (h : p ∈ (permissionsPass server args groups s).calls) : Requested slugify args p := by
  obtain ⟨kv, hkv, hp⟩ := mem_attemptAll_calls server _ h
  obtain ⟨ids, rfl⟩ := permissionPayload_eq_ok hp
  exact ⟨kv, (List.mem_filter.mp hkv).1, rfl, rfl, rfl, fun o ho => by
    simpa using (List.mem_filter.mp ho).2⟩

theorem manufacturersPass_requested (h : p ∈ (manufacturersPass server slugify args s).calls) :
    Requested slugify args p := by
  obtain ⟨n, hn, hp⟩ := mem_attemptAll_calls server _ h
  cases hp
  exact ⟨((mem_missing _ _ _ _).mp hn).1, rfl⟩

theorem rolesPass_requested (colors : Nat → String)
    (h : p ∈ (rolesPass server slugify args colors s).calls) : Requested slugify args p := by
  obtain ⟨a, ha, hp⟩ := mem_attemptAll_calls server _ h
  cases hp
  exact ⟨((mem_missing _ _ _ _).mp (List.snd_mem_of_mem_enum ha)).1, rfl, rfl⟩

theorem deviceTypesPass_requested (manufacturers : PyDict String Manufacturer)
    (h : p ∈ (deviceTypesPass server slugify args manufacturers s).calls) :
    Requested slugify args p := by
  obtain ⟨m, hm, hp⟩ := mem_attemptAll_calls server _ h
  obtain ⟨_, rfl⟩ := deviceTypePayload_eq_ok slugify hp
  exact ⟨((mem_missing _ _ _ _).mp hm).1, rfl⟩

theorem sitesPass_requested (h : p ∈ (sitesPass server slugify args s).calls) :
    Requested slugify args p := by
  obtain ⟨n, hn, hp⟩ := mem_attemptAll_calls server _ h
  cases hp
  exact ⟨((mem_missing _ _ _ _).mp hn).1, rfl⟩

end Requested

/-- Whatever the server accepts, the block sends only the create calls it is asked for, and
its whole effect on NetBox is to add the records of some of them, in the order sent, and then
to backfill the prefix descriptions. -/
theorem reconcile_effect (server : Server) (slugify : String → String) (colors : Nat → String)
    (args : Args) (s : Store) :
    (∀ p ∈ (reconcile server slugify colors args s).calls, Requested slugify args p) ∧
      ∃ t, AddsSome (reconcile server slugify colors args s).calls s t ∧
        (reconcile server slugify colors args s).store = prefixBackfill t := by
  refine ⟨fun p hp => ?_, reconcile_addsSome server slugify colors args s⟩
  simp only [reconcile, List.mem_append] at hp
  rcases hp with ((((hp | hp) | hp) | hp) | hp) | hp
  · exact groupsPass_requested slugify args server s hp
  · exact permissionsPass_requested slugify args server _ _ hp
  · exact manufacturersPass_requested slugify args server _ hp
  · exact rolesPass_requested slugify args server _ _ hp
  · exact deviceTypesPass_requested slugify args server _ _ hp
  · exact sitesPass_requested slugify args server _ hp

/-! ### Tables a loop does not write -/

section Frame

variable {α : Type} (server : Server) {build : α → Except PyError Payload} {k : Nat}

theorem attemptAll_deviceTypes (hk : OfKind build k) (hk4 : k ≠ 4) (items : List α)
    (s : Store) :
    (attemptAll server build items s).store.deviceTypes = s.deviceTypes :=
  attemptAll_preserves server build Store.deviceTypes items
    (fun a _ p hp t => Store.add_deviceTypes t p (hk a p hp ▸ hk4)) s

theorem attemptAll_manufacturers (hk : OfKind build k) (hk2 : k ≠ 2) (items : List α)
    (s : Store) : (attemptAll server build items s).store.manufacturers = s.manufacturers :=
  attemptAll_preserves server build Store.manufacturers items
    (fun a _ p hp t => Store.add_manufacturers t p (hk a p hp ▸ hk2)) s

end Frame

end NetboxInit.Api
