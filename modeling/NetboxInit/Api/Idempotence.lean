import NetboxInit.Api.Attempts

/-!
# Running the reconciliation block twice (`netbox_init.py:711-920`)

Against NetBox's own rule, a second run of the block leaves the store of the first. The proof
goes through an invariant of the first run's output, `Settled`: NetBox refuses every payload
the block can build for a desired name (a role whatever its colour), and every prefix is
backfilled already. A pass establishes its part because a record it stores refuses its own
payload and a refusal survives records of the same kind (`attemptAll_refused`). The later
passes and the backfill keep it because the store only grows by records of later kinds,
which never enter NetBox's decision on an earlier kind (`Grows`). From a settled store every
payload the block builds is refused and every prefix is left as it is, so the run changes
nothing; it may still send create calls, which are refused.
-/

namespace NetboxInit.Api
open NetboxInit.Python

/-! ### The store only grows -/

/-- A change the block makes after its passes of kinds below `k`: a record of kind `k` or
later is created, or the prefix descriptions are backfilled. -/
def LaterChange (k : Nat) (t t' : Store) : Prop :=
  (∃ q : Payload, k ≤ q.kind ∧ t' = t.add q) ∨ t' = prefixBackfill t

/-- `t'` is `t` after any number of changes of kind `k` or later. -/
def Grows (k : Nat) : Store → Store → Prop := Relation.ReflTransGen (LaterChange k)

namespace Grows

theorem mono {k k' : Nat} (hk : k ≤ k') {t t' : Store} (h : Grows k' t t') : Grows k t t' :=
  Relation.ReflTransGen.mono (fun _ _ => Or.imp_left fun ⟨q, hq, e⟩ => ⟨q, hk.trans hq, e⟩) h

/-- What every later change keeps, a growing store keeps. -/
theorem preserves {β : Sort _} (f : Store → β) {k : Nat}
    (hadd : ∀ t q, k ≤ q.kind → f (t.add q) = f t) (hback : ∀ t, f (prefixBackfill t) = f t)
    {t t' : Store} (h : Grows k t t') : f t' = f t := by
  induction h with
  | refl => rfl
  | tail _ hstep ih =>
    rcases hstep with ⟨q, hq, rfl⟩ | rfl
    · rw [hadd _ q hq, ih]
    · rw [hback, ih]

theorem groups {t t' : Store} (h : Grows 1 t t') : t'.groups = t.groups :=
  h.preserves Store.groups (fun t q hq => Store.add_groups t q (by omega)) fun _ => rfl

theorem manufacturers {t t' : Store} (h : Grows 3 t t') : t'.manufacturers = t.manufacturers :=
  h.preserves Store.manufacturers (fun t q hq => Store.add_manufacturers t q (by omega))
    fun _ => rfl

theorem objectTypes {k : Nat} {t t' : Store} (h : Grows k t t') :
    t'.objectTypes = t.objectTypes :=
  h.preserves Store.objectTypes (fun t q _ => Store.add_objectTypes t q) fun _ => rfl

/-- A refusal of kind `k` survives changes of later kinds. -/
theorem refused {α : Type} {build : α → Except PyError Payload} {k : Nat} (hk : OfKind build k)
    {t t' : Store} (h : Grows (k + 1) t t') {a : α} (ha : Refused build t a) :
    Refused build t' a :=
  (h.preserves (Refused build · a) (fun t _ hq => refused_add_of_lt hk hq t a)
    fun t => refused_prefixBackfill t a).mpr ha

end Grows

/-- A loop over payloads of kind `k` grows the store by changes of kind `k`. -/
theorem attemptAll_grows {α : Type} {build : α → Except PyError Payload} {k : Nat}
    (hk : OfKind build k) (items : List α) (s : Store) :
    Grows k s (attemptAll netbox build items s).store :=
  attemptAll_mono netbox build (Grows k s) items
    (fun a _ p hp _ ht => Relation.ReflTransGen.tail ht (.inl ⟨p, (hk a p hp).ge, rfl⟩)) s
    Relation.ReflTransGen.refl

/-! ### The kinds of the passes' payloads -/

theorem groupPayload_ofKind : OfKind groupPayload 0 := fun _ _ h => by cases h; rfl

theorem permissionPayload_ofKind (groups : PyDict String Group) (names : List String) :
    OfKind (permissionPayload groups names) 1 := fun _ _ h => by
  obtain ⟨_, rfl⟩ := permissionPayload_eq_ok h; rfl

theorem manufacturerPayload_ofKind (slugify : String → String) :
    OfKind (manufacturerPayload slugify) 2 := fun _ _ h => by cases h; rfl

theorem rolePayload_ofKind (slugify : String → String) (colors : Nat → String) :
    OfKind (rolePayload slugify colors) 3 := fun _ _ h => by cases h; rfl

theorem deviceTypePayload_ofKind (slugify : String → String)
    (manufacturers : PyDict String Manufacturer) :
    OfKind (deviceTypePayload slugify manufacturers) 4 := fun _ _ h => by
  obtain ⟨_, rfl⟩ := deviceTypePayload_eq_ok slugify h; rfl

theorem sitePayload_ofKind (slugify : String → String) : OfKind (sitePayload slugify) 5 :=
  fun _ _ h => by cases h; rfl

/-! ### What each pass leaves refused -/

section Passes

variable (slugify : String → String) (args : Args)

theorem groupsPass_refused (s : Store) :
    (groupsPass netbox args s).escaped = none ∧
      ∀ n ∈ defaultGroupNames args, Refused groupPayload (groupsPass netbox args s).store n :=
  attemptAll_missing_refused groupPayload_ofKind (fun _ => ⟨_, rfl⟩) _ _ _ s
    fun g hg _ hp => by cases hp; exact (netboxAccepts_group s _).mpr ⟨g, hg, rfl⟩

/-- Once the default groups are refused, that is listed, every permission payload is built,
and the pass ends with every default permission refused. -/
theorem permissionsPass_refused (G : Store)
    (hG : ∀ n ∈ defaultGroupNames args, Refused groupPayload G n)
    (kv : String × PermissionConfig) (hkv : kv ∈ (defaultPermissions args).items)
    (hname : (kv.2.name != "") = true) :
    Refused (permissionPayload (keyed Group.name G.groups) (G.objectTypes.map ObjectType.label))
      (permissionsPass netbox args (keyed Group.name G.groups) G).store kv.2 := by
  have hok : ∀ kv ∈ (defaultPermissions args).items, ∃ p, permissionPayload
      (keyed Group.name G.groups) (G.objectTypes.map ObjectType.label) kv.2 = .ok p :=
    fun kv hkv => permissionPayload_ok _ _ _ fun x hx => by
      obtain ⟨g, hg, rfl⟩ := (netboxAccepts_group G x).mp
        (hG x (groups_of_mem_defaultPermissions args hkv x hx) _ rfl)
      exact (mem_keys_keyed _ _ _).mpr ⟨g, hg, rfl⟩
  simp only [permissionsPass]
  refine (attemptAll_refused (fun kv p hp => permissionPayload_ofKind _ _ kv.2 p hp) _
    (fun kv hkv => hok kv (List.mem_filter.mp hkv).1) G).2 kv ?_
  by_cases hpre : kv.2.name ∈ (keyed Permission.name G.permissions).keys
  · obtain ⟨q, hq, hqn⟩ := (mem_keys_keyed _ _ _).mp hpre
    refine .inr fun p hp => ?_
    obtain ⟨ids, rfl⟩ := permissionPayload_eq_ok hp
    simp only [netboxAccepts, Bool.and_eq_false_iff, List.all_eq_false]
    exact .inl (.inl ⟨q, hq, by simp [hqn]⟩)
  · exact .inl (List.mem_filter.mpr ⟨hkv, by simp [hname, hpre]⟩)

theorem manufacturersPass_refused (s : Store) :
    (manufacturersPass netbox slugify args s).escaped = none ∧
      ∀ n ∈ args.manufacturers,
        Refused (manufacturerPayload slugify) (manufacturersPass netbox slugify args s).store n :=
  attemptAll_missing_refused (manufacturerPayload_ofKind slugify) (fun _ => ⟨_, rfl⟩) _ _ _ s
    fun m hm _ hp => by cases hp; exact List.all_eq_false.mpr ⟨m, hm, by simp⟩

/-- NetBox's decision on a role does not read its colour. -/
theorem Refused.recolor {colors colors' : Nat → String} {t : Store} {i : Nat} {n : String}
    (j : Nat) (h : Refused (rolePayload slugify colors) t (i, n)) :
    Refused (rolePayload slugify colors') t (j, n) :=
  fun _ hp => by cases hp; exact h (.deviceRole n (slugify n) true (colors i)) rfl

theorem rolesPass_refused (colors : Nat → String) (s : Store) {n : String} (hn : n ∈ args.roles)
    (colors' : Nat → String) (i : Nat) :
    Refused (rolePayload slugify colors') (rolesPass netbox slugify args colors s).store (i, n) := by
  have hset := (attemptAll_refused (rolePayload_ofKind slugify colors)
    (missing DeviceRole.name s.deviceRoles args.roles).enum (fun _ _ => ⟨_, rfl⟩) s).2
  by_cases hm : n ∈ missing DeviceRole.name s.deviceRoles args.roles
  · obtain ⟨j, hj⟩ := List.mem_iff_getElem?.mp hm
    exact (hset (j, n) (.inl (List.mem_enum_iff_getElem?.mpr hj))).recolor slugify i
  · obtain ⟨r, hr, rfl⟩ : ∃ r ∈ s.deviceRoles, r.name = n := by simpa [mem_missing, hn] using hm
    exact (hset (0, r.name) (.inr fun _ hp => by
      cases hp; exact List.all_eq_false.mpr ⟨r, hr, by simp⟩)).recolor slugify i

/-- Either no device-type payload is built, or every desired model ends refused. -/
theorem deviceTypesPass_refused (manufacturers : PyDict String Manufacturer) (s : Store) :
    ∀ m ∈ args.deviceTypes, Refused (deviceTypePayload slugify manufacturers)
      (deviceTypesPass netbox slugify args manufacturers s).store m := by
  rcases deviceTypePayload_cases slugify manufacturers with hok | hnone
  · refine (attemptAll_missing_refused (deviceTypePayload_ofKind slugify manufacturers) hok
      _ _ _ s fun d hd p hp => ?_).2
    obtain ⟨_, rfl⟩ := deviceTypePayload_eq_ok slugify hp
    simp only [netboxAccepts, Bool.and_eq_false_iff, List.all_eq_false]
    exact .inl ⟨d, hd, by simp⟩
  · exact fun m _ p hp => absurd hp (hnone m p)

theorem sitesPass_refused (s : Store) :
    ∀ n ∈ args.netboxSites,
      Refused (sitePayload slugify) (sitesPass netbox slugify args s).store n :=
  (attemptAll_missing_refused (sitePayload_ofKind slugify) (fun _ => ⟨_, rfl⟩) _ _ _ s
    fun x hx _ hp => by cases hp; exact List.all_eq_false.mpr ⟨x, hx, by simp⟩).2

/-! ### The invariant and the two runs -/

/-- The block's output: NetBox refuses every payload the block can build for a desired name,
and every prefix is backfilled. -/
structure Settled (S : Store) : Prop where
  groups : ∀ n ∈ defaultGroupNames args, Refused groupPayload S n
  permissions : ∀ kv ∈ (defaultPermissions args).items, (kv.2.name != "") = true →
    Refused (permissionPayload (keyed Group.name S.groups) (S.objectTypes.map ObjectType.label))
      S kv.2
  manufacturers : ∀ n ∈ args.manufacturers, Refused (manufacturerPayload slugify) S n
  roles : ∀ n ∈ args.roles, ∀ colors i, Refused (rolePayload slugify colors) S (i, n)
  deviceTypes : ∀ m ∈ args.deviceTypes,
    Refused (deviceTypePayload slugify (keyed Manufacturer.name S.manufacturers)) S m
  sites : ∀ n ∈ args.netboxSites, Refused (sitePayload slugify) S n
  prefixes : prefixBackfill S = S

/-- One run of the block leaves a settled store. -/
theorem reconcile_settled (colors : Nat → String) (s : Store) :
    Settled slugify args (reconcile netbox slugify colors args s).store := by
  obtain ⟨hgE, hgR⟩ := groupsPass_refused args s
  let G := (groupsPass netbox args s).store
  let P := (permissionsPass netbox args (keyed Group.name G.groups) G).store
  obtain ⟨hmE, hmR⟩ := manufacturersPass_refused slugify args P
  let M := (manufacturersPass netbox slugify args P).store
  let R := (rolesPass netbox slugify args colors M).store
  let D := (deviceTypesPass netbox slugify args (keyed Manufacturer.name M.manufacturers) R).store
  let T := (sitesPass netbox slugify args D).store
  have hS : (reconcile netbox slugify colors args s).store = prefixBackfill T := by
    simp only [reconcile, afterPass_of_none hgE, afterPass_of_none hmE]
  -- each pass's store grows into the final one by changes of later kinds
  have hT : Grows 6 T (prefixBackfill T) := Relation.ReflTransGen.single (.inr rfl)
  have hD : Grows 5 D (prefixBackfill T) := Relation.ReflTransGen.trans
    (attemptAll_grows (sitePayload_ofKind slugify) _ _) (hT.mono (by omega))
  have hR : Grows 4 R (prefixBackfill T) := Relation.ReflTransGen.trans
    (attemptAll_grows (deviceTypePayload_ofKind slugify _) _ _) (hD.mono (by omega))
  have hM : Grows 3 M (prefixBackfill T) := Relation.ReflTransGen.trans
    (attemptAll_grows (rolePayload_ofKind slugify colors) _ _) (hR.mono (by omega))
  have hP : Grows 2 P (prefixBackfill T) := Relation.ReflTransGen.trans
    (attemptAll_grows (manufacturerPayload_ofKind slugify) _ _) (hM.mono (by omega))
  have hG : Grows 1 G (prefixBackfill T) := Relation.ReflTransGen.trans
    (attemptAll_grows (fun kv p hp => permissionPayload_ofKind _ _ kv.2 p hp) _ _)
    (hP.mono (by omega))
  rw [hS]
  refine ⟨fun n hn => hG.refused groupPayload_ofKind (hgR n hn), fun kv hkv hname => ?_,
    fun n hn => hM.refused (manufacturerPayload_ofKind slugify) (hmR n hn),
    fun n hn colors' i => hR.refused (rolePayload_ofKind slugify colors')
      (rolesPass_refused slugify args colors M hn colors' i), fun m hm => ?_,
    fun n hn => hT.refused (sitePayload_ofKind slugify) (sitesPass_refused slugify args D n hn),
    prefixBackfill_idem T⟩
  · rw [hG.groups, hG.objectTypes]
    exact hP.refused (permissionPayload_ofKind _ _) (permissionsPass_refused args G hgR kv hkv hname)
  · rw [hM.manufacturers]
    exact hD.refused (deviceTypePayload_ofKind slugify _)
      (deviceTypesPass_refused slugify args _ R m hm)

/-- A run from a settled store sends only refused payloads and changes nothing. -/
theorem reconcile_of_settled (colors : Nat → String) {S : Store} (h : Settled slugify args S) :
    (reconcile netbox slugify colors args S).store = S := by
  have hg : (groupsPass netbox args S).store = S :=
    attemptAll_store_of_refused netbox _ _ S fun n hn => h.groups n ((mem_missing _ _ _ _).mp hn).1
  have hp : (permissionsPass netbox args (keyed Group.name S.groups) S).store = S :=
    attemptAll_store_of_refused netbox _ _ S fun kv hkv => by
      obtain ⟨hkv, hk⟩ := List.mem_filter.mp hkv
      exact h.permissions kv hkv (Bool.and_eq_true_iff.mp hk).1
  have hm : (manufacturersPass netbox slugify args S).store = S :=
    attemptAll_store_of_refused netbox _ _ S fun n hn =>
      h.manufacturers n ((mem_missing _ _ _ _).mp hn).1
  have hr : (rolesPass netbox slugify args colors S).store = S :=
    attemptAll_store_of_refused netbox _ _ S fun a ha =>
      h.roles a.2 ((mem_missing _ _ _ _).mp (List.snd_mem_of_mem_enum ha)).1 colors a.1
  have hd : (deviceTypesPass netbox slugify args (keyed Manufacturer.name S.manufacturers) S).store
      = S :=
    attemptAll_store_of_refused netbox _ _ S fun m hm =>
      h.deviceTypes m ((mem_missing _ _ _ _).mp hm).1
  have ht : (sitesPass netbox slugify args S).store = S :=
    attemptAll_store_of_refused netbox _ _ S fun n hn => h.sites n ((mem_missing _ _ _ _).mp hn).1
  simp only [reconcile, afterPass_of_none (groupsPass_refused args S).1, hg, hp,
    afterPass_of_none (manufacturersPass_refused slugify args S).1, hm, hr, hd, ht, h.prefixes]

end Passes

theorem reconcile_idempotent (slugify : String → String) (colors₁ colors₂ : Nat → String)
    (args : Args) (s : Store) :
    (reconcile netbox slugify colors₂ args (reconcile netbox slugify colors₁ args s).store).store =
      (reconcile netbox slugify colors₁ args s).store :=
  reconcile_of_settled slugify args colors₂ (reconcile_settled slugify args colors₁ s)

end NetboxInit.Api
