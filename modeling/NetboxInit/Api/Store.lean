import NetboxInit.Python.Dict

/-!
# The NetBox API as a store of records (`netbox_init.py:710-920`)

The reconciliation block talks to NetBox through `pynetbox`: `.all()` / `.filter()` list the
records of a kind, `.create(payload)` adds one or raises `pynetbox.RequestError`, and
`prefix.update(...)` patches a prefix. The store keeps one table per kind the block touches;
a created record takes the next id and is appended to its table. Only the fields the block
sends or reads are kept. A server is a rule deciding which creations it accepts; `netbox` is
NetBox's own rule: a creation is refused when the record collides with an existing one on a
unique field (name, slug, model) or lacks a required reference (the member groups and object
types of a permission, the manufacturer of a device type).
-/

namespace NetboxInit.Api
open NetboxInit.Python

structure Group where
  id : Nat
  name : String

structure ObjectType where
  appLabel : String
  model : String

structure Permission where
  id : Nat
  name : String
  enabled : Bool
  groups : List Nat
  actions : List String
  objectTypes : List String

structure Manufacturer where
  id : Nat
  name : String
  slug : String

structure DeviceRole where
  id : Nat
  name : String
  slug : String
  vmRole : Bool
  color : String

structure DeviceType where
  id : Nat
  model : String
  slug : String
  manufacturer : Option Nat

structure Site where
  id : Nat
  name : String
  slug : String

/-- The VRF record nested in a prefix. -/
structure Vrf where
  name : String
  display : String

structure Prefix where
  id : Nat
  description : String
  vrf : Option Vrf

structure Store where
  groups : List Group
  objectTypes : List ObjectType
  permissions : List Permission
  manufacturers : List Manufacturer
  deviceRoles : List DeviceRole
  deviceTypes : List DeviceType
  sites : List Site
  prefixes : List Prefix
  nextId : Nat

/-- The body of a `create` call. -/
inductive Payload
  | group (name : String)
  | permission (name : String) (enabled : Bool) (groups : List Nat) (actions : List String)
      (objectTypes : List String)
  | manufacturer (name slug : String)
  | deviceRole (name slug : String) (vmRole : Bool) (color : String)
  | deviceType (model slug : String) (manufacturer : Option Nat)
  | site (name slug : String)

/-- The position of a payload's kind in the block's creation order. -/
def Payload.kind : Payload → Nat
  | .group _ => 0
  | .permission .. => 1
  | .manufacturer .. => 2
  | .deviceRole .. => 3
  | .deviceType .. => 4
  | .site .. => 5

namespace Store

/-- The record a successful `create` stores, with the next id. -/
def add (s : Store) : Payload → Store
  | .group name => { s with groups := s.groups ++ [⟨s.nextId, name⟩], nextId := s.nextId + 1 }
  | .permission name enabled groups actions objectTypes =>
    { s with permissions := s.permissions ++ [⟨s.nextId, name, enabled, groups, actions, objectTypes⟩],
             nextId := s.nextId + 1 }
  | .manufacturer name slug =>
    { s with manufacturers := s.manufacturers ++ [⟨s.nextId, name, slug⟩], nextId := s.nextId + 1 }
  | .deviceRole name slug vmRole color =>
    { s with deviceRoles := s.deviceRoles ++ [⟨s.nextId, name, slug, vmRole, color⟩],
             nextId := s.nextId + 1 }
  | .deviceType model slug manufacturer =>
    { s with deviceTypes := s.deviceTypes ++ [⟨s.nextId, model, slug, manufacturer⟩],
             nextId := s.nextId + 1 }
  | .site name slug => { s with sites := s.sites ++ [⟨s.nextId, name, slug⟩], nextId := s.nextId + 1 }

/-- `t` holds every record of `s` at its place, possibly followed by new ones, and the same
object types and prefixes. -/
structure Extends (s t : Store) : Prop where
  groups : s.groups <+: t.groups
  permissions : s.permissions <+: t.permissions
  manufacturers : s.manufacturers <+: t.manufacturers
  deviceRoles : s.deviceRoles <+: t.deviceRoles
  deviceTypes : s.deviceTypes <+: t.deviceTypes
  sites : s.sites <+: t.sites
  objectTypes : t.objectTypes = s.objectTypes
  prefixes : t.prefixes = s.prefixes

theorem Extends.refl (s : Store) : s.Extends s :=
  ⟨List.prefix_refl _, List.prefix_refl _, List.prefix_refl _, List.prefix_refl _,
    List.prefix_refl _, List.prefix_refl _, rfl, rfl⟩

theorem Extends.trans {s t u : Store} (h : s.Extends t) (h' : t.Extends u) : s.Extends u :=
  ⟨h.groups.trans h'.groups, h.permissions.trans h'.permissions,
    h.manufacturers.trans h'.manufacturers, h.deviceRoles.trans h'.deviceRoles,
    h.deviceTypes.trans h'.deviceTypes, h.sites.trans h'.sites,
    h'.objectTypes.trans h.objectTypes, h'.prefixes.trans h.prefixes⟩

/-- A created record is appended to its table. -/
theorem extends_add (s : Store) (p : Payload) : s.Extends (s.add p) := by
  cases p <;> constructor <;> simp [add, List.prefix_refl]

theorem add_objectTypes (s : Store) (p : Payload) : (s.add p).objectTypes = s.objectTypes := by
  cases p <;> rfl

theorem add_groups (s : Store) (p : Payload) (h : p.kind ≠ 0) : (s.add p).groups = s.groups := by
  cases p <;> first | rfl | exact absurd rfl h

theorem add_manufacturers (s : Store) (p : Payload) (h : p.kind ≠ 2) :
    (s.add p).manufacturers = s.manufacturers := by
  cases p <;> first | rfl | exact absurd rfl h

theorem add_deviceTypes (s : Store) (p : Payload) (h : p.kind ≠ 4) :
    (s.add p).deviceTypes = s.deviceTypes := by
  cases p <;> first | rfl | exact absurd rfl h

end Store

/-- A NetBox server, by the creations it accepts; a refused one raises `RequestError`. -/
structure Server where
  accepts : Store → Payload → Bool

def Server.create (server : Server) (s : Store) (p : Payload) : Except PyError Store :=
  if server.accepts s p then .ok (s.add p) else .error .requestError

/-- The store after `create` inside `try ... except pynetbox.RequestError`. -/
def Server.attempt (server : Server) (s : Store) (p : Payload) : Store :=
  match server.create s p with
  | .ok t => t
  | .error _ => s

theorem Server.attempt_eq (server : Server) (s : Store) (p : Payload) :
    server.attempt s p = if server.accepts s p then s.add p else s := by
  unfold attempt create
  by_cases h : server.accepts s p <;> simp [h]

/-- `f'{x.app_label}.{x.model}'`. -/
def ObjectType.label (o : ObjectType) : String := o.appLabel ++ "." ++ o.model

/-- NetBox's rule: unique names, slugs and models, and existing references. -/
def netboxAccepts (s : Store) : Payload → Bool
  | .group name => s.groups.all (·.name != name)
  | .permission name _ groups _ objectTypes =>
    s.permissions.all (·.name != name) && groups.all (fun g => s.groups.any (·.id == g)) &&
      objectTypes.all fun o => s.objectTypes.any (·.label == o)
  | .manufacturer name slug => s.manufacturers.all fun m => m.name != name && m.slug != slug
  | .deviceRole name slug _ _ => s.deviceRoles.all fun r => r.name != name && r.slug != slug
  | .deviceType model slug manufacturer =>
    (s.deviceTypes.all fun d => d.model != model && d.slug != slug) &&
      manufacturer.any fun m => s.manufacturers.any (·.id == m)
  | .site name slug => s.sites.all fun x => x.name != name && x.slug != slug

def netbox : Server := ⟨netboxAccepts⟩

theorem netboxAccepts_group (s : Store) (n : String) :
    netboxAccepts s (.group n) = false ↔ ∃ g ∈ s.groups, g.name = n := by
  simp [netboxAccepts, List.all_eq_false]

/-- A stored record collides with its own payload. -/
theorem netboxAccepts_add_self (s : Store) (p : Payload) : netboxAccepts (s.add p) p = false := by
  cases p <;> simp [netboxAccepts, Store.add, List.all_append]

/-- A refusal stays a refusal while records of the same kind are added. -/
theorem netboxAccepts_add_of_kind (s : Store) (p q : Payload) (h : p.kind = q.kind)
    (hq : netboxAccepts s q = false) : netboxAccepts (s.add p) q = false := by
  -- the reason `q` was refused is still among the reasons after the append
  cases p <;> cases q <;> simp [Payload.kind] at h <;> revert hq <;>
    simp only [netboxAccepts, Store.add, List.all_append, Bool.and_eq_false_iff] <;>
    first | exact Or.inl | exact Or.imp_left Or.inl | exact Or.imp_left (Or.imp_left Or.inl)

/-- Records of a later kind do not enter NetBox's decision on an earlier kind. -/
theorem netboxAccepts_add_of_lt (s : Store) (p q : Payload) (h : q.kind < p.kind) :
    netboxAccepts (s.add p) q = netboxAccepts s q := by
  cases p <;> cases q <;> first | rfl | simp [Payload.kind] at h

end NetboxInit.Api
