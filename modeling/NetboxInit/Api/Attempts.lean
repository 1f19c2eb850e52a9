import NetboxInit.Api.Reconcile

/-!
# What one pass of the reconciliation block does

Facts about the loop `attemptAll` that every pass shares, and from them, whatever the server
accepts, that the block only appends records. Then NetBox's rule: a creation it refuses stays
refused while records of the same kind are added, and a record it accepts makes its own payload
refused from then on. The idempotence of the block is assembled from these.
-/

namespace NetboxInit.Api
open NetboxInit.Python

/-- `t` is `s` with the records of some of `calls` added, in the order of the calls. -/
def AddsSome (calls : List Payload) (s t : Store) : Prop :=
  ∃ ps : List Payload, ps.Sublist calls ∧ t = ps.foldl Store.add s

theorem AddsSome.trans {c₁ c₂ : List Payload} {s t u : Store} (h₁ : AddsSome c₁ s t)
    (h₂ : AddsSome c₂ t u) : AddsSome (c₁ ++ c₂) s u := by
  obtain ⟨p₁, hp₁, rfl⟩ := h₁
  obtain ⟨p₂, hp₂, rfl⟩ := h₂
  exact ⟨p₁ ++ p₂, hp₁.append hp₂, by rw [List.foldl_append]⟩

/-- Adding records only appends: the initial tables stay prefixes. -/
theorem AddsSome.toExtends {calls : List Payload} {s t : Store} (h : AddsSome calls s t) :
    s.Extends t := by
  obtain ⟨ps, -, rfl⟩ := h
  induction ps generalizing s with
  | nil => exact .refl s
  | cons p ps ih => exact (s.extends_add p).trans ih

section Loop

variable {α : Type} (server : Server) (build : α → Except PyError Payload)

/-- A loop in which every payload is refused leaves the store as it was. -/
theorem attemptAll_store_of_refused (items : List α) (s : Store)
    (h : ∀ a ∈ items, ∀ p, build a = .ok p → server.accepts s p = false) :
    (attemptAll server build items s).store = s := by
  induction items with
  | nil => rfl
  | cons a as ih =>
    have has := ih fun b hb => h b (List.mem_cons_of_mem _ hb)
    cases hb : build a with
    | error e => simp [attemptAll, hb]
    | ok p => simp [attemptAll, hb, Server.attempt_eq, h a (List.mem_cons_self _ _) p hb, has]

/-- A field that no payload of the loop writes is unchanged. -/
theorem attemptAll_preserves {β : Type} (f : Store → β) (items : List α)
    (hf : ∀ a ∈ items, ∀ p, build a = .ok p → ∀ t, f (t.add p) = f t) (s : Store) :
    f (attemptAll server build items s).store = f s := by
  induction items generalizing s with
  | nil => rfl
  | cons a as ih =>
    cases hb : build a with
    | error e => simp [attemptAll, hb]
    | ok p =>
      have hstep : f (server.attempt s p) = f s := by
        rw [Server.attempt_eq]; split
        · exact hf a (List.mem_cons_self _ _) p hb s
        · rfl
      simp only [attemptAll, hb]
      rw [ih (fun b hb' => hf b (List.mem_cons_of_mem _ hb')), hstep]

/-- A property that every added record of the loop keeps holds at its end. -/
theorem attemptAll_mono (R : Store → Prop) (items : List α)
    (hR : ∀ a ∈ items, ∀ p, build a = .ok p → ∀ t, R t → R (t.add p)) (s : Store) (hs : R s) :
    R (attemptAll server build items s).store := by
  induction items generalizing s with
  | nil => exact hs
  | cons a as ih =>
    cases hb : build a with
    | error e => simpa [attemptAll, hb] using hs
    | ok p =>
      simp only [attemptAll, hb]
      refine ih (fun b hb' => hR b (List.mem_cons_of_mem _ hb')) _ ?_
      rw [Server.attempt_eq]; split
      · exact hR a (List.mem_cons_self _ _) p hb s hs
      · exact hs

/-- When every payload can be built, the loop runs to its end, and `R` holds of every item
afterwards if one attempt establishes it for its item and later additions keep it. -/
theorem attemptAll_settles (R : Store → α → Prop) (items : List α)
    (hok : ∀ a ∈ items, ∃ p, build a = .ok p)
    (hstep : ∀ a ∈ items, ∀ p, build a = .ok p → ∀ t, R (server.attempt t p) a)
    (hmono : ∀ a ∈ items, ∀ b ∈ items, ∀ p, build b = .ok p → ∀ t, R t a → R (t.add p) a)
    (s : Store) :
    (attemptAll server build items s).escaped = none ∧
      ∀ a ∈ items, R (attemptAll server build items s).store a := by
  induction items generalizing s with
  | nil => exact ⟨rfl, fun _ h => absurd h (List.not_mem_nil _)⟩
  | cons a as ih =>
    obtain ⟨p, hp⟩ := hok a (List.mem_cons_self _ _)
    have sub : ∀ b ∈ as, b ∈ a :: as := fun b hb => List.mem_cons_of_mem _ hb
    obtain ⟨hesc, hrest⟩ := ih (fun b hb => hok b (sub b hb)) (fun b hb => hstep b (sub b hb))
      (fun b hb c hc => hmono b (sub b hb) c (sub c hc)) (server.attempt s p)
    simp only [attemptAll, hp]
    refine ⟨hesc, fun b hb => ?_⟩
    rcases List.mem_cons.mp hb with rfl | hb
    · exact attemptAll_mono server build (R · b) as
        (fun c hc q hq t => hmono b hb c (sub c hc) q hq t) _ (hstep b hb p hp s)
    · exact hrest b hb

/-- When every payload can be built the loop sends one call per item, in order, whatever the
server refuses. -/
theorem attemptAll_calls_of_ok (f : α → Payload) (hf : ∀ a, build a = .ok (f a))
    (items : List α) (s : Store) : (attemptAll server build items s).calls = items.map f := by
  induction items generalizing s with
  | nil => rfl
  | cons a as ih => simp [attemptAll, hf, ih]

/-- A loop adds the records of the calls the server accepted, in order, and nothing else. -/
theorem attemptAll_addsSome (items : List α) (s : Store) :
    AddsSome (attemptAll server build items s).calls s (attemptAll server build items s).store := by
  induction items generalizing s with
  | nil => exact ⟨[], .slnil, rfl⟩
  | cons a as ih =>
    cases hb : build a with
    | error e => simp only [attemptAll, hb]; exact ⟨[], .slnil, rfl⟩
    | ok p =>
      obtain ⟨ps, hps, he⟩ := ih (server.attempt s p)
      simp only [attemptAll, hb]
      rw [Server.attempt_eq] at hps he ⊢
      by_cases hacc : server.accepts s p
      · rw [if_pos hacc] at hps he ⊢
        exact ⟨p :: ps, hps.cons₂ p, he⟩
      · rw [if_neg hacc] at hps he ⊢
        exact ⟨ps, hps.cons p, he⟩

end Loop

/-- Refusals never stop a pass whose payloads are built without raising: the groups,
manufacturers, roles and sites passes send one create call per name missing when they begin. -/
theorem passes_call_every_missing (server : Server) (slugify : String → String)
    (colors : Nat → String) (args : Args) (s : Store) :
    (groupsPass server args s).calls =
        (missing Group.name s.groups (defaultGroupNames args)).map .group ∧
      (manufacturersPass server slugify args s).calls =
        (missing Manufacturer.name s.manufacturers args.manufacturers).map
          (fun n => .manufacturer n (slugify n)) ∧
      (rolesPass server slugify args colors s).calls =
        (missing DeviceRole.name s.deviceRoles args.roles).enum.map
          (fun a => .deviceRole a.2 (slugify a.2) true (colors a.1)) ∧
      (sitesPass server slugify args s).calls =
        (missing Site.name s.sites args.netboxSites).map fun n => .site n (slugify n) :=
  ⟨attemptAll_calls_of_ok server _ _ (fun _ => rfl) _ _,
    attemptAll_calls_of_ok server _ _ (fun _ => rfl) _ _,
    attemptAll_calls_of_ok server _ _ (fun _ => rfl) _ _,
    attemptAll_calls_of_ok server _ _ (fun _ => rfl) _ _⟩

/-- The block adds the records of some of its calls, in order, then backfills the prefixes. -/
theorem reconcile_addsSome (server : Server) (slugify : String → String) (colors : Nat → String)
    (args : Args) (s : Store) :
    ∃ t, AddsSome (reconcile server slugify colors args s).calls s t ∧
      (reconcile server slugify colors args s).store = prefixBackfill t := by
  refine ⟨_, ?_, rfl⟩
  iterate 5 refine .trans ?_ (attemptAll_addsSome server _ _ _)
  exact attemptAll_addsSome server _ _ _

/-- Whatever the server accepts, the block removes and changes no record: the final store is
the prefix backfill of a store that extends the initial one. -/
theorem reconcile_extends (server : Server) (slugify : String → String) (colors : Nat → String)
    (args : Args) (s : Store) :
    ∃ t, s.Extends t ∧ (reconcile server slugify colors args s).store = prefixBackfill t :=
  let ⟨t, ht, he⟩ := reconcile_addsSome server slugify colors args s
  ⟨t, ht.toExtends, he⟩

/-! ### NetBox's refusals along a loop -/

section Refusal

variable {α : Type} (build : α → Except PyError Payload)

/-- NetBox refuses whatever payload `build` makes of `a`. -/
def Refused (t : Store) (a : α) : Prop :=
  ∀ p, build a = .ok p → netboxAccepts t p = false

/-- Every payload `build` makes is of kind `k`. -/
def OfKind (k : Nat) : Prop :=
  ∀ a p, build a = .ok p → p.kind = k

variable {build}

/-- Right after an attempt its payload is refused: it was stored, or it was refused. -/
theorem refused_attempt {a : α} {p : Payload} (hp : build a = .ok p) (t : Store) :
    Refused build (netbox.attempt t p) a := by
  intro q hq
  obtain rfl : p = q := Except.ok.inj (hp.symm.trans hq)
  rw [Server.attempt_eq]
  split
  · exact netboxAccepts_add_self t p
  · exact Bool.eq_false_iff.mpr ‹_›

theorem Refused.add {k : Nat} (hk : OfKind build k) {q : Payload} (hq : q.kind = k) {t : Store}
    {a : α} (h : Refused build t a) : Refused build (t.add q) a :=
  fun p hp => netboxAccepts_add_of_kind t q p (hq.trans (hk a p hp).symm) (h p hp)

theorem refused_add_of_lt {k : Nat} (hk : OfKind build k) {q : Payload} (hq : k < q.kind)
    (t : Store) (a : α) : Refused build (t.add q) a = Refused build t a :=
  forall_congr fun p => forall_congr fun hp => by
    rw [netboxAccepts_add_of_lt t q p (by rw [hk a p hp]; exact hq)]

theorem refused_prefixBackfill (t : Store) (a : α) :
    Refused build (prefixBackfill t) a = Refused build t a := by
  simp only [Refused, netboxAccepts_prefixBackfill]

/-- A refusal survives a loop over payloads of its own kind. -/
theorem Refused.after_loop {k : Nat} (hk : OfKind build k) (items : List α) {s : Store} {a : α}
    (h : Refused build s a) : Refused build (attemptAll netbox build items s).store a :=
  attemptAll_mono netbox build (Refused build · a) items
    (fun b _ p hp _ ht => ht.add hk (hk b p hp)) s h

/-- A loop over payloads that can all be built runs to its end, after which NetBox refuses the
payload of every item, and still refuses what it refused before. -/
theorem attemptAll_refused {k : Nat} (hk : OfKind build k) (items : List α)
    (hok : ∀ a ∈ items, ∃ p, build a = .ok p) (s : Store) :
    (attemptAll netbox build items s).escaped = none ∧
      ∀ a, a ∈ items ∨ Refused build s a → Refused build (attemptAll netbox build items s).store a := by
  obtain ⟨hesc, hset⟩ := attemptAll_settles netbox build (Refused build) items hok
    (fun _ _ _ hp t => refused_attempt hp t) (fun _ _ b _ p hp _ ht => ht.add hk (hk b p hp)) s
  exact ⟨hesc, fun a => Or.rec (hset a) (Refused.after_loop hk items)⟩

/-- A pass over the desired names not yet listed, all of whose payloads can be built, ends
with every desired name refused when the names already listed are refused. -/
theorem attemptAll_missing_refused {R : Type} {build : String → Except PyError Payload}
    {k : Nat} (hk : OfKind build k) (hok : ∀ a, ∃ p, build a = .ok p) (key : R → String)
    (rs : List R) (desired : List String) (s : Store) (hpre : ∀ r ∈ rs, Refused build s (key r)) :
    (attemptAll netbox build (missing key rs desired) s).escaped = none ∧
      ∀ a ∈ desired, Refused build (attemptAll netbox build (missing key rs desired) s).store a := by
  obtain ⟨hesc, hset⟩ := attemptAll_refused hk _ (fun a _ => hok a) s
  refine ⟨hesc, fun a ha => hset a ?_⟩
  by_cases hm : a ∈ missing key rs desired
  · exact .inl hm
  · obtain ⟨r, hr, rfl⟩ : ∃ r ∈ rs, key r = a := by simpa [mem_missing, ha] using hm
    exact .inr (hpre r hr)

end Refusal

end NetboxInit.Api
