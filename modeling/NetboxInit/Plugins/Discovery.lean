import NetboxInit.Plugins.Ast

/-!
# Plugin name discovery (`netbox_init.py:429-456`)

For each `__init__.py` that `rg` lists, the loop parses the file and looks at the classes of its
module body. A class is a plugin when one of its bases is `PluginConfig`; the test reads
`baseClass.id` for every base before `any` sees the list, and only `ast.Name` has an `id`, so a
base such as `abc.ABC` raises `AttributeError`. The enclosing `try` catches it per file: the
names appended before it stay in `pluginNames`, the rest of that file is skipped. In a plugin
class every direct member `Assign` with a target `Name('name')` and a `Constant` value appends
that constant, whatever its type.
-/

namespace NetboxInit.Plugins
open NetboxInit.Python

/-- `baseClass.id`. -/
def baseId : Expr → Except PyError String
  | .name id => .ok id
  | _ => .error .attributeError

/-- `any([baseClass.id == 'PluginConfig' for baseClass in c.bases])`. -/
def isPluginClass (bases : List Expr) : Except PyError Bool :=
  (bases.mapM baseId).map fun ids => ids.any (· == "PluginConfig")

/-- `isinstance(target, ast.Name) and target.id == 'name'`. -/
def isNameTarget : Expr → Bool
  | .name id => id == "name"
  | _ => false

/-- What one member of a plugin class appends: its constant once per `name` target. -/
def memberNames : Stmt → List Const
  | .assign t ts (.const c) => ((t :: ts).filter isNameTarget).map fun _ => c
  | _ => []

/-- One class of the module body. -/
def scanClass (bases : List Expr) (body : List Stmt) : Except PyError (List Const) := do
  if ← isPluginClass bases then pure (body.flatMap memberNames) else pure []

/-- `isinstance(n, ast.ClassDef)`, with the fields the loop reads. -/
def Stmt.classDef? : Stmt → Option (List Expr × List Stmt)
  | .classDef _ bases body => some (bases, body)
  | _ => none

/-- The classes of one file in order: the names they append and the exception that ended the
scan of the file, if one did. -/
def scanClasses : List (List Expr × List Stmt) → List Const × Option PyError
  | [] => ([], none)
  | (bases, body) :: cs =>
    match scanClass bases body with
    | .error e => ([], some e)
    | .ok ns =>
      let rest := scanClasses cs
      (ns ++ rest.1, rest.2)

/-- The names one parsed file appends to `pluginNames`. -/
def scanModule (m : Module) : List Const :=
  (scanClasses (m.filterMap Stmt.classDef?)).1

/-- The discovery loop: a candidate is `none` when it is not a regular file or does not parse
(the `SyntaxError` is caught before anything is appended). -/
def discoverPluginNames (files : List (Option Module)) : List Const :=
  files.flatMap fun f => (f.map scanModule).getD []

/-! ### What the loop collects -/

/-- `m` has a top-level class with the bare name `PluginConfig` among its bases and a direct
member `name = c` (possibly among several targets). -/
def DeclaresPluginName (m : Module) (c : Const) : Prop :=
  ∃ n bases body, Stmt.classDef n bases body ∈ m ∧ Expr.name "PluginConfig" ∈ bases ∧
    ∃ t ts, Stmt.assign t ts (.const c) ∈ body ∧ Expr.name "name" ∈ t :: ts

/-- Every base of every top-level class of `m` is a bare name. -/
def NameBasesOnly (m : Module) : Prop :=
  ∀ n bases body, Stmt.classDef n bases body ∈ m → ∀ b ∈ bases, ∃ id, b = Expr.name id

theorem Stmt.eq_classDef_of_classDef? {s : Stmt} {p : List Expr × List Stmt}
    (h : s.classDef? = some p) : ∃ n, s = .classDef n p.1 p.2 := by
  cases s <;> cases h
  exact ⟨_, rfl⟩

theorem isNameTarget_iff (e : Expr) : isNameTarget e = true ↔ e = .name "name" := by
  cases e <;> simp [isNameTarget]

theorem mem_memberNames (s : Stmt) (c : Const) :
    c ∈ memberNames s ↔ ∃ t ts, s = .assign t ts (.const c) ∧ Expr.name "name" ∈ t :: ts := by
  match s with
  | .assign t ts (.const c') =>
    simp only [memberNames, List.mem_map, List.mem_filter, isNameTarget_iff, Stmt.assign.injEq,
      Expr.const.injEq]
    constructor
    · rintro ⟨a, ⟨ha, rfl⟩, rfl⟩; exact ⟨t, ts, ⟨rfl, rfl, rfl⟩, ha⟩
    · rintro ⟨t, ts, ⟨rfl, rfl, rfl⟩, ha⟩; exact ⟨_, ⟨ha, rfl⟩, rfl⟩
  | .assign _ _ (.name _) | .assign _ _ (.list _) | .assign _ _ (.attribute _ _)
  | .assign _ _ (.other _ _) | .classDef _ _ _ | .compound _ _ _ | .simple _ _ =>
    simp [memberNames]

theorem mapM_baseId_of_names (bases : List Expr) (h : ∀ b ∈ bases, ∃ id, b = Expr.name id) :
    ∃ ids, bases.mapM baseId = .ok ids ∧ bases = ids.map Expr.name := by
  induction bases with
  | nil => exact ⟨[], rfl, rfl⟩
  | cons b bs ih =>
    obtain ⟨id, rfl⟩ := h b (List.mem_cons_self _ _)
    obtain ⟨ids, hids, rfl⟩ := ih fun b hb => h b (List.mem_cons_of_mem _ hb)
    exact ⟨id :: ids, by rw [List.mapM_cons, hids]; rfl, rfl⟩

/-- With bare-name bases the plugin test cannot raise. -/
theorem isPluginClass_of_names (bases : List Expr) (h : ∀ b ∈ bases, ∃ id, b = Expr.name id) :
    ∃ b, isPluginClass bases = .ok b ∧ (b = true ↔ Expr.name "PluginConfig" ∈ bases) := by
  obtain ⟨ids, hids, rfl⟩ := mapM_baseId_of_names bases h
  exact ⟨_, by rw [isPluginClass, hids]; rfl, by simp⟩

theorem mem_scanClasses (cs : List (List Expr × List Stmt))
    (h : ∀ p ∈ cs, ∀ b ∈ p.1, ∃ id, b = Expr.name id) (c : Const) :
    c ∈ (scanClasses cs).1 ↔
      ∃ p ∈ cs, Expr.name "PluginConfig" ∈ p.1 ∧ c ∈ p.2.flatMap memberNames := by
  induction cs with
  | nil => simp [scanClasses]
  | cons p cs ih =>
    obtain ⟨b, hb, hbiff⟩ := isPluginClass_of_names p.1 (h p (List.mem_cons_self _ _))
    have hcs := ih fun q hq => h q (List.mem_cons_of_mem _ hq)
    obtain ⟨bases, body⟩ := p
    have hscan : scanClass bases body = .ok (if b then body.flatMap memberNames else []) := by
      simp only [scanClass, hb]; cases b <;> rfl
    have hmem : c ∈ (if b then body.flatMap memberNames else []) ↔
        Expr.name "PluginConfig" ∈ bases ∧ c ∈ body.flatMap memberNames := by
      rw [← hbiff]; cases b <;> simp
    simp only [scanClasses, hscan, List.mem_append, hcs, List.mem_cons, exists_eq_or_imp, hmem]

theorem mem_scanModule (m : Module) (h : NameBasesOnly m) (c : Const) :
    c ∈ scanModule m ↔ DeclaresPluginName m c := by
  have hc : ∀ p ∈ m.filterMap Stmt.classDef?, ∃ n, Stmt.classDef n p.1 p.2 ∈ m := fun p hp => by
    obtain ⟨s, hs, hsp⟩ := List.mem_filterMap.mp hp
    obtain ⟨n, rfl⟩ := Stmt.eq_classDef_of_classDef? hsp
    exact ⟨n, hs⟩
  rw [scanModule, mem_scanClasses _ (fun p hp b hb => by
    obtain ⟨n, hn⟩ := hc p hp
    exact h n p.1 p.2 hn b hb)]
  constructor
  · rintro ⟨⟨bases, body⟩, hp, hpc, hmem⟩
    obtain ⟨n, hn⟩ := hc _ hp
    obtain ⟨s, hs, hcs⟩ := List.mem_flatMap.mp hmem
    obtain ⟨t, ts, rfl, ht⟩ := (mem_memberNames s c).mp hcs
    exact ⟨n, bases, body, hn, hpc, t, ts, hs, ht⟩
  · rintro ⟨n, bases, body, hn, hpc, t, ts, hs, ht⟩
    refine ⟨(bases, body), List.mem_filterMap.mpr ⟨_, hn, rfl⟩, hpc, ?_⟩
    exact List.mem_flatMap.mpr ⟨_, hs, (mem_memberNames _ c).mpr ⟨t, ts, rfl, ht⟩⟩

/-- The loop collects the union of what each parsed file contributes, and a file whose classes
have bare-name bases contributes exactly the constants of the `name` members of its plugin
classes, whatever their type and whatever the other files hold. -/
theorem discoverPluginNames_iff (files : List (Option Module)) (c : Const) :
    (c ∈ discoverPluginNames files ↔ ∃ m, some m ∈ files ∧ c ∈ scanModule m) ∧
      ∀ m, NameBasesOnly m → (c ∈ scanModule m ↔ DeclaresPluginName m c) := by
  refine ⟨?_, fun m h => mem_scanModule m h c⟩
  simp only [discoverPluginNames, List.mem_flatMap]
  constructor
  · rintro ⟨(_ | m), hf, hc⟩
    · simp at hc
    · exact ⟨m, hf, hc⟩
  · rintro ⟨m, hf, hc⟩
    exact ⟨some m, hf, hc⟩

/-- `class Helper(object): pass` then `class P(PluginConfig): name = 'p'`. -/
def pluginInit : Module :=
  [.classDef "Helper" [.name "object"] [.simple "Pass" []],
   .classDef "P" [.name "PluginConfig"] [.assign (.name "name") [] (.const (.str "p"))]]

/-- `class Q(PluginConfig): name = 1`, `class A(abc.ABC): pass`, `class P(PluginConfig):
name = 'p'`: the integer is collected, and reading `abc.ABC.id` ends the file before `P`. -/
def mixedPluginInit : Module :=
  [.classDef "Q" [.name "PluginConfig"] [.assign (.name "name") [] (.const (.int 1))],
   .classDef "A" [.attribute (.name "abc") "ABC"] [.simple "Pass" []],
   .classDef "P" [.name "PluginConfig"] [.assign (.name "name") [] (.const (.str "p"))]]

/-- Next to a file that raises and a file that does not parse, `pluginInit` still contributes
its declared name. -/
theorem discoverPluginNames_pluginInit :
    NameBasesOnly pluginInit ∧
      (Const.str "p" ∈ discoverPluginNames [some mixedPluginInit, none, some pluginInit] ↔
        ∃ m, some m ∈ [some mixedPluginInit, none, some pluginInit] ∧ Const.str "p" ∈ scanModule m) ∧
      (Const.str "p" ∈ scanModule pluginInit ↔ DeclaresPluginName pluginInit (.str "p")) := by
  have h : NameBasesOnly pluginInit := by
    intro n bases body hc b hb
    simp only [pluginInit, List.mem_cons, Stmt.classDef.injEq, List.mem_nil_iff, or_false] at hc
    rcases hc with ⟨-, rfl, -⟩ | ⟨-, rfl, -⟩ <;> simp_all
  have hd := discoverPluginNames_iff [some mixedPluginInit, none, some pluginInit] (.str "p")
  exact ⟨h, hd.1, hd.2 pluginInit h⟩

theorem discoverPluginNames_mixedPluginInit :
    discoverPluginNames [some mixedPluginInit] = [.int 1] ∧
      ¬ ∀ c, c ∈ discoverPluginNames [some mixedPluginInit] ↔
        (∃ s, c = Const.str s) ∧ DeclaresPluginName mixedPluginInit c := by
  have he : discoverPluginNames [some mixedPluginInit] = [.int 1] := rfl
  refine ⟨he, fun h => ?_⟩
  have hp : DeclaresPluginName mixedPluginInit (.str "p") :=
    ⟨"P", [.name "PluginConfig"], [.assign (.name "name") [] (.const (.str "p"))],
      by simp [mixedPluginInit], by simp, .name "name", [], by simp, by simp⟩
  simpa [he] using (h (.str "p")).mpr ⟨⟨"p", rfl⟩, hp⟩

end NetboxInit.Plugins
