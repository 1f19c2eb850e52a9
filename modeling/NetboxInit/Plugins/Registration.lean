import NetboxInit.Plugins.Ast

/-!
# Registering the discovered plugins in plugins.py (`netbox_init.py:458-500`)

`PluginListModifier` is an `ast.NodeTransformer` whose only handler, `visit_Assign`, extends the
list literal of an assignment whose first target is `PLUGINS` by the discovered names that are
not already string elements of it, and returns the node. Every other node goes through
`generic_visit`, which returns it with its children visited, so assignments to `PLUGINS` are
extended at any depth. The handler records a hit with `global pluginsListFound`; the flag that
`main` tests is a local of `main` (assigned there, never declared global), so the hit never
reaches it and `main` appends `PLUGINS = [<all discovered names>]` at the end of the module
every time it rewrites the file.

The rewritten tree is written back with `ast.unparse`; since `ast.parse (ast.unparse t)` gives
back `t` up to locations, running the step again works on the tree itself.
-/

namespace NetboxInit.Plugins

/-- `isinstance(node.targets[0], ast.Name) and node.targets[0].id == 'PLUGINS'`. -/
def isPluginsTarget : Expr → Bool
  | .name id => id == "PLUGINS"
  | _ => false

theorem isPluginsTarget_iff (e : Expr) : isPluginsTarget e = true ↔ e = pluginsName := by
  cases e <;> simp [isPluginsTarget, pluginsName]

/-- `{elt.s for elt in node.value.elts if isinstance(elt, ast.Str)}`. -/
def strConsts : List Expr → List String
  | [] => []
  | .const (.str s) :: es => s :: strConsts es
  | _ :: es => strConsts es

/-- `plugin not in existingPlugins`: a constant equals a string only when it is that string. -/
def isExisting (existing : List String) : Const → Bool
  | .str s => existing.contains s
  | _ => false

/-- The elements the loop appends to a `PLUGINS` list literal. -/
def missingPlugins (pluginNames : List Const) (elts : List Expr) : List Expr :=
  (pluginNames.filter fun p => !isExisting (strConsts elts) p).map .const

/-- `PluginListModifier.visit_Assign`, with the value it gives `pluginsListFound`. -/
def visitAssign (pluginNames : List Const) (t : Expr) (ts : List Expr) (v : Expr) :
    Stmt × Bool :=
  if isPluginsTarget t then
    match v with
    | .list elts => (.assign t ts (.list (elts ++ missingPlugins pluginNames elts)), true)
    | v => (.assign t ts v, true)
  else (.assign t ts v, false)

mutual
/-- `modifier.visit` on a statement, with whether it set the global `pluginsListFound`. -/
def visitStmt (pluginNames : List Const) : Stmt → Stmt × Bool
  | .assign t ts v => visitAssign pluginNames t ts v
  | .classDef n bases body =>
    let r := visitBody pluginNames body
    (.classDef n bases r.1, r.2)
  | .compound k head bodies =>
    let r := visitBodies pluginNames bodies
    (.compound k head r.1, r.2)
  | .simple k es => (.simple k es, false)

def visitBody (pluginNames : List Const) : List Stmt → List Stmt × Bool
  | [] => ([], false)
  | s :: ss =>
    let a := visitStmt pluginNames s
    let r := visitBody pluginNames ss
    (a.1 :: r.1, a.2 || r.2)

def visitBodies (pluginNames : List Const) : List (List Stmt) → List (List Stmt) × Bool
  | [] => ([], false)
  | b :: bs =>
    let a := visitBody pluginNames b
    let r := visitBodies pluginNames bs
    (a.1 :: r.1, a.2 || r.2)
end

/-- `ast.Assign(targets=[ast.Name(id='PLUGINS')], value=ast.List(elts=[ast.Constant(value=plugin)
for plugin in pluginNames]))`. -/
def pluginsAssign (pluginNames : List Const) : Stmt :=
  .assign pluginsName [] (.list (pluginNames.map .const))

/-- The rewrite of plugins.py for the deduplicated `pluginNames` (`if pluginNames:` guards it).
`pluginsListFound` is `main`'s local, which nothing after its initialisation assigns. -/
def registerPlugins (pluginNames : List Const) (tree : Module) : Module :=
  if pluginNames.isEmpty then tree
  else
    let pluginsListFound := false
    let modifiedTree := (visitBody pluginNames tree).1
    if pluginsListFound then modifiedTree else modifiedTree ++ [pluginsAssign pluginNames]

theorem registerPlugins_of_ne_nil (pluginNames : List Const) (tree : Module)
    (h : pluginNames ≠ []) :
    registerPlugins pluginNames tree =
      (visitBody pluginNames tree).1 ++ [pluginsAssign pluginNames] := by
  simp [registerPlugins, List.isEmpty_iff, h]

/-! ### Frame: what the rewrite may change -/

mutual
/-- `s'` is `s` with elements appended to list literals assigned to `PLUGINS`, at any depth,
and nothing else changed. -/
inductive StmtExtends : Stmt → Stmt → Prop
  | refl (s : Stmt) : StmtExtends s s
  | pluginsList (t : Expr) (ts : List Expr) (h : pluginsName ∈ t :: ts) (elts extra : List Expr) :
      StmtExtends (.assign t ts (.list elts)) (.assign t ts (.list (elts ++ extra)))
  | classDef (n : String) (bases : List Expr) {body body' : List Stmt} :
      BodyExtends body body' → StmtExtends (.classDef n bases body) (.classDef n bases body')
  | compound (k : String) (head : List Expr) {bodies bodies' : List (List Stmt)} :
      BodiesExtends bodies bodies' →
        StmtExtends (.compound k head bodies) (.compound k head bodies')

inductive BodyExtends : List Stmt → List Stmt → Prop
  | nil : BodyExtends [] []
  | cons {s s' : Stmt} {b b' : List Stmt} :
      StmtExtends s s' → BodyExtends b b' → BodyExtends (s :: b) (s' :: b')

inductive BodiesExtends : List (List Stmt) → List (List Stmt) → Prop
  | nil : BodiesExtends [] []
  | cons {b b' : List Stmt} {bs bs' : List (List Stmt)} :
      BodyExtends b b' → BodiesExtends bs bs' → BodiesExtends (b :: bs) (b' :: bs')
end

theorem BodyExtends.rfl : (b : List Stmt) → BodyExtends b b
  | [] => .nil
  | s :: ss => .cons (.refl s) (BodyExtends.rfl ss)

theorem visitAssign_extends (pluginNames : List Const) (t : Expr) (ts : List Expr) (v : Expr) :
    StmtExtends (.assign t ts v) (visitAssign pluginNames t ts v).1 := by
  unfold visitAssign
  split
  · rename_i ht
    cases v with
    | list elts =>
      exact .pluginsList t ts (by simp [(isPluginsTarget_iff t).mp ht]) elts _
    | _ => exact .refl _
  · exact .refl _

mutual
theorem visitStmt_extends (pluginNames : List Const) :
    (s : Stmt) → StmtExtends s (visitStmt pluginNames s).1
  | .assign t ts v => visitAssign_extends pluginNames t ts v
  | .classDef n bases body => .classDef n bases (visitBody_extends pluginNames body)
  | .compound k head bodies => .compound k head (visitBodies_extends pluginNames bodies)
  | .simple _ _ => .refl _

theorem visitBody_extends (pluginNames : List Const) :
    (b : List Stmt) → BodyExtends b (visitBody pluginNames b).1
  | [] => .nil
  | s :: ss => .cons (visitStmt_extends pluginNames s) (visitBody_extends pluginNames ss)

theorem visitBodies_extends (pluginNames : List Const) :
    (bs : List (List Stmt)) → BodiesExtends bs (visitBodies pluginNames bs).1
  | [] => .nil
  | b :: bs => .cons (visitBody_extends pluginNames b) (visitBodies_extends pluginNames bs)
end

/-- The rewritten module is the original one with `PLUGINS` list literals extended at their
end, followed by at most one new statement. -/
theorem registerPlugins_frame (pluginNames : List Const) (tree : Module) :
    ∃ body extra, registerPlugins pluginNames tree = body ++ extra ∧ extra.length ≤ 1 ∧
      BodyExtends tree body := by
  by_cases h : pluginNames = []
  · exact ⟨tree, [], by simp [registerPlugins, h], by simp, BodyExtends.rfl tree⟩
  · exact ⟨_, _, registerPlugins_of_ne_nil _ _ h, by simp, visitBody_extends _ tree⟩

/-! ### What running the rewritten module binds `PLUGINS` to -/

/-- The elements of a list literal assigned to `PLUGINS` by a top-level statement. -/
def assignedList? : Stmt → Option (List Expr)
  | .assign t ts (.list es) => if (t :: ts).any isPluginsTarget then some es else none
  | _ => none

/-- The elements `PLUGINS` holds after running `m` statement by statement, for modules whose
assignments to `PLUGINS` are top-level assignments of list literals: the last one wins. -/
def pluginsBinding (m : Module) : Option (List Expr) :=
  (m.filterMap assignedList?).getLast?

/-- After any rewrite, `PLUGINS` ends bound to the discovered names alone. -/
theorem pluginsBinding_registerPlugins (pluginNames : List Const) (tree : Module)
    (h : pluginNames ≠ []) :
    pluginsBinding (registerPlugins pluginNames tree) = some (pluginNames.map .const) := by
  have hlast : assignedList? (pluginsAssign pluginNames) = some (pluginNames.map .const) := by
    simp [assignedList?, pluginsAssign, isPluginsTarget, pluginsName]
  rw [registerPlugins_of_ne_nil _ _ h, pluginsBinding, List.filterMap_append,
    List.filterMap_cons_some hlast, List.filterMap_nil, List.getLast?_concat]

/-- `PLUGINS = ['a']`. -/
def registeredA : Module := [.assign pluginsName [] (.list [.const (.str "a")])]

theorem registerPlugins_registeredA :
    registerPlugins [.str "b"] registeredA =
        [.assign pluginsName [] (.list [.const (.str "a"), .const (.str "b")]),
          pluginsAssign [.str "b"]] ∧
      pluginsBinding registeredA = some [.const (.str "a")] ∧
      pluginsBinding (registerPlugins [.str "b"] registeredA) = some [.const (.str "b")] :=
  ⟨rfl, rfl, pluginsBinding_registerPlugins _ _ (List.cons_ne_nil _ _)⟩

theorem registerPlugins_empty_twice :
    registerPlugins [.str "a"] [] = [pluginsAssign [.str "a"]] ∧
      registerPlugins [.str "a"] (registerPlugins [.str "a"] []) =
        [pluginsAssign [.str "a"], pluginsAssign [.str "a"]] :=
  ⟨rfl, rfl⟩

end NetboxInit.Plugins
