import NetboxInit.Python.Dict

/-!
# The Python syntax trees read and rewritten by netbox_init.py

The subset of `ast` that the plugin scan (`netbox_init.py:429-456`) and the `plugins.py`
rewrite (`netbox_init.py:458-500`) inspect. Nodes neither of them looks into are kept with
their children, so that a transformer still has to return them intact: a compound statement
(`if`, `for`, `def`, `try`, `with`, `match`, ...) carries its header expressions and every
statement list it owns (the `else` branch and each `except` handler included), and any other
expression carries its sub-expressions.
-/

namespace NetboxInit.Plugins

/-- `ast.Constant.value`. -/
inductive Const
  | str (s : String)
  | int (n : Int)
  | bool (b : Bool)
  | none
  /-- bytes, float, complex and `...`, by their source text -/
  | other (text : String)
  deriving DecidableEq, Repr

inductive Expr
  | name (id : String)
  | const (c : Const)
  | list (elts : List Expr)
  | attribute (value : Expr) (attr : String)
  /-- `Subscript`, `Call`, `Tuple`, ... with their sub-expressions -/
  | other (kind : String) (children : List Expr)

/-- Statements. `ast.Assign` always has a first target, so the model stores it apart. -/
inductive Stmt
  | assign (target : Expr) (moreTargets : List Expr) (value : Expr)
  | classDef (name : String) (bases : List Expr) (body : List Stmt)
  | compound (kind : String) (head : List Expr) (bodies : List (List Stmt))
  /-- `AnnAssign`, `AugAssign`, `Expr`, `Import`, `Return`, ... -/
  | simple (kind : String) (exprs : List Expr)

/-- `ast.Module.body`. -/
abbrev Module := List Stmt

/-- `ast.Name(id='PLUGINS')`. -/
def pluginsName : Expr := .name "PLUGINS"

end NetboxInit.Plugins
