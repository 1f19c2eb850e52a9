import NetboxInit.Python.Dict
import NetboxInit.Python.Sort
import NetboxInit.Plugins.Ast
import NetboxInit.Plugins.Discovery
import NetboxInit.Plugins.Registration
import NetboxInit.Install.Gate
import NetboxInit.Preload.Backup
import NetboxInit.Preload.Restore
import NetboxInit.Api.Store
import NetboxInit.Api.Reconcile
import NetboxInit.Api.Attempts
import NetboxInit.Api.Idempotence
import NetboxInit.Api.Effect
import NetboxInit.Api.Outcome
