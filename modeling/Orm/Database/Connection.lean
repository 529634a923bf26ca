import Orm.Database.Command
import Orm.Database.Transaction

/-!
# Connections

A `Connection` is whatever answers the calls of a transaction: any functions on some state `σ`.
Each call comes in a blocking and an asynchronous form; unless said otherwise the two agree.
-/

namespace Orm

/-- What answers the calls of a transaction. -/
structure Connection (σ : Type) where
  start : TransactionOptions → StateM σ (Except DriverError Unit)
  execute : Command → StateM σ (Except DriverError CommandResult)
  commit : StateM σ (Except DriverError Unit)
  rollback : StateM σ (Except DriverError Unit)
  startAsync : TransactionOptions → StateM σ (Except DriverError Unit) := start
  executeAsync : Command → StateM σ (Except DriverError CommandResult) := execute
  commitAsync : StateM σ (Except DriverError Unit) := commit
  rollbackAsync : StateM σ (Except DriverError Unit) := rollback

end Orm
