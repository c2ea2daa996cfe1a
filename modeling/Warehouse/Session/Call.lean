import Warehouse.Library
import Warehouse.Session.Step

/-! # Calls

A call is one step of a session or a request about a schema. It needs the library, so
where this cannot be loaded the call fails for that reason, before it has begun. -/

namespace Warehouse.Session

/-- A call that leaves it to a tag, or to the settings without one, which dialect is meant. -/
inductive Call where
  | step (task : Task) (last : Option TableDefinition)
  | schema (request : SchemaRequest)

namespace Call

/-- The dialogue of a call under given settings. -/
def dialogue (settings : Except Failure Settings) (tag : Value) : Call → Dialogue Answer
  | step task last => Step.dialogue settings last ⟨tag, task⟩
  | schema request => (Answer.text ∘ some) <$> schemaStatement settings tag request

/-- Loads the library in an environment, sets its logger to a threshold and carries out a
call over a connection. -/
def runOn {σ : Type} (call : Call) (host : Host) (environment : Variables)
    (threshold : Log.Level) (tag : Value) (connection : Connection σ) (state : σ) :
    Run σ Answer :=
  match host.load environment with
  | .error failure => ⟨.error failure, [], [], state⟩
  | .ok library =>
      (call.dialogue (.ok library.settings) tag).runLogged host.sink threshold connection state

end Call

end Warehouse.Session
