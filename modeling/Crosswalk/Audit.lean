import Crosswalk.Mapping.Configuration

/-!
Audit events: who did what to which entity, with its values before and after.
-/

namespace Crosswalk.Audit

inductive Action where
  | create
  | update
  | delete
  | activate
  | deactivate
  | execute
deriving DecidableEq

namespace Action

def name : Action → String
  | .create => "CREATE"
  | .update => "UPDATE"
  | .delete => "DELETE"
  | .activate => "ACTIVATE"
  | .deactivate => "DEACTIVATE"
  | .execute => "EXECUTE"

def codec : Codec Action :=
  .choice [.create, .update, .delete, .activate, .deactivate, .execute] name

end Action

structure Event where
  id : String
  tenant : Option String
  user : Option String
  action : Action
  entityType : String
  entity : String
  before : Option (Table Value)
  after : Option (Table Value)
  createdAt : Moment

def Event.codec (fresh : Fresh) : Codec Event :=
  Schema.codec
    (.field (.defaulted "id" .text fresh.id) <|
      .field (.optional "tenant_id" .text) <|
      .field (.optional "user_id" .text) <|
      .field (.required "action" Action.codec) <|
      .field (.required "entity_type" .text) <|
      .field (.required "entity_id" .text) <|
      .field (.optional "old_values" (.table .any)) <|
      .field (.optional "new_values" (.table .any)) <|
      .field (.defaulted "created_at" .moment fresh.now) .done)
    (fun (i, t, u, a, k, e, o, n, c, ()) => ⟨i, t, u, a, k, e, o, n, c⟩)
    (fun e => (e.id, e.tenant, e.user, e.action, e.entityType, e.entity, e.before, e.after, e.createdAt,
      ()))

end Crosswalk.Audit
