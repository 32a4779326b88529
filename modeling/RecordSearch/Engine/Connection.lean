import RecordSearch.Engine.Basic
import RecordSearch.Engine.Log
import RecordSearch.Index.Registry

namespace RecordSearch

inductive StoreCall where
  | get (model : ModelType) (pk : String)
  /-- A call for several objects, to the registered store of a model or to its replacement. -/
  | inBulk (replacement : Bool) (model : ModelType) (pks : List String)
  deriving DecidableEq, Repr

structure Connection (σ Obj : Type) where
  engine : σ
  settings : Settings
  registry : Registry Obj
  log : QueryLog
  storeCalls : List StoreCall

namespace Connection

variable {σ : Type} {Obj : Type}

def recordQuery (c : Connection σ Obj) (r : QueryRecord) : Connection σ Obj :=
  if c.settings.debug then { c with log := c.log.record r } else c

def noteCall (c : Connection σ Obj) (call : StoreCall) : Connection σ Obj :=
  { c with storeCalls := c.storeCalls ++ [call] }

def register (c : Connection σ Obj) (index : SearchIndex Obj) (store : ObjectStore Obj) :
    Except Error (Connection σ Obj) :=
  (c.registry.register index store).map fun registry => { c with registry := registry }

def schema (c : Connection σ Obj) : String × List FieldDefinition :=
  Engine.schemaOrEmpty c.settings c.registry.allFields

variable [Engine σ] [Source Obj]

def update (c : Connection σ Obj) (model : ModelType) (objects : List Obj) :
    Except Error (Connection σ Obj) :=
  match c.registry.index model with
  | .error e => .error e
  | .ok index =>
    (Engine.index c.engine c.settings index objects).map fun engine => { c with engine := engine }

def remove (c : Connection σ Obj) (o : Obj) : Except Error (Connection σ Obj) :=
  (Engine.removeObject c.engine o).map fun engine => { c with engine := engine }

def removeIdentity (c : Connection σ Obj) (identity : String) : Except Error (Connection σ Obj) :=
  (Engine.removeIdentity c.engine identity).map fun engine => { c with engine := engine }

def clear (c : Connection σ Obj) (models : List ModelType) : Connection σ Obj :=
  { c with engine := Engine.clearModels c.engine models }

end Connection

end RecordSearch
