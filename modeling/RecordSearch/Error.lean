import RecordSearch.ModelType

namespace RecordSearch

inductive ErrorClass where
  | fieldResolution
  | fieldConversion
  | attributeAccess
  | backend
  | notRegistered
  | alreadyRegistered
  | unsupported
  | query
  | template
  | serialization
  | json
  | other
  deriving DecidableEq, Repr

def ErrorClass.heading : ErrorClass → String
  | fieldResolution => "Field resolution error"
  | fieldConversion => "Field conversion error"
  | attributeAccess => "Attribute error"
  | backend => "Backend error"
  | notRegistered => "Not registered"
  | alreadyRegistered => "Already registered"
  | unsupported => "Unsupported operation"
  | query => "Query error"
  | template => "Template error"
  | serialization => "Serialization error"
  | json => "JSON error"
  | other => "Error"

inductive Error where
  | noModelType (object : String)
  | noTemplateName
  | noRenderer (template : String)
  /-- A path ends at nothing, and neither a default nor nothing is allowed. -/
  | nullAttr (object path : String)
  | missingAttr (object path : String)
  | noDocumentField (model : ModelType)
  | manyDocumentFields (model : ModelType) (count : Nat)
  | unknownField (model : ModelType) (name : String)
  | noPrimaryKey (object : String)
  | preparation (reason : String)
  | notConvertible (field : Option String) (target value : String)
  | notModelLabel (text : String)
  | notIdentity (text : String)
  | noAttribute (object name : String)
  | notCallable (path : String)
  | noIdentity (object : String)
  | documentLacks (field : String)
  | noTextField (model : ModelType)
  | unknownIdentity (identity : String)
  | noSchemaDocument
  | unavailable (reason : String)
  | notRegistered (model : ModelType)
  | modelRegistered (model : ModelType)
  | rebound (bound new : String)
  | replacementStore
  | notFilter (text : String)
  | malformedQuery
  | noTemplate (name : String)
  | notOpaque (text : String)
  | malformedPayload
  | malformedSettings
  | zeroPageSize
  | emptyFieldName
  | store (reason : String)
  deriving DecidableEq, Repr

namespace Error

def errorClass : Error → ErrorClass
  | noModelType _ | noTemplateName | noRenderer _ | nullAttr _ _ | missingAttr _ _
  | noDocumentField _ | manyDocumentFields _ _ | unknownField _ _ | noPrimaryKey _
  | preparation _ => .fieldResolution
  | notConvertible _ _ _ => .fieldConversion
  | notModelLabel _ | notIdentity _ | noAttribute _ _ | notCallable _ | noIdentity _ =>
    .attributeAccess
  | documentLacks _ | noTextField _ | unknownIdentity _ | noSchemaDocument
  | unavailable _ => .backend
  | notRegistered _ => .notRegistered
  | modelRegistered _ | rebound _ _ => .alreadyRegistered
  | replacementStore => .unsupported
  | notFilter _ | malformedQuery => .query
  | noTemplate _ => .template
  | notOpaque _ | malformedPayload => .serialization
  | malformedSettings => .json
  | zeroPageSize | emptyFieldName | store _ => .other

def lacksDocumentField (model : ModelType) : String :=
  s!"The index for '{model.label}' has no document field."

def detail : Error → String
  | noModelType object =>
    s!"The object '{object}' has no model type to derive a template name from."
  | noTemplateName =>
    "This field requires either its instance_name variable to be populated or an explicit " ++
      "template_name in order to load the correct template."
  | noRenderer template => s!"No template renderer available to render '{template}'."
  | nullAttr object path =>
    s!"The model '{object}' has an empty model_attr '{path}' and doesn't allow a default or null value."
  | missingAttr object path => s!"The model '{object}' does not have a model_attr '{path}'."
  | noDocumentField model => lacksDocumentField model
  | manyDocumentFields model count =>
    s!"The index for '{model.label}' declares {count} document fields, expected one."
  | unknownField model name => s!"The index for '{model.label}' has no field '{name}'."
  | noPrimaryKey object => s!"The object '{object}' has no primary key."
  | preparation reason => reason
  | notConvertible field target value =>
    let name := field.getD "<unbound>"
    s!"Value provided to '{name}' field doesn't appear to be a valid {target}: '{value}'"
  | notModelLabel text => s!"'{text}' is not a valid model type label"
  | notIdentity text => s!"Provided string '{text}' is not a valid identifier."
  | noAttribute object name => s!"'{object}' object has no attribute '{name}'"
  | notCallable path => s!"'{path}' is not callable"
  | noIdentity object => s!"The object '{object}' has no model type or primary key."
  | documentLacks field => s!"document has no '{field}' field"
  | noTextField model =>
    ErrorClass.fieldResolution.heading ++ ": " ++ lacksDocumentField model
  | unknownIdentity identity => s!"no document with identity '{identity}'"
  | noSchemaDocument => "no document field among the schema fields"
  | unavailable reason => reason
  | notRegistered model => s!"The model '{model.label}' is not registered."
  | modelRegistered model => s!"The model '{model.label}' is already registered."
  | rebound bound new => s!"field '{bound}' cannot be rebound as '{new}'"
  | replacementStore => "load_all_queryset is only supported on related search query sets"
  | notFilter text => s!"'{text}' is not a valid filter type"
  | malformedQuery => "Parse error"
  | noTemplate name => s!"no template '{name}'"
  | notOpaque text => s!"'{text}' is not an encoded opaque payload"
  | malformedPayload => "malformed payload"
  | malformedSettings => "malformed settings"
  | zeroPageSize => "Invalid configuration: page_size must be positive"
  | emptyFieldName => "Invalid configuration: field names must not be empty"
  | store reason => reason

def message (e : Error) : String := e.errorClass.heading ++ ": " ++ e.detail

end Error

def ModelType.ofLabel (text : String) : Except Error ModelType :=
  match ModelType.ofLabel? text with
  | some model => .ok model
  | none => .error (.notModelLabel text)

def ModelType.ofIdentity (text : String) : Except Error (ModelType × String) :=
  match ModelType.ofIdentity? text with
  | some parts => .ok parts
  | none => .error (.notIdentity text)

end RecordSearch
