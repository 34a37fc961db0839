import ApiScribe.Distinct
import ApiScribe.Model.Basic

/-!
Operations of an API: what the document says about one route and method, and what else their comments
say.
-/

namespace ApiScribe

structure Parameter where
  /-- Where the parameter is sent: `path`, `query`, `body` and so on. -/
  location : String := ""
  name : String := ""
  description : String := ""
  dataType : String := ""
  type : String := ""
  format : String := ""
  allowMultiple : Bool := false
  required : Bool := false
  minimum : Option Int64 := none
  maximum : Option Int64 := none
  deriving DecidableEq, Repr, Inhabited

/-- An answer that an operation may give. -/
structure ResponseMessage where
  code : Int32
  message : String
  /-- The id of the model of the answer, or nothing. -/
  responseModel : String := ""
  deriving DecidableEq, Repr, Inhabited

structure Operation where
  httpMethod : String := ""
  nickname : String := ""
  /-- The type of a successful answer. -/
  type : String := ""
  items : Option Items := none
  summary : String := ""
  notes : String := ""
  parameters : List Parameter := []
  responseMessages : List ResponseMessage := []
  consumes : List String := []
  produces : List String := []
  path : String := ""
  deriving DecidableEq, Repr, Inhabited

/-- An operation as its directives build it up, with what the document does not show of it. -/
structure Draft where
  operation : Operation := {}
  /-- The models that the operation refers to, one of each id. -/
  models : List Model := []
  /-- The resource named by a directive, in place of the first segment of the path. -/
  resource : Option String := none
  /-- The package that the type names of the directives are looked up from. -/
  package : String := ""
  deriving DecidableEq, Repr, Inhabited

end ApiScribe
