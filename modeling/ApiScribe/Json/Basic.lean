/-!
Values of the JSON data format.  An integer is kept apart from a number that is written with a
fraction or an exponent, because only the first has a place in an API document.
-/

namespace ApiScribe

inductive Json where
  | null
  | bool (b : Bool)
  | int (n : Int)
  /-- A number with a fraction or an exponent, as it is written. -/
  | decimal (text : String)
  | str (s : String)
  | arr (items : List Json)
  | obj (members : List (String × Json))
  deriving Repr, Inhabited

namespace Json

/-- The value of the last member with the given name. -/
def member? : List (String × Json) → String → Option Json
  | [], _ => none
  | (k, v) :: ms, name =>
    match member? ms name with
    | some w => some w
    | none => if k = name then some v else none

/-- The value of a member of an object. -/
def get? (j : Json) (name : String) : Option Json :=
  match j with
  | obj ms => member? ms name
  | _ => none

end Json

end ApiScribe
