/-!
# JSON values

A JSON value keeps the fields of an object in their order, repeated ones included, and a number as
it is written.
-/

namespace BenchSuite

inductive Json
  | null
  | bool (value : Bool)
  | number (literal : String)
  | string (text : String)
  | array (items : List Json)
  | object (fields : List (String × Json))
deriving Repr

namespace Json

def texts (items : List String) : Json :=
  .array (items.map .string)

end Json

end BenchSuite
