/-!
# JSON values

The values that documents hold. The members of an object keep their order. Numbers are whole numbers
that fit 64 bits, with or without sign, or floats, which are kept by their bits.
-/

namespace WidgetBindings

/-- The least whole number that 64 bits hold with a sign. -/
def Json.Number.least : Int := -0x8000000000000000

/-- The first whole number that 64 bits do not hold without a sign. -/
def Json.Number.limit : Int := 0x10000000000000000

inductive Json.Number
  | integer (value : Int) (fits : Number.least ≤ value ∧ value < Number.limit)
  | float (bits : UInt64)
  deriving DecidableEq, Repr

/-- A value of a document. -/
inductive Json
  | null
  | bool (value : Bool)
  | number (value : Json.Number)
  | string (value : String)
  | array (items : List Json)
  | object (members : List (String × Json))
  deriving Repr

namespace Json

/-- Sets a member. A key that is there keeps its place. -/
def setMember (key : String) (value : Json) : List (String × Json) → List (String × Json)
  | [] => [(key, value)]
  | (k, v) :: rest => if k = key then (k, value) :: rest else (k, v) :: setMember key value rest

end Json

end WidgetBindings
