import LeasePapers.Number.Shortest

/-! JSON values. A number is a whole number if it is written as one and fits 64 bits, signed or
unsigned; every other number is a magnitude of the binary format with a sign.
-/

namespace LeasePapers.Json

/-- A number as a JSON reader keeps it. Minus zero is no whole number. -/
inductive Number where
  | whole (value : Int)
  | binary (negative : Bool) (magnitude : Number.Double)
  deriving DecidableEq, Repr

/-- A JSON value. The members of an object stand as they were written, repeated names included. -/
inductive Value where
  | null
  | boolean (value : Bool)
  | number (value : Number)
  | string (text : Text)
  | array (items : List Value)
  | object (members : List (Text × Value))

end LeasePapers.Json
