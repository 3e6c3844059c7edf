/-! JSON values. A number without fraction and exponent that fits 64 bits, signed or unsigned, is
an `int`; every other number is a double. The fields of an object made by `object` stand in the
byte order of their keys, each key once, the last of equal keys winning. -/
namespace PageFlow

inductive Json where
  | null
  | bool (b : Bool)
  | int (n : Int)
  | float (x : Float)
  | str (s : String)
  | arr (items : List Json)
  | obj (fields : List (String × Json))
deriving BEq, Inhabited

namespace Json

def insertField (key : String) (value : Json) : List (String × Json) → List (String × Json)
  | [] => [(key, value)]
  | (k, v) :: rest =>
    if key = k then (key, value) :: rest
    else if key < k then (key, value) :: (k, v) :: rest
    else (k, v) :: insertField key value rest

def extendFields (fields more : List (String × Json)) : List (String × Json) :=
  more.foldl (fun acc f => insertField f.1 f.2 acc) fields

def object (fields : List (String × Json)) : Json := .obj (extendFields [] fields)

def get? (j : Json) (key : String) : Option Json :=
  match j with
  | .obj fields => fields.lookup key
  | _ => none

def at? (j : Json) (index : Nat) : Option Json :=
  match j with
  | .arr items => items[index]?
  | _ => none

def text? : Json → Option String
  | .str s => some s
  | _ => none

def bool? : Json → Option Bool
  | .bool b => some b
  | _ => none

def array? : Json → Option (List Json)
  | .arr items => some items
  | _ => none

/-- A whole number from 0 up; a double is none, whatever its value. -/
def nat? : Json → Option Nat
  | .int (.ofNat n) => some n
  | _ => none

def isNull : Json → Bool
  | .null => true
  | _ => false

def ofNat (n : Nat) : Json := .int n

end Json
end PageFlow
