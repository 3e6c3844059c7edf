import PageFlow.Json.Complaint
import PageFlow.Text.Quoted
import PageFlow.Decimal.Shortest

/-! Reading typed data from JSON. The data may be a value, a text that is still being read, or a
part of a text that was set aside whole; `Doc.shape` shows one layer of any of them. A text is
read from left to right, so the first fault in it wins, be it of form or of shape. -/
namespace PageFlow
namespace Json

inductive Found where
  | null
  | bool (b : Bool)
  | int (n : Int)
  | float (x : Float)
  | str (s : String)
  | sequence
  | map

def Found.message : Found → String
  | .null => "null"
  | .bool b => "boolean `" ++ (if b then "true" else "false") ++ "`"
  | .int n => "integer `" ++ toString n ++ "`"
  | .float x => "floating point `" ++ floatText x ++ "`"
  | .str s => "string " ++ Text.quoted s
  | .sequence => "sequence"
  | .map => "map"

inductive Flaw where
  /-- the text is not JSON -/
  | malformed
  | missingField (key : String)
  | duplicateField (key : String)
  | invalidType (found : Found) (expected : String)
  | invalidValue (found : Found) (expected : String)
  | unknownVariant (name : String) (known : List String)
  | invalidLength (length : Nat) (expected : String)
  | noVariant (name : String)
  | badStamp

def variantList : List String → String
  | [a] => "`" ++ a ++ "`"
  | [a, b] => "`" ++ a ++ "` or `" ++ b ++ "`"
  | names => "one of " ++ ", ".intercalate (names.map fun n => "`" ++ n ++ "`")

def Flaw.message : Flaw → String
  | .malformed => "invalid JSON"
  | .missingField key => "missing field `" ++ key ++ "`"
  | .duplicateField key => "duplicate field `" ++ key ++ "`"
  | .invalidType found expected =>
    "invalid type: " ++ found.message ++ ", expected " ++ expected
  | .invalidValue found expected =>
    "invalid value: " ++ found.message ++ ", expected " ++ expected
  | .unknownVariant name known =>
    "unknown variant `" ++ name ++ "`, expected " ++ variantList known
  | .invalidLength length expected =>
    "invalid length " ++ toString length ++ ", expected " ++ expected
  | .noVariant name => "data did not match any variant of untagged enum " ++ name
  | .badStamp => "bad id or timestamp"

/-- What is said of a flaw in a text. A text that is JSON, but not in the form that was asked for,
is complained about at its end. -/
def Flaw.messageIn (text : String) : Flaw → String
  | .malformed => complaint (Text.encode text)
  | flaw => flaw.message

abbrev Read (τ : Type) := Except Flaw τ

/-- Data to read: a value, a text with the number of containers it may still open, or a part of a
text that was read whole before its shape was looked at. -/
inductive Doc where
  | value (j : Json)
  | text (depth : Nat) (s : Source)
  | held (s : Source)

inductive Shape where
  | null
  | bool (b : Bool)
  | int (n : Int)
  | float (x : Float)
  | str (s : String)
  | arr (items : List Doc)
  | obj (members : List (Option String × Doc))
  | malformed

def sourceShape (wrap : Source → Doc) : Source → Shape
  | .null => .null
  | .bool b => .bool b
  | .number (.int n) => .int n
  | .number (.float x) => .float x
  | .number .tooLarge => .malformed
  | .string (some s) => .str s
  | .string none => .malformed
  | .array items => .arr (items.map wrap)
  | .object members => .obj (members.map fun m => (m.1, wrap m.2))
  | .broken => .malformed

namespace Doc

def shape : Doc → Shape
  | .value .null => .null
  | .value (.bool b) => .bool b
  | .value (.int n) => .int n
  | .value (.float x) => .float x
  | .value (.str s) => .str s
  | .value (.arr items) => .arr (items.map .value)
  | .value (.obj fields) => .obj (fields.map fun f => (some f.1, .value f.2))
  | .held s => sourceShape .held s
  | .text depth s =>
    if depth ≤ 1 then
      match s with
      | .array _ => .malformed
      | .object _ => .malformed
      | s => sourceShape (.text 0) s
    else sourceShape (.text (depth - 1)) s

/-- Passing over data that nobody asked for: only a broken text is at fault. -/
def skip : Doc → Read Unit
  | .text _ s => if s.whole then .ok () else .error .malformed
  | _ => .ok ()

def isText : Doc → Bool
  | .text _ _ => true
  | _ => false

def json : Doc → Read Json
  | .value j => .ok j
  | .text depth s => match s.toJson? depth with
    | some j => .ok j
    | none => .error .malformed
  | .held s => match s.toJson? depthLimit with
    | some j => .ok j
    | none => .error .malformed

end Doc

def Shape.found? : Shape → Option Found
  | .null => some .null
  | .bool b => some (.bool b)
  | .int n => some (.int n)
  | .float x => some (.float x)
  | .str s => some (.str s)
  | .arr _ => some .sequence
  | .obj _ => some .map
  | .malformed => none

def Shape.unlike (s : Shape) (expected : String) : Flaw :=
  match s.found? with
  | some found => .invalidType found expected
  | none => .malformed

def string (d : Doc) : Read String :=
  match d.shape with
  | .str s => .ok s
  | s => .error (s.unlike "a string")

def path (d : Doc) : Read String :=
  match d.shape with
  | .str s => .ok s
  | s => .error (s.unlike "path string")

def boolean (d : Doc) : Read Bool :=
  match d.shape with
  | .bool b => .ok b
  | s => .error (s.unlike "a boolean")

def double (d : Doc) : Read Float :=
  match d.shape with
  | .int n => .ok (Float.ofInt n)
  | .float x => .ok x
  | s => .error (s.unlike "f64")

/-- A whole number below `limit`; a double is none, whatever its value. -/
def natural (limit : Nat) (expected : String) (d : Doc) : Read Nat :=
  match d.shape with
  | .int (.ofNat n) =>
    if n < limit then .ok n else .error (.invalidValue (.int n) expected)
  | .int n => .error (.invalidValue (.int n) expected)
  | s => .error (s.unlike expected)

def word32 : Doc → Read Nat := natural (2 ^ 32) "u32"
def word64 : Doc → Read Nat := natural (2 ^ 64) "u64"

def optional (read : Doc → Read τ) (d : Doc) : Read (Option τ) :=
  match d.shape with
  | .null => .ok none
  | _ => (read d).map some

def items (read : Doc → Read τ) (d : Doc) : Read (List τ) :=
  match d.shape with
  | .arr ds => ds.mapM read
  | s => .error (s.unlike "a sequence")

def putEntry (key : String) (value : τ) : List (String × τ) → List (String × τ)
  | [] => [(key, value)]
  | (k, v) :: rest =>
    if key = k then (key, value) :: rest
    else if key < k then (key, value) :: (k, v) :: rest
    else (k, v) :: putEntry key value rest

def entriesOf (read : Doc → Read τ) :
    List (Option String × Doc) → List (String × τ) → Read (List (String × τ))
  | [], acc => .ok acc
  | (none, _) :: _, _ => .error .malformed
  | (some key, d) :: rest, acc => do
    let value ← read d
    entriesOf read rest (putEntry key value acc)

def entries (read : Doc → Read τ) (d : Doc) : Read (List (String × τ)) :=
  match d.shape with
  | .obj members => entriesOf read members []
  | s => .error (s.unlike "a map")

def unit (d : Doc) : Read Unit :=
  match d, d.shape with
  | _, .null => .ok ()
  | .held _, .obj [] => .ok ()
  | _, s => .error (s.unlike "unit")

def variantOf (known : List (String × τ)) (name : String) : Read τ :=
  match known.lookup name with
  | some v => .ok v
  | none => .error (.unknownVariant name (known.map (·.1)))

/-- One of several names, written alone or as the key of an object that holds null. -/
def variant (known : List (String × τ)) (d : Doc) : Read τ :=
  match d.isText, d.shape with
  | _, .str name => variantOf known name
  | true, .obj ((some name, payload) :: rest) => do
    let v ← variantOf known name
    unit payload
    if rest.isEmpty then .ok v else .error .malformed
  | true, _ => .error .malformed
  | false, .obj [(some name, payload)] => do
    let v ← variantOf known name
    unit payload
    .ok v
  | false, .obj _ => .error (.invalidValue .map "map with a single key")
  | false, s => .error (s.unlike "string or map")

/-- What a record does without a field: refuse, do without it among named fields only, or always
do without it. -/
inductive Absent where
  | refused
  | namedOnly
  | allowed
deriving DecidableEq

structure Slot where
  key : String
  check : Doc → Read Unit
  absent : Absent

/-- A record's fields in order of declaration, and the record made of those that are there. -/
structure Fields (τ : Type) where
  slots : List Slot
  build : (String → Option Doc) → Read τ

namespace Fields

instance : Functor Fields where
  map f x := ⟨x.slots, fun env => (x.build env).map f⟩

instance : Applicative Fields where
  pure v := ⟨[], fun _ => .ok v⟩
  seq f x := ⟨f.slots ++ (x ()).slots, fun env => do
    let g ← f.build env
    let v ← (x ()).build env
    .ok (g v)⟩

def checked (read : Doc → Read τ) (d : Doc) : Read Unit := (read d).map fun _ => ()

end Fields

def field (key : String) (read : Doc → Read τ) : Fields τ :=
  ⟨[⟨key, Fields.checked read, .refused⟩], fun env => match env key with
    | some d => read d
    | none => .error (.missingField key)⟩

def fieldOr (key : String) (read : Doc → Read τ) (default : τ) : Fields τ :=
  ⟨[⟨key, Fields.checked read, .allowed⟩], fun env => match env key with
    | some d => read d
    | none => .ok default⟩

/-- A field that null or its absence leaves out. -/
def fieldOption (key : String) (read : Doc → Read τ) : Fields (Option τ) :=
  fieldOr key (optional read) none

/-- The same, but a record written as a list must have it. -/
def fieldNamedOption (key : String) (read : Doc → Read τ) : Fields (Option τ) :=
  ⟨[⟨key, Fields.checked (optional read), .namedOnly⟩], fun env => match env key with
    | some d => optional read d
    | none => .ok none⟩

/-- Visits named members in order: known ones once and of their shape, others only passed over. -/
def visit (slots : List Slot) : List String → List (Option String × Doc) → Read Unit
  | _, [] => .ok ()
  | _, (none, _) :: _ => .error .malformed
  | seen, (some key, d) :: rest =>
    match slots.find? fun s => s.key = key with
    | none => do
      d.skip
      visit slots seen rest
    | some slot =>
      if key ∈ seen then .error (.duplicateField key)
      else do
        slot.check d
        visit slots (key :: seen) rest

def lookupMember (key : String) : List (Option String × Doc) → Option Doc
  | [] => none
  | (k, d) :: rest => if k = some key then some d else lookupMember key rest

/-- The first field, in order of declaration, that is needed and not there. -/
def missing? (slots : List Slot) (env : String → Option Doc) : Option String :=
  (slots.find? fun s => s.absent = .refused && (env s.key).isNone).map (·.key)

def Fields.ofMembers (f : Fields τ) (members : List (Option String × Doc)) : Read τ := do
  visit f.slots [] members
  let env := fun key => lookupMember key members
  match missing? f.slots env with
  | some key => .error (.missingField key)
  | none => f.build env

/-- Visits a list of field values; `index` is the place of the first of `slots`. -/
def visitItems (expected : String) : Nat → List Slot → List Doc → Read (List (Option String × Doc))
  | _, [], _ => .ok []
  | index, slot :: slots, [] =>
    if slot.absent = .allowed then visitItems expected (index + 1) slots []
    else .error (.invalidLength index expected)
  | index, slot :: slots, d :: rest => do
    slot.check d
    let more ← visitItems expected (index + 1) slots rest
    .ok ((some slot.key, d) :: more)

def elementCount (n : Nat) : String :=
  toString n ++ (if n = 1 then " element" else " elements")

def tooLong (d : Doc) (length fields : Nat) : Flaw :=
  match d with
  | .value _ => .invalidLength length "fewer elements in array"
  | .text _ _ => .malformed
  | .held _ => .invalidLength length (elementCount fields ++ " in sequence")

def named (name : String) (f : Fields τ) (d : Doc) : Read τ :=
  match d.shape with
  | .obj members => f.ofMembers members
  | s => .error (s.unlike ("struct " ++ name))

/-- A record as named fields or as the list of its fields in order of declaration. -/
def record (name : String) (f : Fields τ) (d : Doc) : Read τ :=
  match d.shape with
  | .arr ds => do
    let members ← visitItems
      ("struct " ++ name ++ " with " ++ elementCount f.slots.length) 0 f.slots ds
    if f.slots.length < ds.length then .error (tooLong d ds.length f.slots.length)
    else f.build fun key => lookupMember key members
  | _ => named name f d

def anyOf (name : String) (readings : List (Doc → Read τ)) (d : Doc) : Read τ :=
  match readings with
  | [] => .error (.noVariant name)
  | read :: rest => match read d with
    | .ok v => .ok v
    | .error _ => anyOf name rest d

def ofValue (read : Doc → Read τ) (j : Json) : Read τ := read (.value j)

/-- Reads a whole text: nothing but blanks may follow the data. -/
def ofText (read : Doc → Read τ) (s : String) : Read τ :=
  let document := Document.read s
  match read (.text depthLimit document.root) with
  | .error e => .error e
  | .ok v => if document.closed then .ok v else .error .malformed

end Json
end PageFlow
