import SnapshotSuite.Decimal.Binary64
/-!
# Documents

A document is a JSON value. An object is a list of fields in the order in which their keys were
first set: `Fields.insert` replaces a value where its key stands, and puts a new key last.
`Document.same` is equality up to the order of the fields of every object.
-/

namespace SnapshotSuite

/-- A number of a document: whole numbers and real numbers are kept apart. -/
inductive Number where
  /-- A whole number. -/
  | integer (value : Int)
  /-- A number written with a point or an exponent, or too large for a whole one. -/
  | real (value : Binary64)
deriving DecidableEq, Repr

/-- A JSON value. -/
inductive Document where
  /-- The value `null`. -/
  | null
  /-- A truth value. -/
  | bool (value : Bool)
  /-- A number. -/
  | number (value : Number)
  /-- A text. -/
  | string (value : String)
  /-- A list of values. -/
  | array (items : List Document)
  /-- A list of fields, keys first. -/
  | object (fields : List (String × Document))
deriving Inhabited, Repr

/-- The fields of an object, in order. -/
abbrev Fields := List (String × Document)

namespace Fields

/-- The keys, in order. -/
def keys (fields : Fields) : List String :=
  fields.map Prod.fst

/-- No key stands twice. -/
def Unique (fields : Fields) : Prop :=
  (keys fields).Nodup

/-- The value at a key. -/
def get? (fields : Fields) (key : String) : Option Document :=
  fields.lookup key

/-- Sets the value at a key: in its place if the key is there, else at the end. -/
def insert (key : String) (value : Document) : Fields → Fields
  | [] => [(key, value)]
  | (k, v) :: fields =>
    if k = key then (key, value) :: fields else (k, v) :: insert key value fields

/-- Sets every field of `overrides` on `base`, in order. -/
def overlay (base overrides : Fields) : Fields :=
  overrides.foldl (fun fields field => insert field.1 field.2 fields) base

@[simp] theorem keys_nil : keys [] = [] := rfl

@[simp] theorem keys_cons (field : String × Document) (fields : Fields) :
    keys (field :: fields) = field.1 :: keys fields := rfl

@[simp] theorem overlay_nil (base : Fields) : overlay base [] = base := rfl

@[simp] theorem overlay_cons (base overrides : Fields) (key : String) (value : Document) :
    overlay base ((key, value) :: overrides) = overlay (insert key value base) overrides := rfl

end Fields

/-- Equality of numbers: a whole number never equals a real one. -/
def Number.sameValue : Number → Number → Bool
  | .integer a, .integer b => a == b
  | .real a, .real b => a.sameValue b
  | _, _ => false

namespace Document

/-- The fields, if the document is an object. -/
def fields? : Document → Option Fields
  | .object fields => some fields
  | _ => none

/-- The fields of the object that stands at a key; no fields if none stands there. -/
def objectAt (fields : Fields) (key : String) : Fields :=
  ((Fields.get? fields key).bind fields?).getD []

/-- The items, if the document is an array. -/
def items? : Document → Option (List Document)
  | .array items => some items
  | _ => none

/-- The text, if the document is one. -/
def string? : Document → Option String
  | .string value => some value
  | _ => none

/-- The truth value, if the document is one. -/
def bool? : Document → Option Bool
  | .bool value => some value
  | _ => none

/-- The value at a key, if the document is an object that has it. -/
def get? (document : Document) (key : String) : Option Document :=
  document.fields?.bind (Fields.get? · key)

/-- The value behind a list of keys, each one inside the value of the one before. -/
def at? (document : Document) : List String → Option Document
  | [] => some document
  | key :: keys => (document.get? key).bind (·.at? keys)

mutual

/-- Equality of values, the order of fields left out at every depth. -/
def same : Document → Document → Bool
  | .null, .null => true
  | .bool a, .bool b => a == b
  | .number a, .number b => a.sameValue b
  | .string a, .string b => a == b
  | .array xs, .array ys => sameItems xs ys
  | .object fs, .object gs => fs.length == gs.length && sameFields fs gs
  | _, _ => false

/-- Item by item equality of two lists. -/
def sameItems : List Document → List Document → Bool
  | [], [] => true
  | x :: xs, y :: ys => same x y && sameItems xs ys
  | _, _ => false

/-- Every field of the first list has an equal value at its key in the second. -/
def sameFields : List (String × Document) → Fields → Bool
  | [], _ => true
  | (key, value) :: fs, gs =>
    (match Fields.get? gs key with
      | some other => same value other
      | none => false) && sameFields fs gs

end

mutual

/-- The number of arrays and objects around the innermost value. -/
def depth : Document → Nat
  | .array items => depthItems items + 1
  | .object fields => depthFields fields + 1
  | _ => 0

/-- The greatest depth among the items. -/
def depthItems : List Document → Nat
  | [] => 0
  | x :: xs => max (depth x) (depthItems xs)

/-- The greatest depth among the values of the fields. -/
def depthFields : List (String × Document) → Nat
  | [] => 0
  | (_, value) :: fs => max (depth value) (depthFields fs)

end

end Document

end SnapshotSuite
