import Quill.Decimal.Text
import Quill.Text.Quoted

set_option autoImplicit false

/-! Data values: what the serialized form of a tree is made of, and what a data text (JSON or
YAML) reads into. A value is null, a truth value, an integer, a double, a text, a list of
values, or a record of named values in insertion order. Values have a display of their own
(texts quoted, `None`/`True`/`False`, records in braces), a truth test and a numeric equality
in which `True`, `1` and `1.0` agree. -/
namespace Quill

/-- A data value. -/
inductive Data where
  | null
  | bool (b : Bool)
  | int (n : Int)
  | float (x : Float)
  | text (s : String)
  | list (items : List Data)
  | record (fields : List (String × Data))
deriving Inhabited

namespace Data

/-- The field named `k` of a record. -/
def get? (d : Data) (k : String) : Option Data :=
  match d with
  | .record fields => (fields.find? (·.1 == k)).map (·.2)
  | _ => none

/-- The name of a value's type, as error messages give it. -/
def typeName : Data → String
  | .null => "NoneType"
  | .bool _ => "bool"
  | .int _ => "int"
  | .float _ => "float"
  | .text _ => "str"
  | .list _ => "list"
  | .record _ => "dict"

mutual

/-- The display of a value: texts quoted, lists in brackets, records in braces with quoted
keys, and `None`, `True`, `False` for the constants. -/
def display : Data → String
  | .null => "None"
  | .bool b => if b then "True" else "False"
  | .int n => toString n
  | .float x => Decimal.render x
  | .text s => Text.quoted s
  | .list items => "[" ++ displayItems items ++ "]"
  | .record fields => "\x7b" ++ displayFields fields ++ "\x7d"

/-- The displays of list items, separated by commas. -/
def displayItems : List Data → String
  | [] => ""
  | [d] => display d
  | d :: rest => display d ++ ", " ++ displayItems rest

/-- The displays of record fields, separated by commas. -/
def displayFields : List (String × Data) → String
  | [] => ""
  | [(k, v)] => Text.quoted k ++ ": " ++ display v
  | (k, v) :: rest => Text.quoted k ++ ": " ++ display v ++ ", " ++ displayFields rest

end

/-- The plain text of a value: a text is itself, anything else its display. -/
def plain : Data → String
  | .text s => s
  | d => d.display

/-- Whether a value counts as true: everything except null, false, zero, and empty texts,
lists and records. -/
def truthy : Data → Bool
  | .null => false
  | .bool b => b
  | .int n => n != 0
  | .float x => !(x == 0.0)
  | .text s => !s.isEmpty
  | .list items => !items.isEmpty
  | .record fields => !fields.isEmpty

/-- The exact rational value of a number (truth values count as 0 and 1), if it is a finite
number. -/
def exactValue? : Data → Option (Bool × Decimal.Ratio)
  | .bool b => some (false, ⟨if b then 1 else 0, 1⟩)
  | .int n => some (n < 0, ⟨n.natAbs, 1⟩)
  | .float x =>
    match Decimal.shapeOf x with
    | .finite negative m e => some (negative && m != 0, Decimal.Ratio.ofBinary m e)
    | _ => none
  | _ => none

mutual

/-- Equality of values: numbers by value across integers, doubles and truth values (a
not-a-number equals nothing), texts by their characters, lists and records item by item. -/
def same : Data → Data → Bool
  | .null, .null => true
  | .text a, .text b => a == b
  | .list as, .list bs => sameItems as bs
  | .record as, .record bs => sameFields as bs
  | .float a, .float b => a == b
  | a, b =>
    match a.exactValue?, b.exactValue? with
    | some (sa, ra), some (sb, rb) => sa == sb && ra.num * rb.den == rb.num * ra.den
    | _, _ => false

/-- Item-by-item equality of lists. -/
def sameItems : List Data → List Data → Bool
  | [], [] => true
  | a :: as, b :: bs => same a b && sameItems as bs
  | _, _ => false

/-- Field-by-field equality of records, names and values in order. -/
def sameFields : List (String × Data) → List (String × Data) → Bool
  | [], [] => true
  | (ka, a) :: as, (kb, b) :: bs => ka == kb && same a b && sameFields as bs
  | _, _ => false

end

end Data

end Quill
