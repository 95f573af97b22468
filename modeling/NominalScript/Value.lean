/-!
# Values

What a script computes with: 64-bit integers that wrap around, strings,
booleans, the one value of type `Void`, and structs.  A struct value is the list
of its field values in declared order; it does not know its type.
-/

namespace NominalScript

/-- A value of a running script. -/
inductive Value where
  | int (n : Int64)
  | str (s : String)
  | bool (b : Bool)
  | void
  | struct (fields : List Value)
deriving Repr, Inhabited

mutual

/-- Equality of values is decided field by field. -/
def Value.decEq : (a b : Value) → Decidable (a = b)
  | .int m, .int n => if h : m = n then isTrue (h ▸ rfl) else isFalse fun e => h (by injection e)
  | .str s, .str t => if h : s = t then isTrue (h ▸ rfl) else isFalse fun e => h (by injection e)
  | .bool b, .bool c => if h : b = c then isTrue (h ▸ rfl) else isFalse fun e => h (by injection e)
  | .void, .void => isTrue rfl
  | .struct fs, .struct gs =>
    match Value.decEqList fs gs with
    | isTrue h => isTrue (h ▸ rfl)
    | isFalse h => isFalse fun e => h (by injection e)
  | .int _, .str _ | .int _, .bool _ | .int _, .void | .int _, .struct _
  | .str _, .int _ | .str _, .bool _ | .str _, .void | .str _, .struct _
  | .bool _, .int _ | .bool _, .str _ | .bool _, .void | .bool _, .struct _
  | .void, .int _ | .void, .str _ | .void, .bool _ | .void, .struct _
  | .struct _, .int _ | .struct _, .str _ | .struct _, .bool _ | .struct _, .void =>
    isFalse nofun

/-- Equality of lists of values. -/
def Value.decEqList : (a b : List Value) → Decidable (a = b)
  | [], [] => isTrue rfl
  | [], _ :: _ => isFalse nofun
  | _ :: _, [] => isFalse nofun
  | v :: vs, w :: ws =>
    match Value.decEq v w, Value.decEqList vs ws with
    | isTrue h, isTrue hs => isTrue (h ▸ hs ▸ rfl)
    | isFalse h, _ => isFalse fun e => h (by injection e)
    | _, isFalse hs => isFalse fun e => hs (by injection e)

end

instance : DecidableEq Value := Value.decEq

/-- An integer in decimal, with a minus sign if it is negative. -/
def integerText (n : Int64) : String := toString n.toInt

mutual

/-- A value as it is printed.  A string is printed without quotes, and a struct
as the list of its fields between braces. -/
def Value.text : Value → String
  | .int n => integerText n
  | .str s => s
  | .bool true => "true"
  | .bool false => "false"
  | .void => "()"
  | .struct fields => "\x7b" ++ ", ".intercalate (Value.texts fields) ++ "\x7d"

/-- Every value of a list as it is printed. -/
def Value.texts : List Value → List String
  | [] => []
  | v :: vs => v.text :: Value.texts vs

end

/-- Does a condition hold?  Only integers serve as conditions, and any but zero
holds. -/
def Value.isTruthy : Value → Bool
  | .int n => n != 0
  | _ => false

/-- The integer that a value is. -/
def Value.int? : Value → Option Int64
  | .int n => some n
  | _ => none

/-- The field of a struct value at a position. -/
def Value.field? : Value → Nat → Option Value
  | .struct fields, i => fields[i]?
  | _, _ => none

/-! ## Types of the host -/

/-- A type of the host whose elements a script holds as values of the builtin
type `typeName`. -/
class HostType (α : Type) where
  typeName : String
  toValue : α → Value
  ofValue? : Value → Option α

instance : HostType Int64 where
  typeName := "Int"
  toValue := .int
  ofValue? := Value.int?

instance : HostType String where
  typeName := "String"
  toValue := .str
  ofValue?
    | .str s => some s
    | _ => none

instance : HostType Bool where
  typeName := "Bool"
  toValue := .bool
  ofValue?
    | .bool b => some b
    | _ => none

instance : HostType Unit where
  typeName := "Void"
  toValue _ := .void
  ofValue?
    | .void => some ()
    | _ => none

/-- The name of the builtin type that a value of the host has; a struct has
none. -/
def Value.hostTypeName? : Value → Option String
  | .int _ => some (HostType.typeName Int64)
  | .str _ => some (HostType.typeName String)
  | .bool _ => some (HostType.typeName Bool)
  | .void => some (HostType.typeName Unit)
  | .struct _ => none

end NominalScript
