import RecordSql.Value
import RecordSql.Calendar.Instant
import RecordSql.Uuid
import RecordSql.Json.Reader
import RecordSql.Json.Writer

/-! The types a field of a record can have, and how each is stored in a value and read back. -/

namespace RecordSql

inductive IntegerWidth where
  | i8
  | i16
  | i32
  | i64
  | u8
  | u16
  | u32
deriving DecidableEq, Repr

namespace IntegerWidth

def least : IntegerWidth → Int
  | .i8 => -0x80
  | .i16 => -0x8000
  | .i32 => -0x80000000
  | .i64 => -0x8000000000000000
  | .u8 | .u16 | .u32 => 0

def greatest : IntegerWidth → Int
  | .i8 => 0x7f
  | .i16 => 0x7fff
  | .i32 => 0x7fffffff
  | .i64 => 0x7fffffffffffffff
  | .u8 => 0xff
  | .u16 => 0xffff
  | .u32 => 0xffffffff

def Holds (w : IntegerWidth) (i : Int64) : Prop := w.least ≤ i.toInt ∧ i.toInt ≤ w.greatest

instance (w : IntegerWidth) (i : Int64) : Decidable (w.Holds i) := by unfold Holds; infer_instance

theorem holds_zero (w : IntegerWidth) : w.Holds 0 := by cases w <;> decide

end IntegerWidth

inductive Scalar where
  | bool
  | integer (width : IntegerWidth)
  | real32
  | real64
  | text
  | bytes
  | date
  | dateTime
  | instant
  | uuid
  | json
deriving DecidableEq, Repr

namespace Scalar

def Carrier : Scalar → Type
  | .bool => Bool
  | .integer w => { i : Int64 // w.Holds i }
  | .real32 => Binary32
  | .real64 => Binary64
  | .text => String
  | .bytes => List UInt8
  | .date => Date
  | .dateTime => DateTime
  | .instant => Instant
  | .uuid => Uuid
  | .json => Json

def storage : Scalar → StorageClass
  | .bool | .integer _ => .integer
  | .real32 | .real64 => .real
  | .text | .date | .dateTime | .instant | .uuid | .json => .text
  | .bytes => .blob

def encode : (s : Scalar) → s.Carrier → Value
  | .bool, b => Value.ofBool b
  | .integer _, i => .integer i.val
  | .real32, x => .real (Binary32.toBinary64 x)
  | .real64, x => .real x
  | .text, s => .text s
  | .bytes, bs => .blob bs
  | .date, d => .text (String.ofList (Date.text d))
  | .dateTime, t => .text (String.ofList (DateTime.text t))
  | .instant, i => .text (String.ofList (Instant.text i))
  | .uuid, u => .text (String.ofList (Uuid.text u))
  | .json, j => .text (Json.compact j)

def decode : (s : Scalar) → Value → Option s.Carrier
  | .bool, .integer i => some (i != 0)
  | .integer w, .integer i => if h : w.Holds i then some ⟨i, h⟩ else none
  | .real32, .real x => some x.toBinary32
  | .real32, .integer i => some (Binary64.ofInt i.toInt).toBinary32
  | .real64, .real x => some x
  | .real64, .integer i => some (Binary64.ofInt i.toInt)
  | .text, .text s => some s
  | .bytes, .blob bs => some bs
  | .date, .text s => Date.ofText? s.toList
  | .dateTime, .text s => DateTime.ofText? s.toList
  | .instant, .text s => Instant.ofText? s.toList
  | .uuid, .text s => Uuid.ofText? s.toList
  | .json, .text s => Json.ofText? s.toList
  | _, _ => none

def initial : (s : Scalar) → s.Carrier
  | .bool => false
  | .integer w => ⟨0, w.holds_zero⟩
  | .real32 => Binary32.zero
  | .real64 => Binary64.zero
  | .text => ""
  | .bytes => []
  | .date => Date.epoch
  | .dateTime => DateTime.epoch
  | .instant => Instant.epoch
  | .uuid => Uuid.nil
  | .json => Json.null

end Scalar

structure FieldType where
  scalar : Scalar
  optional : Bool := false
deriving DecidableEq, Repr

namespace FieldType

def Carrier : FieldType → Type
  | ⟨s, false⟩ => s.Carrier
  | ⟨s, true⟩ => Option s.Carrier

def storage (t : FieldType) : StorageClass := t.scalar.storage

def encode : (t : FieldType) → t.Carrier → Value
  | ⟨s, false⟩, x => s.encode x
  | ⟨_, true⟩, none => .null
  | ⟨s, true⟩, some x => s.encode x

def decode : (t : FieldType) → Value → Option t.Carrier
  | ⟨s, false⟩, v => s.decode v
  | ⟨_, true⟩, .null => some none
  | ⟨s, true⟩, v => (s.decode v).map some

def initial : (t : FieldType) → t.Carrier
  | ⟨s, false⟩ => s.initial
  | ⟨_, true⟩ => none

end FieldType

end RecordSql
