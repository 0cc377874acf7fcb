import Mathlib.Data.List.Basic

/-!
# Records in a self-describing format

A format shows a value as data: a table has no order, an array has one. A record is read from
a table by the names of its fields, or from an array by their positions. A field that is not
there is refused or takes a default, and a field may be skipped on output. A value is kept by
a writer and a reader if it reads back; the laws below are one for each kind of field.
-/

namespace Rtun.Serde

universe u
variable {α : Type u}

/-- Data as a format shows it. -/
inductive Data where
  | bool (value : Bool)
  | integer (value : Int)
  | float (bits : UInt64)
  | str (text : String)
  | array (items : List Data)
  | table (fields : String → Option Data)

/-- The fields of a record, by name and position. -/
def Data.record : Data → Option (String → Nat → Option Data)
  | .table fields => some (fun name _ => fields name)
  | .array items => some (fun _ position => items[position]?)
  | _ => none

/-- A field without a default. -/
def required (read : Data → Option α) (field : Option Data) : Option α := field.bind read

/-- A field with a default. -/
def withDefault (read : Data → Option α) (default : α) : Option Data → Option α
  | none => some default
  | some data => read data

def readBool : Data → Option Bool
  | .bool value => some value
  | _ => none

def readU16 : Data → Option UInt16
  | .integer value =>
      if 0 ≤ value ∧ value < 65536 then some (UInt16.ofNat value.toNat) else none
  | _ => none

def readStr : Data → Option String
  | .str text => some text
  | _ => none

def readList (read : Data → Option α) : Data → Option (List α)
  | .array items => items.mapM read
  | _ => none

def writeU16 (value : UInt16) : Data := .integer value.toNat

def writeList (write : α → Data) (values : List α) : Data := .array (values.map write)

/-- A field that is always written. -/
def always (write : α → Data) (value : α) : Option Data := some (write value)

/-- A field that is skipped when the test says so. -/
def skipIf (skip : α → Bool) (write : α → Data) (value : α) : Option Data :=
  if skip value then none else some (write value)

/-- A record with its fields. -/
def writeRecord (fields : List (String × Option Data)) : Data :=
  .table (fun name => (fields.lookup name).join)

/-- What is written for the value reads back. -/
def Keeps (write : α → Data) (read : Data → Option α) (value : α) : Prop :=
  read (write value) = some value

/-- A flag is written as it is. -/
theorem keeps_bool (value : Bool) : Keeps Data.bool readBool value := rfl

/-- So is a text. -/
theorem keeps_str (text : String) : Keeps Data.str readStr text := rfl

/-- A port is written as a number, which is read back within its range. -/
theorem keeps_u16 (value : UInt16) : Keeps writeU16 readU16 value := by
  have bound : value.toNat < 65536 := value.toNat_lt
  have inRange : (0 : Int) ≤ value.toNat ∧ (value.toNat : Int) < 65536 := by omega
  simp [Keeps, writeU16, readU16, inRange]

/-- A list is kept if its elements are, in their order. -/
theorem keeps_list {write : α → Data} {read : Data → Option α} (values : List α)
    (kept : ∀ value ∈ values, Keeps write read value) :
    Keeps (writeList write) (readList read) values := by
  unfold Keeps writeList readList
  induction values with
  | nil => rfl
  | cons value rest inductionHypothesis =>
    have first : read (write value) = some value := kept value List.mem_cons_self
    have others := inductionHypothesis (fun other member =>
      kept other (List.mem_cons_of_mem value member))
    simp only [List.map_cons, List.mapM_cons, first, others]
    rfl

/-- The field of a record that was written, if it is one of those listed. -/
theorem record_writeRecord (fields : List (String × Option Data)) :
    (writeRecord fields).record = some (fun name _ => (fields.lookup name).join) := rfl

/-- A field that is always written is kept if its value is. -/
theorem required_always {write : α → Data} {read : Data → Option α} {value : α}
    (kept : Keeps write read value) : required read (always write value) = some value := kept

/-- A field that is always written is read back whatever its default is. -/
theorem withDefault_always {write : α → Data} {read : Data → Option α} {value : α} (default : α)
    (kept : Keeps write read value) :
    withDefault read default (always write value) = some value := kept

/-- A field that may be skipped is kept exactly if what is skipped is the
default. -/
theorem withDefault_skipIf {write : α → Data} {read : Data → Option α} {value : α}
    (default : α) (skip : α → Bool) (kept : Keeps write read value) :
    withDefault read default (skipIf skip write value) = some value ↔
      (skip value = true → value = default) := by
  unfold skipIf
  cases skip value with
  | true => simp [withDefault, eq_comm]
  | false => simpa [withDefault, Keeps] using kept

end Rtun.Serde
