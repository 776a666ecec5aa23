/-! # Entity data types

The types that the table service gives to the properties of an entity. -/
set_option autoImplicit false
namespace StagedTables

inductive Edm where
  | binary
  | boolean
  | dateTime
  | double
  | guid
  | int32
  | int64
  | string
  deriving DecidableEq, Repr

namespace Edm

def all : List Edm := [binary, boolean, dateTime, double, guid, int32, int64, string]

def name : Edm → String
  | binary => "Edm.Binary"
  | boolean => "Edm.Boolean"
  | dateTime => "Edm.DateTime"
  | double => "Edm.Double"
  | guid => "Edm.Guid"
  | int32 => "Edm.Int32"
  | int64 => "Edm.Int64"
  | string => "Edm.String"

def constantName : Edm → String
  | binary => "BINARY"
  | boolean => "BOOLEAN"
  | dateTime => "DATETIME"
  | double => "DOUBLE"
  | guid => "GUID"
  | int32 => "INT32"
  | int64 => "INT64"
  | string => "STRING"

def ofName? (name : String) : Option Edm := all.find? (·.name = name)

def isNumeric (edm : Edm) : Bool :=
  edm = int32 || edm = int64 || edm = double

end Edm

def int32Min : Int := -2147483648
def int32Max : Int := 2147483647
def int64Min : Int := -9223372036854775808
def int64Max : Int := 9223372036854775807

def FitsInt32 (n : Int) : Prop := int32Min ≤ n ∧ n ≤ int32Max

instance (n : Int) : Decidable (FitsInt32 n) := inferInstanceAs (Decidable (_ ∧ _))

def FitsInt64 (n : Int) : Prop := int64Min ≤ n ∧ n ≤ int64Max

instance (n : Int) : Decidable (FitsInt64 n) := inferInstanceAs (Decidable (_ ∧ _))

end StagedTables
