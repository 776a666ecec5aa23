import StagedTables.Number.Numeral
import StagedTables.Text.Quoted

/-! # Bytes in hexadecimal

Two lower-case digits stand for a byte; digits of either case are read. -/
set_option autoImplicit false
namespace StagedTables.Text

def hexBytes (bytes : List UInt8) : String :=
  String.ofList (bytes.flatMap fun byte => hexPadded 2 byte.toNat)

def bytesOfHex : List Char → List UInt8
  | high :: low :: rest =>
    let value := fun c => (Numeral.digitValue? c).getD 0
    UInt8.ofNat (value high * 16 + value low) :: bytesOfHex rest
  | _ => []

end StagedTables.Text
