/-! # Bytes in base 64

Four characters of six bits each write three bytes; `=` fills up the last four.  Characters outside
of the alphabet are passed over. -/
set_option autoImplicit false
namespace StagedTables.Text

def base64Alphabet : List Char :=
  "ABCDEFGHIJKLMNOPQRSTUVWXYZabcdefghijklmnopqrstuvwxyz0123456789+/".toList

def base64Value? (c : Char) : Option Nat := base64Alphabet.idxOf? c

/-- The bytes of a text after `filled` characters of a group of four, of which `left` holds the
bits that make no byte yet, and after `pads` marks that fill it up. -/
def base64From? (filled left pads : Nat) : List Char → Option (List UInt8)
  | [] => if filled = 0 then some [] else none
  | c :: rest =>
    if c = '=' then
      if filled < 2 then base64From? filled left pads rest
      else if 3 ≤ filled + pads then some []
      else base64From? filled left (pads + 1) rest
    else match base64Value? c with
      | none => base64From? filled left pads rest
      | some bits => match filled with
        | 0 => base64From? 1 bits 0 rest
        | 1 => (base64From? 2 (bits % 16) 0 rest).map (UInt8.ofNat (left * 4 + bits / 16) :: ·)
        | 2 => (base64From? 3 (bits % 4) 0 rest).map (UInt8.ofNat (left * 16 + bits / 4) :: ·)
        | _ => (base64From? 0 0 0 rest).map (UInt8.ofNat (left * 64 + bits) :: ·)

def base64Bytes? (cs : List Char) : Option (List UInt8) := base64From? 0 0 0 cs

end StagedTables.Text
