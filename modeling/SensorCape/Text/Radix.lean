/-
**Numbers in a fixed width.**

Log lines and fault texts write bytes, codes and addresses in base two or sixteen, padded with
zeros to a width that belongs to the format. `padded` is the one writer; the others fix its base.

* `paddedDigits_length`: a number that fits its width is written in exactly that width.
* `hexBytes`: a byte string, two digits for each byte.
-/

namespace SensorCape.Text

/-- The digits of `number` in `base`, with zeros in front up to `width`. -/
def paddedDigits (base width number : Nat) : List Char :=
  let digits := Nat.toDigits base number
  List.replicate (width - digits.length) '0' ++ digits

/-- The text of `number` in `base`, with zeros in front up to `width`. -/
def padded (base width number : Nat) : String :=
  String.ofList (paddedDigits base width number)

/-- A byte as two hexadecimal digits. -/
def hexByte (byte : UInt8) : List Char :=
  paddedDigits 16 2 byte.toNat

/-- A byte string as hexadecimal digits, two for each byte. -/
def hexBytes (bytes : List UInt8) : String :=
  String.ofList (bytes.flatMap hexByte)

/-- A number that needs no more digits than the width is written in exactly the width. -/
theorem paddedDigits_length (base width number : Nat)
    (fits : (Nat.toDigits base number).length ≤ width) :
    (paddedDigits base width number).length = width := by
  simp only [paddedDigits, List.length_append, List.length_replicate]
  omega

end SensorCape.Text
