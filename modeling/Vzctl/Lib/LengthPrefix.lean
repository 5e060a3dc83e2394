import Mathlib.Data.List.Basic

/-!
# Frames with a length prefix

A frame is the number of bytes of its payload, as a little-endian number of 32
bits, and the payload.  A reader gives the payload back exactly when its length
is one that the reader admits; a longer frame stops it at the prefix.
-/

namespace LengthPrefix

/-! ## Little-endian numbers -/

def littleEndian : Nat → Nat → List UInt8
  | 0, _ => []
  | width + 1, number =>
      UInt8.ofNat number :: littleEndian width (number / 256)

/-! ## Frames -/

variable {limit : Nat} {payload rest : List UInt8}

end LengthPrefix
