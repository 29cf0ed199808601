/-!
# Checksum

The CRC-32 of a text: the remainder of its UTF-8 bytes by the polynomial `0x04C11DB7`, bits
taken in reflected order, with all bits of the register set before and inverted after. Texts are
sequences of Unicode scalar values, so every one of them has these bytes; texts with a surrogate in
them are left out.
-/

namespace PromptRules.Text

/-- The reflected polynomial. -/
def polynomial : UInt32 := 0xEDB88320

/-- Moves the register on by `n` bits. -/
def shiftRegister : (n : Nat) → UInt32 → UInt32
  | 0, r => r
  | n + 1, r => shiftRegister n (if r &&& 1 = 1 then (r >>> 1) ^^^ polynomial else r >>> 1)

/-- Takes one byte into the register. -/
def feedByte (r : UInt32) (b : UInt8) : UInt32 := shiftRegister 8 (r ^^^ b.toUInt32)

/-- The CRC-32 of bytes. -/
def checksumBytes (bytes : List UInt8) : UInt32 := bytes.foldl feedByte 0xFFFFFFFF ^^^ 0xFFFFFFFF

/-- The CRC-32 of a text. -/
def checksum (s : String) : UInt32 := checksumBytes s.toUTF8.toList

end PromptRules.Text
