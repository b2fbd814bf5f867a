/-!
# Padded blocks

Both digests read their message in blocks of 64 octets, padded with the octet
`80`, zeros, and the message length in bits in eight octets.
-/

namespace ObjectAccess.Digest

set_option autoImplicit false

/-- Zeros up to eight octets before the end of a block, after a message of `length` octets
and the octet `80`. -/
def zeroFill (length : Nat) : List UInt8 :=
  List.replicate ((119 - length % 64) % 64) 0

/-- The `count` lowest octets of a number, lowest first. -/
def littleOctets : Nat → Nat → List UInt8
  | 0, _ => []
  | count + 1, n => UInt8.ofNat n :: littleOctets count (n / 256)

/-- The `count` lowest octets of a number, highest first. -/
def bigOctets (count n : Nat) : List UInt8 := (littleOctets count n).reverse

/-- A message with its padding, the bit length written by `writeLength`. -/
def padded (writeLength : Nat → Nat → List UInt8) (message : List UInt8) : List UInt8 :=
  message ++ 0x80 :: (zeroFill message.length ++ writeLength 8 (message.length * 8))

/-- Consecutive groups of `size` octets; what does not fill a group is left out. -/
def groups (size : Nat) (message : List UInt8) : List (List UInt8) :=
  (List.range (message.length / size)).map fun i => (message.drop (i * size)).take size

end ObjectAccess.Digest
