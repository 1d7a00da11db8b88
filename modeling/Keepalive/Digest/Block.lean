import Keepalive.Bytes

/-!
# Blocks of a message

The digests of this library read a message in blocks of sixty-four octets. `padded` completes it: the octet `0x80`, zeros, and
the length of the message in bits on eight octets, in the byte order of the digest. `folded` runs a compression function
over the blocks.
-/

namespace Keepalive.Digest

/-- The octets in a block. -/
def blockSize : Nat := 64

/-- The zeros between the octet `0x80` and the length: as few as make whole blocks. -/
def fillLength (n : Nat) : Nat := (119 - n % blockSize) % blockSize

/-- A message completed to whole blocks; `word` writes the length in bits on eight octets. -/
def padded (word : Nat → Nat → Bytes) (m : Bytes) : Bytes :=
  m ++ [0x80] ++ Bytes.zeros (fillLength m.length) ++ word 8 (8 * m.length)

/-- The state after the first `n` blocks of a message. -/
def folded {σ : Type} (compress : σ → Bytes → σ) : Nat → σ → Bytes → σ
  | 0, s, _ => s
  | n + 1, s, m => folded compress n (compress s (m.take blockSize)) (m.drop blockSize)

/-- A word rotated to the left. -/
def rotate (x : UInt32) (n : UInt32) : UInt32 := (x <<< n) ||| (x >>> (32 - n))

end Keepalive.Digest
