import Keepalive.Bytes
import Keepalive.Checksum.Fault

/-!
# The folded word

A word of four octets made of a byte string: the exclusive or of its little-endian words. The fold starts from an integer of
any size and sign, in two's complement, and only its result is cut to thirty-two bits.
-/

namespace Keepalive.Checksum

/-- The exclusive or of an integer in two's complement with a word: only the lowest thirty-two bits change. -/
def mixWord (n : Int) (w : UInt32) : Int :=
  n - n % UInt32.size + (((n % UInt32.size).toNat ^^^ w.toNat : Nat) : Int)

/-- The lowest thirty-two bits of an integer in two's complement. -/
def lowWord (n : Int) : UInt32 := UInt32.ofNat (n % UInt32.size).toNat

/-- The folded word of a byte string of whole words, from a starting value. -/
def foldFrom (start : Int) (data : Bytes) : Except ChecksumFault UInt32 :=
  if data.length % 4 = 0 then .ok (lowWord ((data.words Bytes.ofLittle).foldl mixWord start))
  else .error (.unaligned data.length)

/-- The folded word of a byte string of whole words; it starts from zero unless told otherwise. -/
def fold (data : Bytes) (start? : Option Int) : Except ChecksumFault UInt32 := foldFrom (start?.getD 0) data

end Keepalive.Checksum
