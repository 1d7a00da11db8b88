import Keepalive.Digest.Block

/-!
# MD4

The digest of sixteen octets that runs three rounds of sixteen steps over each block.
-/

namespace Keepalive.Digest

namespace Md4

/-- The four words of the running digest. -/
structure State where
  a : UInt32
  b : UInt32
  c : UInt32
  d : UInt32
  deriving DecidableEq, Repr

/-- The digest of nothing. -/
def State.start : State := ⟨0x67452301, 0xefcdab89, 0x98badcfe, 0x10325476⟩

/-- One step: mix three words into the fourth, add a word of the block and the constant of the round, rotate. -/
def step (mix : UInt32 → UInt32 → UInt32 → UInt32) (constant : UInt32) (x : List UInt32) (s : State)
    (p : Nat × UInt32) : State :=
  ⟨s.d, rotate (s.a + mix s.b s.c s.d + x.getD p.1 0 + constant) p.2, s.b, s.c⟩

/-- The words a round reads, in order, with the rotations of its steps, which repeat after four. -/
def schedule (places : List Nat) (turns : List UInt32) : List (Nat × UInt32) :=
  places.zip (turns ++ turns ++ turns ++ turns)

/-- The first round: the words in order, one word choosing between two. -/
def roundOne (x : List UInt32) (s : State) : State :=
  (schedule (List.range 16) [3, 7, 11, 19]).foldl (step (fun u v w => (u &&& v) ||| (~~~u &&& w)) 0 x) s

/-- The second round: the words by columns, the majority of three words. -/
def roundTwo (x : List UInt32) (s : State) : State :=
  (schedule [0, 4, 8, 12, 1, 5, 9, 13, 2, 6, 10, 14, 3, 7, 11, 15] [3, 5, 9, 13]).foldl
    (step (fun u v w => (u &&& v) ||| (u &&& w) ||| (v &&& w)) 0x5a827999 x) s

/-- The third round: the words by reversed bits, the parity of three words. -/
def roundThree (x : List UInt32) (s : State) : State :=
  (schedule [0, 8, 4, 12, 2, 10, 6, 14, 1, 9, 5, 13, 3, 11, 7, 15] [3, 9, 11, 15]).foldl
    (step (fun u v w => u ^^^ v ^^^ w) 0x6ed9eba1 x) s

/-- One block. -/
def compress (s : State) (block : Bytes) : State :=
  let x := block.words Bytes.ofLittle
  let t := roundThree x (roundTwo x (roundOne x s))
  ⟨s.a + t.a, s.b + t.b, s.c + t.c, s.d + t.d⟩

/-- The digest as octets. -/
def State.bytes (s : State) : Bytes :=
  Bytes.little 4 s.a.toNat ++ Bytes.little 4 s.b.toNat ++ Bytes.little 4 s.c.toNat ++ Bytes.little 4 s.d.toNat

end Md4

/-- The MD4 digest of a message. -/
def md4 (m : Bytes) : Bytes :=
  let p := padded Bytes.little m
  (folded Md4.compress (p.length / blockSize) Md4.State.start p).bytes

/-- An MD4 digest has sixteen octets. -/
@[simp] theorem length_md4 (m : Bytes) : (md4 m).length = 16 := by
  simp [md4, Md4.State.bytes]

/-- The MD4 digest of `abc`, as it is published with the function. -/
example : md4 [0x61, 0x62, 0x63] =
    [0xa4, 0x48, 0x01, 0x7a, 0xaf, 0x21, 0xd8, 0x52, 0x5f, 0xc1, 0x0a, 0xe8, 0x7a, 0xa6, 0x72, 0x9d] := by decide +kernel

end Keepalive.Digest
