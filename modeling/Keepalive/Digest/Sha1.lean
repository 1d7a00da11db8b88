import Keepalive.Digest.Block

/-!
# SHA-1

The digest of twenty octets that stretches each block to eighty words and runs a step over each word. Its words and the
length of the message travel with the most significant octet first.
-/

namespace Keepalive.Digest

namespace Sha1

/-- The five words of the running digest. -/
structure State where
  a : UInt32
  b : UInt32
  c : UInt32
  d : UInt32
  e : UInt32
  deriving DecidableEq, Repr

/-- The digest of nothing. -/
def State.start : State := ⟨0x67452301, 0xefcdab89, 0x98badcfe, 0x10325476, 0xc3d2e1f0⟩

/-- `n` more words in front of a list that holds the words so far, the latest first: each is the parity of the words three,
eight, fourteen and sixteen places back, rotated by one. -/
def stretch : Nat → List UInt32 → List UInt32
  | 0, w => w
  | n + 1, w => stretch n (rotate (w.getD 2 0 ^^^ w.getD 7 0 ^^^ w.getD 13 0 ^^^ w.getD 15 0) 1 :: w)

/-- The eighty words of a block. -/
def schedule (block : Bytes) : List UInt32 := (stretch 64 (block.words Bytes.ofBig).reverse).reverse

/-- The function of three words and the constant of step `i`. -/
def mix (i : Nat) (x y z : UInt32) : UInt32 :=
  match i / 20 with
  | 0 => ((x &&& y) ||| (~~~x &&& z)) + 0x5a827999
  | 1 => (x ^^^ y ^^^ z) + 0x6ed9eba1
  | 2 => ((x &&& y) ||| (x &&& z) ||| (y &&& z)) + 0x8f1bbcdc
  | _ => (x ^^^ y ^^^ z) + 0xca62c1d6

/-- A step: the word of the schedule and its number. -/
def step (s : State) (p : UInt32 × Nat) : State :=
  ⟨rotate s.a 5 + mix p.2 s.b s.c s.d + s.e + p.1, s.a, rotate s.b 30, s.c, s.d⟩

/-- One block. -/
def compress (s : State) (block : Bytes) : State :=
  let t := (schedule block).zipIdx.foldl step s
  ⟨s.a + t.a, s.b + t.b, s.c + t.c, s.d + t.d, s.e + t.e⟩

/-- The digest as octets. -/
def State.bytes (s : State) : Bytes :=
  Bytes.big 4 s.a.toNat ++ Bytes.big 4 s.b.toNat ++ Bytes.big 4 s.c.toNat ++ Bytes.big 4 s.d.toNat ++ Bytes.big 4 s.e.toNat

end Sha1

/-- The SHA-1 digest of a message. -/
def sha1 (m : Bytes) : Bytes :=
  let p := padded Bytes.big m
  (folded Sha1.compress (p.length / blockSize) Sha1.State.start p).bytes

/-- A SHA-1 digest has twenty octets. -/
@[simp] theorem length_sha1 (m : Bytes) : (sha1 m).length = 20 := by
  simp [sha1, Sha1.State.bytes]

/-- The SHA-1 digest of `abc`, as it is published with the function. -/
example : sha1 [0x61, 0x62, 0x63] =
    [0xa9, 0x99, 0x3e, 0x36, 0x47, 0x06, 0x81, 0x6a, 0xba, 0x3e, 0x25, 0x71, 0x78, 0x50, 0xc2, 0x6c, 0x9c, 0xd0, 0xd8, 0x9d] := by
  decide +kernel

end Keepalive.Digest
