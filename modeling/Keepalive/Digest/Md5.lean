import Keepalive.Digest.Block

/-!
# MD5

The digest of sixteen octets that runs four rounds of sixteen steps over each block.
-/

namespace Keepalive.Digest

namespace Md5

/-- The four words of the running digest. -/
structure State where
  a : UInt32
  b : UInt32
  c : UInt32
  d : UInt32
  deriving DecidableEq, Repr

/-- The digest of nothing. -/
def State.start : State := ⟨0x67452301, 0xefcdab89, 0x98badcfe, 0x10325476⟩

/-- The word added in each of the sixty-four steps: the integer part of `2 ^ 32` times the absolute sine of the step's number,
counted from one. -/
def sines : List UInt32 :=
  [0xd76aa478, 0xe8c7b756, 0x242070db, 0xc1bdceee, 0xf57c0faf, 0x4787c62a, 0xa8304613, 0xfd469501, 0x698098d8,
   0x8b44f7af, 0xffff5bb1, 0x895cd7be, 0x6b901122, 0xfd987193, 0xa679438e, 0x49b40821, 0xf61e2562, 0xc040b340,
   0x265e5a51, 0xe9b6c7aa, 0xd62f105d, 0x02441453, 0xd8a1e681, 0xe7d3fbc8, 0x21e1cde6, 0xc33707d6, 0xf4d50d87,
   0x455a14ed, 0xa9e3e905, 0xfcefa3f8, 0x676f02d9, 0x8d2a4c8a, 0xfffa3942, 0x8771f681, 0x6d9d6122, 0xfde5380c,
   0xa4beea44, 0x4bdecfa9, 0xf6bb4b60, 0xbebfbc70, 0x289b7ec6, 0xeaa127fa, 0xd4ef3085, 0x04881d05, 0xd9d4d039,
   0xe6db99e5, 0x1fa27cf8, 0xc4ac5665, 0xf4292244, 0x432aff97, 0xab9423a7, 0xfc93a039, 0x655b59c3, 0x8f0ccc92,
   0xffeff47d, 0x85845dd1, 0x6fa87e4f, 0xfe2ce6e0, 0xa3014314, 0x4e0811a1, 0xf7537e82, 0xbd3af235, 0x2ad7d2bb,
   0xeb86d391]

/-- The function of three words that step `i` mixes in. -/
def mix (i : Nat) (x y z : UInt32) : UInt32 :=
  match i / 16 with
  | 0 => (x &&& y) ||| (~~~x &&& z)
  | 1 => (x &&& z) ||| (y &&& ~~~z)
  | 2 => x ^^^ y ^^^ z
  | _ => y ^^^ (x ||| ~~~z)

/-- The word of the block that step `i` reads. -/
def place (i : Nat) : Nat :=
  match i / 16 with
  | 0 => i
  | 1 => (5 * i + 1) % 16
  | 2 => (3 * i + 5) % 16
  | _ => (7 * i) % 16

/-- The rotation of step `i`. -/
def turn (i : Nat) : UInt32 :=
  match i / 16, i % 4 with
  | 0, 0 => 7 | 0, 1 => 12 | 0, 2 => 17 | 0, _ => 22
  | 1, 0 => 5 | 1, 1 => 9 | 1, 2 => 14 | 1, _ => 20
  | 2, 0 => 4 | 2, 1 => 11 | 2, 2 => 16 | 2, _ => 23
  | _, 0 => 6 | _, 1 => 10 | _, 2 => 15 | _, _ => 21

/-- Step `i` over the words `x` of a block. -/
def step (x : List UInt32) (s : State) (i : Nat) : State :=
  let sum := s.a + mix i s.b s.c s.d + x.getD (place i) 0 + sines.getD i 0
  ⟨s.d, s.b + rotate sum (turn i), s.b, s.c⟩

/-- One block. -/
def compress (s : State) (block : Bytes) : State :=
  let t := (List.range 64).foldl (step (block.words Bytes.ofLittle)) s
  ⟨s.a + t.a, s.b + t.b, s.c + t.c, s.d + t.d⟩

/-- The digest as octets. -/
def State.bytes (s : State) : Bytes :=
  Bytes.little 4 s.a.toNat ++ Bytes.little 4 s.b.toNat ++ Bytes.little 4 s.c.toNat ++ Bytes.little 4 s.d.toNat

end Md5

/-- The MD5 digest of a message. -/
def md5 (m : Bytes) : Bytes :=
  let p := padded Bytes.little m
  (folded Md5.compress (p.length / blockSize) Md5.State.start p).bytes

/-- An MD5 digest has sixteen octets. -/
@[simp] theorem length_md5 (m : Bytes) : (md5 m).length = 16 := by
  simp [md5, Md5.State.bytes]

/-- The MD5 digest of `abc`, as it is published with the function. -/
example : md5 [0x61, 0x62, 0x63] =
    [0x90, 0x01, 0x50, 0x98, 0x3c, 0xd2, 0x4f, 0xb0, 0xd6, 0x96, 0x3f, 0x7d, 0x28, 0xe1, 0x7f, 0x72] := by decide +kernel

end Keepalive.Digest
