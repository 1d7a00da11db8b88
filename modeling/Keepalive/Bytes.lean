/-!
# Bytes and words

A byte string is a list of octets. A word is a natural number written on a fixed number of octets, the least significant
octet first (`Bytes.little`) or last (`Bytes.big`); `Bytes.words` cuts a byte string into words of four octets. Writing keeps
what fits the width (`ofLittle_little`, `ofBig_big`), and every byte string is the word of the number it spells
(`little_ofLittle`, `big_ofBig`).
-/

namespace Keepalive

/-- A byte string. -/
abbrev Bytes := List UInt8

namespace Bytes

/-- `n` on `w` octets, the least significant first; what does not fit is dropped. -/
def little : Nat → Nat → Bytes
  | 0, _ => []
  | w + 1, n => UInt8.ofNat n :: little w (n / 256)

/-- The number whose octets these are, the least significant first. -/
def ofLittle : Bytes → Nat
  | [] => 0
  | b :: r => b.toNat + 256 * ofLittle r

/-- `n` on `w` octets, the most significant first: the order in which addresses travel. -/
def big (w n : Nat) : Bytes := (little w n).reverse

/-- The number whose octets these are, the most significant first. -/
def ofBig (b : Bytes) : Nat := ofLittle b.reverse

/-- The words of four octets, as `read` reads them; a rest of fewer octets is dropped. -/
def words (read : Bytes → Nat) : Bytes → List UInt32
  | a :: b :: c :: d :: r => UInt32.ofNat (read [a, b, c, d]) :: words read r
  | _ => []

/-- How many numbers fit so many octets. -/
def capacity : Nat → Nat
  | 0 => 1
  | w + 1 => 256 * capacity w

/-- A run of zero octets. -/
def zeros (n : Nat) : Bytes := List.replicate n 0

@[simp] theorem length_little (w n : Nat) : (little w n).length = w := by
  induction w generalizing n with
  | zero => rfl
  | succ w ih => simp [little, ih]

@[simp] theorem length_big (w n : Nat) : (big w n).length = w := by
  simp [big]

@[simp] theorem length_zeros (n : Nat) : (zeros n).length = n := by
  simp [zeros]

/-- Reading a word back gives the number modulo how many fit the word. -/
theorem ofLittle_little (w n : Nat) : ofLittle (little w n) = n % capacity w := by
  induction w generalizing n with
  | zero => simp [little, ofLittle, capacity, Nat.mod_one]
  | succ w ih =>
    have h : (UInt8.ofNat n).toNat = n % 256 := by simp
    rw [little, ofLittle, ih, h, capacity, Nat.mod_mul]

/-- Every byte string is the word of the number it spells. -/
theorem little_ofLittle (b : Bytes) : little b.length (ofLittle b) = b := by
  induction b with
  | nil => rfl
  | cons x r ih =>
    have hx : x.toNat < 256 := x.toNat_lt
    have h1 : UInt8.ofNat (x.toNat + 256 * ofLittle r) = x := by
      apply UInt8.toNat_inj.mp
      simp only [UInt8.toNat_ofNat']
      omega
    have h2 : (x.toNat + 256 * ofLittle r) / 256 = ofLittle r := by omega
    rw [List.length_cons, ofLittle, little, h1, h2, ih]

/-- The number a byte string spells is one of those that fit it. -/
theorem ofLittle_lt (b : Bytes) : ofLittle b < capacity b.length := by
  induction b with
  | nil => simp [ofLittle, capacity]
  | cons x r ih =>
    have hx : x.toNat < 256 := x.toNat_lt
    rw [ofLittle, List.length_cons, capacity]
    omega

/-- `ofLittle_little` for the other order. -/
theorem ofBig_big (w n : Nat) : ofBig (big w n) = n % capacity w := by
  simp [ofBig, big, ofLittle_little]

/-- `little_ofLittle` for the other order. -/
theorem big_ofBig (b : Bytes) : big b.length (ofBig b) = b := by
  have h := little_ofLittle b.reverse
  rw [List.length_reverse] at h
  rw [big, ofBig, h, List.reverse_reverse]

end Bytes

end Keepalive
