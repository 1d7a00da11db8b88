import Keepalive.Bytes
import Mathlib.Algebra.Order.Ring.Nat

/-!
# Octets at fixed places

A packet is read at fixed places: `Bytes.slice` takes a run of octets, `Bytes.wordAt` the word of four octets that stands
there. A slice of a concatenation is found in the part it falls in (`slice_append_left`, `slice_skip`), cutting into words
reads them one after another (`words_eq_map`), and a word changes at the place of an octet that is set (`wordAt_set`).
-/

namespace Keepalive.Bytes

/-- The octets of a byte string from a place on, so many of them. -/
def slice (start count : Nat) (data : Bytes) : Bytes := (data.drop start).take count

/-- The word of four octets, the least significant first, that stands at a multiple of four. -/
def wordAt (k : Nat) (data : Bytes) : Nat := ofLittle (data.slice (4 * k) 4)

/-! ## Slices -/

theorem length_slice {start count : Nat} {data : Bytes} (h : start + count ≤ data.length) :
    (data.slice start count).length = count := by
  simp only [slice, List.length_take, List.length_drop]
  omega

/-- An octet of a slice is the octet of the whole as far on. -/
theorem getElem?_slice (start count i : Nat) (data : Bytes) :
    (data.slice start count)[i]? = if i < count then data[start + i]? else none := by
  rw [slice, List.getElem?_take, List.getElem?_drop]

/-- An octet at a place is the octet of a slice that holds the place. -/
theorem getElem?_of_slice {start count : Nat} {data part : Bytes} (h : data.slice start count = part) {i : Nat}
    (hi : i < count) : data[start + i]? = part[i]? := by
  rw [← h, getElem?_slice, if_pos hi]

theorem getElem_slice {start count r : Nat} {data : Bytes} (h : r < (data.slice start count).length)
    (h' : start + r < data.length) : (data.slice start count)[r] = data[start + r] := by
  simp only [slice, List.getElem_take, List.getElem_drop]

/-- Setting an octet of a slice is setting that of the whole as far on. -/
theorem slice_set (start count r : Nat) (data : Bytes) (x : UInt8) :
    slice start count (data.set (start + r) x) = (data.slice start count).set r x := by
  have hr : start + r - start = r := by omega
  rw [slice, slice, List.drop_set, if_neg (by omega), List.take_set, hr]

/-- Two byte strings have the same slice when they have the same octets at its places. -/
theorem slice_congr {start count : Nat} {a b : Bytes} (h : ∀ i, start ≤ i → i < start + count → a[i]? = b[i]?) :
    a.slice start count = b.slice start count := by
  apply List.ext_getElem?
  intro i
  rw [getElem?_slice, getElem?_slice]
  by_cases hi : i < count
  · rw [if_pos hi, if_pos hi]
    exact h (start + i) (by omega) (by omega)
  · rw [if_neg hi, if_neg hi]

/-- A slice that ends in the first part of a concatenation is a slice of that part. -/
theorem slice_append_left {start count : Nat} {a : Bytes} (b : Bytes) (h : start + count ≤ a.length) :
    slice start count (a ++ b) = a.slice start count := by
  apply slice_congr
  intro i _ hi
  exact List.getElem?_append_left (by omega)

/-- A slice that begins behind the first part of a concatenation is a slice of the second. -/
theorem slice_skip {n start count : Nat} {a b : Bytes} (ha : a.length = n) :
    slice (n + start) count (a ++ b) = b.slice start count := by
  subst ha
  rw [slice, slice, ← List.drop_drop, List.drop_left]

/-- The first part of a concatenation is the slice as long as it is. -/
theorem slice_prefix {count : Nat} {a b : Bytes} (ha : a.length = count) : slice 0 count (a ++ b) = a := by
  subst ha
  rw [slice, List.drop_zero, List.take_left]

/-! ## Words -/

theorem capacity_eq_pow (w : Nat) : capacity w = 256 ^ w := by
  induction w with
  | zero => rfl
  | succ w ih => rw [capacity, ih, Nat.pow_succ, Nat.mul_comm]

/-- Writing keeps of a number what fits the width. -/
theorem little_mod (w n : Nat) : little w (n % capacity w) = little w n := by
  have h := little_ofLittle (little w n)
  rw [length_little, ofLittle_little] at h
  exact h

/-- Two numbers are written alike when they agree in what fits the width. -/
theorem little_inj {w m n : Nat} : little w m = little w n ↔ m % capacity w = n % capacity w := by
  constructor
  · intro h
    rw [← ofLittle_little, ← ofLittle_little, h]
  · intro h
    rw [← little_mod w m, h, little_mod]

/-- A number that fits its width is read back as it was written. -/
theorem ofLittle_little_of_lt {w n : Nat} (h : n < capacity w) : ofLittle (little w n) = n := by
  rw [ofLittle_little, Nat.mod_eq_of_lt h]

theorem wordAt_lt (k : Nat) (data : Bytes) : data.wordAt k < 2 ^ 32 := by
  have h := ofLittle_lt (data.slice (4 * k) 4)
  have hl : (data.slice (4 * k) 4).length ≤ 4 := by
    simp only [slice, List.length_take]
    omega
  calc data.wordAt k < capacity (data.slice (4 * k) 4).length := h
    _ ≤ 2 ^ 32 := by
      rw [capacity_eq_pow]
      exact Nat.pow_le_pow_right (by decide) hl

/-- Two byte strings have the same word when they have the same octets at its places. -/
theorem wordAt_congr {k : Nat} {a b : Bytes} (h : ∀ i, 4 * k ≤ i → i < 4 * k + 4 → a[i]? = b[i]?) :
    a.wordAt k = b.wordAt k := by
  rw [wordAt, slice_congr h, wordAt]

/-- A word that ends in the first part of a concatenation is a word of that part. -/
theorem wordAt_append_left {k : Nat} {a : Bytes} (b : Bytes) (h : 4 * k + 4 ≤ a.length) :
    wordAt k (a ++ b) = a.wordAt k := by
  rw [wordAt, slice_append_left b h, wordAt]

/-- What has no first word is shorter than a word. -/
theorem length_lt_of_no_word {data : Bytes} (h : ∀ a b c d r, data = a :: b :: c :: d :: r → False) :
    data.length < 4 := by
  match data, h with
  | [], _ => decide
  | [_], _ => simp
  | [_, _], _ => simp
  | [_, _, _], _ => simp
  | a :: b :: c :: d :: r, h => exact absurd rfl (h a b c d r)

/-- Behind a first word the words are those of the rest. -/
theorem wordAt_succ (k : Nat) (a b c d : UInt8) (r : Bytes) :
    wordAt (k + 1) (a :: b :: c :: d :: r) = wordAt k r := by
  have h : 4 * (k + 1) = 4 * k + 4 := by omega
  rw [wordAt, wordAt, h]
  rfl

/-- Cutting into words reads the words one after another. -/
theorem words_eq_map (data : Bytes) :
    data.words ofLittle = (List.range (data.length / 4)).map fun k => UInt32.ofNat (data.wordAt k) := by
  fun_induction words ofLittle data with
  | case1 a b c d r ih =>
    have hl : (a :: b :: c :: d :: r).length / 4 = r.length / 4 + 1 := by
      simp only [List.length_cons]
      omega
    rw [hl, List.range_succ_eq_map, List.map_cons, List.map_map, ih]
    simp only [Function.comp_def, wordAt_succ]
    rfl
  | case2 data hd =>
    have hl : data.length / 4 = 0 := by
      have h := length_lt_of_no_word hd
      omega
    rw [hl]
    rfl

/-- Cutting a concatenation into words cuts its parts when the first is made of whole words. -/
theorem words_append (read : Bytes → Nat) {a : Bytes} (b : Bytes) (h : a.length % 4 = 0) :
    words read (a ++ b) = a.words read ++ b.words read := by
  fun_induction words read a with
  | case1 x y z u r ih =>
    have hr : r.length % 4 = 0 := by
      simp only [List.length_cons] at h
      omega
    simp only [List.cons_append, words, ih hr]
  | case2 a ha =>
    have ha : a = [] := by
      have hl := length_lt_of_no_word ha
      exact List.eq_nil_of_length_eq_zero (by omega)
    rw [ha]
    rfl

/-! ## A word whose octet is set -/

/-- The exclusive or of two numbers, each an octet and a rest above it. -/
theorem xor_octet (a b : UInt8) (m n : Nat) :
    (a.toNat + 256 * m) ^^^ (b.toNat + 256 * n) = (a ^^^ b).toNat + 256 * (m ^^^ n) := by
  have ha := a.toNat_lt
  have hb := b.toNat_lt
  have hd : ((a.toNat + 256 * m) ^^^ (b.toNat + 256 * n)) / 2 ^ 8 = m ^^^ n := by
    rw [Nat.xor_div_two_pow]
    congr 1 <;> omega
  have hm : ((a.toNat + 256 * m) ^^^ (b.toNat + 256 * n)) % 2 ^ 8 = a.toNat ^^^ b.toNat := by
    rw [Nat.xor_mod_two_pow]
    congr 1 <;> omega
  rw [UInt8.toNat_xor]
  omega

/-- Setting an octet changes the number at the octet's place, by what the octet changes. -/
theorem ofLittle_set {r : Nat} {data : Bytes} (h : r < data.length) (x : UInt8) :
    ofLittle (data.set r x) = ofLittle data ^^^ 256 ^ r * (data[r] ^^^ x).toNat := by
  induction data generalizing r with
  | nil => nomatch h
  | cons y data ih =>
    cases r with
    | zero =>
      have hx : y ^^^ (y ^^^ x) = x := by rw [← UInt8.xor_assoc, UInt8.xor_self, UInt8.zero_xor]
      have ho := xor_octet y (y ^^^ x) (ofLittle data) 0
      rw [hx, Nat.xor_zero, Nat.mul_zero, Nat.add_zero] at ho
      rw [List.set_cons_zero, List.getElem_cons_zero, ofLittle, ofLittle, Nat.pow_zero, Nat.one_mul, ho]
    | succ r =>
      have hl : r < data.length := Nat.lt_of_succ_lt_succ h
      have ho := xor_octet y 0 (ofLittle data) (256 ^ r * (data[r] ^^^ x).toNat)
      rw [UInt8.xor_zero, UInt8.toNat_zero, Nat.zero_add, ← Nat.mul_assoc, ← Nat.pow_succ'] at ho
      rw [List.set_cons_succ, List.getElem_cons_succ, ofLittle, ofLittle, ih hl, ho]

/-- Setting an octet of a word changes the word at the octet's place, by what the octet changes. -/
theorem wordAt_set {k r : Nat} {data : Bytes} (h : 4 * k + 4 ≤ data.length) (hr : r < 4) (x : UInt8) :
    wordAt k (data.set (4 * k + r) x) = data.wordAt k ^^^ 256 ^ r * (data[4 * k + r] ^^^ x).toNat := by
  have hl : r < (data.slice (4 * k) 4).length := by
    rw [length_slice h]
    exact hr
  rw [wordAt, slice_set, ofLittle_set hl, getElem_slice hl (by omega), wordAt]

end Keepalive.Bytes
