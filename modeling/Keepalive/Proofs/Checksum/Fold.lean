import Keepalive.Checksum.Fold
import Keepalive.Proofs.Bytes.Places
import Mathlib.Data.Int.Bitwise

/-!
# What the folded word is

The fold mixes each word into an integer of any size, by the exclusive or in two's complement (`mixWord_eq_xor`), and cuts the
result to thirty-two bits. Cutting first gives the same (`lowWord_xor`): the folded word is the exclusive or of the start, cut,
and of all words (`foldFrom_eq`). The words count with no regard to their order, and replacing one changes the whole by the
exclusive or of the two (`xorAll_set`).
-/

namespace Keepalive.Checksum

/-- The exclusive or of all words of a list. -/
def xorAll : List UInt32 → UInt32
  | [] => 0
  | w :: ws => w ^^^ xorAll ws

/-- The exclusive or of a concatenation is that of its parts. -/
theorem xorAll_append (u v : List UInt32) : xorAll (u ++ v) = xorAll u ^^^ xorAll v := by
  induction u with
  | nil => rw [List.nil_append, xorAll, UInt32.zero_xor]
  | cons w u ih => rw [List.cons_append, xorAll, xorAll, ih, UInt32.xor_assoc]

/-- A word replaced changes the exclusive or of all by the exclusive or of the old word and the new. -/
theorem xorAll_set {k : Nat} {ws : List UInt32} (hk : k < ws.length) (w : UInt32) :
    xorAll (ws.set k w) = xorAll ws ^^^ (ws[k] ^^^ w) := by
  induction ws generalizing k with
  | nil => exact absurd hk (Nat.not_lt_zero k)
  | cons v ws ih =>
    cases k with
    | zero =>
      have h : v ^^^ xorAll ws ^^^ (v ^^^ w) = (v ^^^ v) ^^^ (w ^^^ xorAll ws) := by ac_rfl
      rw [List.set_cons_zero, xorAll, xorAll, List.getElem_cons_zero, h, UInt32.xor_self, UInt32.zero_xor]
    | succ k =>
      have hk' : k < ws.length := Nat.lt_of_succ_lt_succ hk
      rw [List.set_cons_succ, xorAll, xorAll, ih hk', List.getElem_cons_succ, UInt32.xor_assoc]

/-! ## Integers in two's complement -/

theorem toNat_lowWord (n : Int) : ((lowWord n).toNat : Int) = n % UInt32.size := by
  have h0 : 0 ≤ n % UInt32.size := Int.emod_nonneg n (by decide)
  have h1 : n % UInt32.size < UInt32.size := Int.emod_lt_of_pos n (by decide)
  have h2 : (n % UInt32.size).toNat < UInt32.size := by omega
  rw [lowWord, UInt32.toNat_ofNat_of_lt' h2, Int.toNat_of_nonneg h0]

/-- The lowest bits of an integer that is not negative. -/
theorem lowWord_natCast (m : Nat) : lowWord m = UInt32.ofNat m := by
  apply UInt32.toNat_inj.mp
  have h := toNat_lowWord m
  rw [UInt32.toNat_ofNat']
  simp only [UInt32.size] at h
  omega

/-- The lowest bits of a negative integer are the complement of those of the number one below its size. -/
theorem lowWord_negSucc (m : Nat) : lowWord (Int.negSucc m) = ~~~UInt32.ofNat m := by
  apply UInt32.toNat_inj.mp
  have h := toNat_lowWord (Int.negSucc m)
  rw [UInt32.toNat_not, UInt32.toNat_ofNat']
  simp only [UInt32.size] at h ⊢
  omega

/-- Cutting to thirty-two bits goes through the exclusive or in two's complement. -/
theorem lowWord_xor (i j : Int) : lowWord (Int.xor i j) = lowWord i ^^^ lowWord j := by
  cases i with
  | ofNat m =>
    cases j with
    | ofNat n =>
      show lowWord ((m ^^^ n : Nat) : Int) = lowWord (m : Int) ^^^ lowWord (n : Int)
      rw [lowWord_natCast, lowWord_natCast, lowWord_natCast, UInt32.ofNat_xor]
    | negSucc n =>
      show lowWord (Int.negSucc (m ^^^ n)) = lowWord (m : Int) ^^^ _
      rw [lowWord_negSucc, lowWord_natCast, lowWord_negSucc, UInt32.ofNat_xor, UInt32.xor_not]
  | negSucc m =>
    cases j with
    | ofNat n =>
      show lowWord (Int.negSucc (m ^^^ n)) = _ ^^^ lowWord (n : Int)
      rw [lowWord_negSucc, lowWord_negSucc, lowWord_natCast, UInt32.ofNat_xor, UInt32.not_xor]
    | negSucc n =>
      show lowWord ((m ^^^ n : Nat) : Int) = _
      rw [lowWord_natCast, lowWord_negSucc, lowWord_negSucc, UInt32.ofNat_xor, UInt32.not_xor, UInt32.xor_not, UInt32.not_not]

/-- Mixing in a word replaces the lowest bits. -/
theorem mixWord_eq (n : Int) (w : UInt32) : mixWord n w = n - (lowWord n).toNat + (lowWord n ^^^ w).toNat := by
  have h := toNat_lowWord n
  have h0 : ((n % UInt32.size).toNat : Int) = n % UInt32.size := Int.toNat_of_nonneg (Int.emod_nonneg n (by decide))
  have hn : (n % UInt32.size).toNat = (lowWord n).toNat := by omega
  rw [mixWord, hn, UInt32.toNat_xor, h]

/-- A word changes the lowest bits of a natural number only. -/
theorem xor_word (m : Nat) (w : UInt32) : (m ^^^ w.toNat) + (UInt32.ofNat m).toNat = m + (UInt32.ofNat m ^^^ w).toNat := by
  have hw : w.toNat < 2 ^ 32 := w.toNat_lt
  have hd : (m ^^^ w.toNat) / 2 ^ 32 = m / 2 ^ 32 := by
    rw [Nat.xor_div_two_pow, Nat.div_eq_of_lt hw, Nat.xor_zero]
  have hm : (m ^^^ w.toNat) % 2 ^ 32 = (UInt32.ofNat m ^^^ w).toNat := by
    rw [Nat.xor_mod_two_pow, Nat.mod_eq_of_lt hw, UInt32.toNat_xor, UInt32.toNat_ofNat']
  rw [UInt32.toNat_ofNat']
  omega

/-- Mixing in a word is the exclusive or in two's complement. -/
theorem mixWord_eq_xor (n : Int) (w : UInt32) : mixWord n w = Int.xor n w.toNat := by
  rw [mixWord_eq]
  cases n with
  | ofNat m =>
    show (m : Int) - _ + _ = ((m ^^^ w.toNat : Nat) : Int)
    have h := xor_word m w
    rw [Int.ofNat_eq_natCast, lowWord_natCast]
    omega
  | negSucc m =>
    show _ = Int.negSucc (m ^^^ w.toNat)
    have h := xor_word m w
    have hlow := (UInt32.ofNat m).toNat_lt
    have hmixed := (UInt32.ofNat m ^^^ w).toNat_lt
    rw [lowWord_negSucc, UInt32.not_xor, UInt32.toNat_not, UInt32.toNat_not]
    simp only [UInt32.size]
    omega

/-! ## The fold -/

/-- Mixing a word into an integer mixes it into the lowest thirty-two bits. -/
theorem lowWord_mixWord (n : Int) (w : UInt32) : lowWord (mixWord n w) = lowWord n ^^^ w := by
  rw [mixWord_eq_xor, lowWord_xor, lowWord_natCast, UInt32.ofNat_toNat]

/-- Cutting to thirty-two bits after the fold is the same as before it. -/
theorem lowWord_foldl_mixWord (ws : List UInt32) (n : Int) :
    lowWord (ws.foldl mixWord n) = lowWord n ^^^ xorAll ws := by
  induction ws generalizing n with
  | nil => rw [List.foldl_nil, xorAll, UInt32.xor_zero]
  | cons w ws ih => rw [List.foldl_cons, ih, lowWord_mixWord, xorAll, UInt32.xor_assoc]

/-- The folded word of whole words is the exclusive or of the start and of all words. -/
theorem foldFrom_eq (start : Int) {data : Bytes} (h : data.length % 4 = 0) :
    foldFrom start data = .ok (lowWord start ^^^ xorAll (data.words Bytes.ofLittle)) := by
  rw [foldFrom, if_pos h, lowWord_foldl_mixWord]

/-- The fold that starts from nothing is the exclusive or of all words. -/
theorem fold_none {data : Bytes} (h : data.length % 4 = 0) :
    fold data none = .ok (xorAll (data.words Bytes.ofLittle)) := by
  have h0 : lowWord 0 = 0 := rfl
  rw [fold, Option.getD_none, foldFrom_eq 0 h, h0, UInt32.zero_xor]

end Keepalive.Checksum
