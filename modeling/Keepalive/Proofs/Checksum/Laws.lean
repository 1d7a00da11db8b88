import Keepalive.Proofs.Bytes.Words
import Keepalive.Proofs.Checksum.Fold
import Mathlib.Data.List.Perm.Basic

/-!
# Laws of the folded word

Of words in writing the folded word is the exclusive or of them all and of the start (`fold_ofWords`), and of what is no whole
number of words there is none (`fold_eq_error_iff`). So folding goes on from one byte string to the next, the order of the words
does not matter, words that are alike cancel each other, and the exclusive or of two byte strings and of two starts has that of
their folded words (`fold_laws`).
-/

namespace Keepalive.Checksum

/-! ## The exclusive or of all words -/

/-- The order of the words does not matter. -/
theorem xorAll_perm {us vs : List UInt32} (h : us.Perm vs) : xorAll us = xorAll vs := by
  induction h with
  | nil => rfl
  | cons w _ ih => rw [xorAll, xorAll, ih]
  | swap v w ws =>
    rw [xorAll, xorAll, xorAll, xorAll]
    ac_rfl
  | trans _ _ ih ih' => rw [ih, ih']

/-- The exclusive or of words taken two by two is that of both lists. -/
theorem xorAll_zipWith {us vs : List UInt32} (h : us.length = vs.length) :
    xorAll (List.zipWith (· ^^^ ·) us vs) = xorAll us ^^^ xorAll vs := by
  induction us generalizing vs with
  | nil =>
    rw [List.eq_nil_of_length_eq_zero h.symm]
    rfl
  | cons u us ih =>
    cases vs with
    | nil => nomatch h
    | cons v vs =>
      rw [List.zipWith_cons_cons, xorAll, xorAll, xorAll, ih (Nat.succ.inj h)]
      ac_rfl

/-! ## The fold -/

/-- Only what is no whole number of words has no folded word. -/
theorem fold_eq_error_iff {data : Bytes} {start? : Option Int} {fault : ChecksumFault} :
    fold data start? = .error fault ↔ data.length % 4 ≠ 0 ∧ fault = .unaligned data.length := by
  rw [fold, foldFrom]
  split
  · rename_i h
    constructor
    · intro he
      cases he
    · exact fun he => absurd h he.1
  · rename_i h
    constructor
    · exact fun he => ⟨h, (Except.error.inj he).symm⟩
    · exact fun he => congrArg Except.error he.2.symm

/-- The folded word of words in writing. -/
theorem fold_ofWords (ws : List UInt32) (start? : Option Int) :
    fold (Bytes.ofWords ws) start? = .ok (lowWord (start?.getD 0) ^^^ xorAll ws) := by
  rw [fold, foldFrom_eq _ (Bytes.length_ofWords_mod ws), Bytes.words_ofWords]

/-- Folding goes on from the folded word of what stands before. -/
theorem fold_append {a b : Bytes} (ha : a.length % 4 = 0) (hb : b.length % 4 = 0) (start? : Option Int) :
    ∃ w, fold a start? = .ok w ∧ fold (a ++ b) start? = fold b (some w.toNat) := by
  obtain ⟨us, rfl⟩ := Bytes.exists_ofWords ha
  obtain ⟨vs, rfl⟩ := Bytes.exists_ofWords hb
  refine ⟨_, fold_ofWords us start?, ?_⟩
  rw [← Bytes.ofWords_append, fold_ofWords, fold_ofWords, Option.getD_some, lowWord_natCast, UInt32.ofNat_toNat, xorAll_append,
    UInt32.xor_assoc]

/-- The order of the words does not matter. -/
theorem fold_perm {us vs : List UInt32} (h : us.Perm vs) (start? : Option Int) :
    fold (Bytes.ofWords us) start? = fold (Bytes.ofWords vs) start? := by
  rw [fold_ofWords, fold_ofWords, xorAll_perm h]

/-- Two words that are alike cancel each other wherever they stand. -/
theorem fold_cancel (us vs ws : List UInt32) (w : UInt32) (start? : Option Int) :
    fold (Bytes.ofWords (us ++ w :: (vs ++ w :: ws))) start? = fold (Bytes.ofWords (us ++ (vs ++ ws))) start? := by
  have hpair : xorAll (w :: (vs ++ w :: ws)) = xorAll (vs ++ ws) := by
    have h : w ^^^ (xorAll vs ^^^ (w ^^^ xorAll ws)) = (w ^^^ w) ^^^ (xorAll vs ^^^ xorAll ws) := by ac_rfl
    rw [xorAll, xorAll_append, xorAll, xorAll_append, h, UInt32.xor_self, UInt32.zero_xor]
  rw [fold_ofWords, fold_ofWords, xorAll_append, xorAll_append, hpair]

/-- The exclusive or of two byte strings as long as each other and of two starts. -/
theorem fold_xor {a b : Bytes} (hl : a.length = b.length) (ha : a.length % 4 = 0) (i j : Int) :
    ∃ u v, fold a (some i) = .ok u ∧ fold b (some j) = .ok v ∧ fold (a.xor b) (some (Int.xor i j)) = .ok (u ^^^ v) := by
  obtain ⟨us, rfl⟩ := Bytes.exists_ofWords ha
  obtain ⟨vs, rfl⟩ := Bytes.exists_ofWords (hl ▸ ha)
  have hwords : us.length = vs.length := by
    rw [Bytes.length_ofWords, Bytes.length_ofWords] at hl
    omega
  refine ⟨_, _, fold_ofWords us _, fold_ofWords vs _, ?_⟩
  rw [Bytes.xor_ofWords hwords, fold_ofWords, Option.getD_some, Option.getD_some, Option.getD_some, lowWord_xor,
    xorAll_zipWith hwords]
  exact congrArg Except.ok (by ac_rfl)

/-- A byte string that is no whole number of words has no folded word, and the fault counts its octets. Any other has one: the
exclusive or of the start, modulo 2^32, and of all the words that it writes. So folding goes on from the folded word of what stands
before, the order of the words does not matter, two words that are alike cancel each other wherever they stand, and the exclusive
or of two byte strings and of two starts, in two's complement, has that of the two folded words. -/
theorem fold_laws :
    (∀ (data : Bytes) (start? : Option Int) (fault : ChecksumFault),
      fold data start? = .error fault ↔ data.length % 4 ≠ 0 ∧ fault = .unaligned data.length) ∧
    (∀ (data : Bytes) (start? : Option Int), data.length % 4 = 0 → ∃ (ws : List UInt32) (w : UInt32), data = Bytes.ofWords ws ∧
      fold data start? = .ok w ∧ w.toNat = (start?.getD 0 % 2 ^ 32).toNat ^^^ (xorAll ws).toNat) ∧
    (∀ (a b : Bytes) (start? : Option Int), a.length % 4 = 0 → b.length % 4 = 0 →
      ∃ w, fold a start? = .ok w ∧ fold (a ++ b) start? = fold b (some w.toNat)) ∧
    (∀ (us vs : List UInt32) (start? : Option Int), us.Perm vs →
      fold (Bytes.ofWords us) start? = fold (Bytes.ofWords vs) start?) ∧
    (∀ (us vs ws : List UInt32) (w : UInt32) (start? : Option Int),
      fold (Bytes.ofWords (us ++ w :: (vs ++ w :: ws))) start? = fold (Bytes.ofWords (us ++ (vs ++ ws))) start?) ∧
    (∀ (a b : Bytes) (i j : Int), a.length = b.length → a.length % 4 = 0 →
      ∃ u v, fold a (some i) = .ok u ∧ fold b (some j) = .ok v ∧ fold (a.xor b) (some (Int.xor i j)) = .ok (u ^^^ v)) := by
  refine ⟨fun data start? fault => fold_eq_error_iff, fun data start? h => ?_, fun a b start? ha hb => fold_append ha hb start?,
    fun us vs start? h => fold_perm h start?, fold_cancel, fun a b i j hl ha => fold_xor hl ha i j⟩
  obtain ⟨ws, rfl⟩ := Bytes.exists_ofWords h
  have hstart := toNat_lowWord (start?.getD 0)
  refine ⟨ws, _, rfl, fold_ofWords ws start?, ?_⟩
  rw [UInt32.toNat_xor]
  exact congrArg (· ^^^ _) (by simp only [UInt32.size] at hstart; omega)

end Keepalive.Checksum
