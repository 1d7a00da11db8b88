import Keepalive.Proofs.Bytes.Places

/-!
# Byte strings of whole words

Words in writing, the least significant octet first (`Bytes.ofWords`), are cut into the same words again, and every byte string of
whole words is that of its words (`exists_ofWords`). The exclusive or of two byte strings is taken octet by octet, and so it is
taken word by word (`xor_ofWords`).
-/

namespace Keepalive.Bytes

/-- Words of four octets one after another, each with its least significant octet first. -/
def ofWords (ws : List UInt32) : Bytes := ws.flatMap fun w => little 4 w.toNat

/-- The exclusive or of two byte strings, octet by octet as far as both go. -/
def xor (a b : Bytes) : Bytes := List.zipWith (· ^^^ ·) a b

theorem ofWords_cons (w : UInt32) (ws : List UInt32) : ofWords (w :: ws) = little 4 w.toNat ++ ofWords ws := List.flatMap_cons

theorem ofWords_append (us vs : List UInt32) : ofWords (us ++ vs) = ofWords us ++ ofWords vs := List.flatMap_append

theorem length_ofWords (ws : List UInt32) : (ofWords ws).length = 4 * ws.length := by
  induction ws with
  | nil => rfl
  | cons w ws ih =>
    rw [ofWords_cons, List.length_append, length_little, ih, List.length_cons]
    omega

/-- Words in writing are whole words. -/
theorem length_ofWords_mod (ws : List UInt32) : (ofWords ws).length % 4 = 0 := by
  rw [length_ofWords, Nat.mul_mod_right]

/-- Words in writing are read as they are. -/
theorem words_ofWords (ws : List UInt32) : (ofWords ws).words ofLittle = ws := by
  induction ws with
  | nil => rfl
  | cons w ws ih =>
    have hw : UInt32.ofNat (ofLittle (little 4 w.toNat)) = w := by
      rw [ofLittle_little_of_lt w.toNat_lt, UInt32.ofNat_toNat]
    have hcut : (little 4 w.toNat ++ ofWords ws).words ofLittle =
        UInt32.ofNat (ofLittle (little 4 w.toNat)) :: (ofWords ws).words ofLittle := rfl
    rw [ofWords_cons, hcut, hw, ih]

/-- A byte string of whole words is its words in writing. -/
theorem ofWords_words {data : Bytes} (h : data.length % 4 = 0) : ofWords (data.words ofLittle) = data := by
  fun_induction words ofLittle data with
  | case1 a b c d r ih =>
    have hr : r.length % 4 = 0 := by
      simp only [List.length_cons] at h
      omega
    have hword : little 4 (UInt32.ofNat (ofLittle [a, b, c, d])).toNat = [a, b, c, d] := by
      rw [UInt32.toNat_ofNat_of_lt' (ofLittle_lt [a, b, c, d])]
      exact little_ofLittle [a, b, c, d]
    rw [ofWords_cons, hword, ih hr]
    rfl
  | case2 data hd =>
    have hl := length_lt_of_no_word hd
    exact (List.eq_nil_of_length_eq_zero (by omega)).symm

/-- A byte string of whole words is some words in writing. -/
theorem exists_ofWords {data : Bytes} (h : data.length % 4 = 0) : ∃ ws, data = ofWords ws :=
  ⟨data.words ofLittle, (ofWords_words h).symm⟩

/-- The exclusive or of two numbers in writing is that of the numbers. -/
theorem xor_little (width m n : Nat) : xor (little width m) (little width n) = little width (m ^^^ n) := by
  induction width generalizing m n with
  | zero => rfl
  | succ width ih =>
    have hrest : (m ^^^ n) / 256 = m / 256 ^^^ n / 256 := Nat.xor_div_two_pow (n := 8)
    rw [little, little, little, xor, List.zipWith_cons_cons, ← xor, ih, UInt8.ofNat_xor, hrest]

/-- The exclusive or of two concatenations whose first parts are as long is that of their parts. -/
theorem xor_append {a b : Bytes} (c d : Bytes) (h : a.length = b.length) : xor (a ++ c) (b ++ d) = xor a b ++ xor c d :=
  List.zipWith_append h

/-- The exclusive or of as many words in writing is taken word by word. -/
theorem xor_ofWords {us vs : List UInt32} (h : us.length = vs.length) :
    xor (ofWords us) (ofWords vs) = ofWords (List.zipWith (· ^^^ ·) us vs) := by
  induction us generalizing vs with
  | nil => rfl
  | cons u us ih =>
    cases vs with
    | nil => nomatch h
    | cons v vs =>
      have hlength : (little 4 u.toNat).length = (little 4 v.toNat).length := by rw [length_little, length_little]
      rw [List.zipWith_cons_cons, ofWords_cons, ofWords_cons, ofWords_cons, xor_append _ _ hlength, xor_little,
        ih (Nat.succ.inj h), UInt32.toNat_xor]

end Keepalive.Bytes
