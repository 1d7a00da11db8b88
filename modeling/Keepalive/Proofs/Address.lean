import Keepalive.Address
import Keepalive.Proofs.Outcome
import Keepalive.Proofs.Text.Numeral
import Mathlib.Algebra.Ring.Int.Defs
import Mathlib.Data.List.Induction

/-!
# Addresses in dotted text

An octet in decimal has one to three digits and no zero before another digit, so its part of a dotted text is read as the octet
(`octet_toDigits`). The dotted text of an address holds digits and points, and is read as the address (`ofText_dotted`). No other
text is: what is read as an address is its dotted text (`ofText_eq_ok_iff`). Which texts, numbers and octets give an address at all
is said by `Form.Valid`.
-/

namespace Keepalive.Address

/-- Only zero is written with a zero in front. -/
theorem head?_toDigits_ne_zero {n : Nat} (h : 0 < n) : (Nat.toDigits 10 n).head? ≠ some '0' := by
  have hdigit : ∀ d : Fin 10, Nat.digitChar d = '0' → d = 0 := by decide
  induction n using Nat.strongRecOn with
  | ind n ih =>
    rw [Nat.toDigits_eq_if (by decide)]
    split
    · rename_i hn
      intro h0
      have hz := hdigit ⟨n, hn⟩ (Option.some.inj h0)
      have hv : n = 0 := congrArg Fin.val hz
      omega
    · rw [List.head?_append, List.head?_eq_some_head Nat.toDigits_ne_nil, Option.some_or, ← List.head?_eq_some_head]
      exact ih (n / 10) (by omega) (by omega)

/-- The decimal digits of an octet are read as the octet. -/
theorem octet_toDigits {n : Nat} (h : n < 256) : octet (Nat.toDigits 10 n) = .ok n := by
  have hempty : ¬(Nat.toDigits 10 n).isEmpty = true := fun he => Nat.toDigits_ne_nil (List.isEmpty_iff.mp he)
  have hdigits : (Nat.toDigits 10 n).all Char.isDigit = true :=
    List.all_eq_true.mpr fun c hc => Nat.isDigit_of_mem_toDigits (by decide) (by decide) hc
  have hlength : ¬3 < (Nat.toDigits 10 n).length :=
    Nat.not_lt.mpr ((Nat.length_toDigits_le_iff (by decide) (by decide)).mpr (by omega))
  have hzero : ¬(Nat.toDigits 10 n ≠ ['0'] ∧ (Nat.toDigits 10 n).head? = some '0') := by
    rintro ⟨hne, hhead⟩
    rcases Nat.eq_zero_or_pos n with rfl | hn
    · exact hne rfl
    · exact head?_toDigits_ne_zero hn hhead
  rw [octet, if_neg hempty, hdigits, if_neg (by decide), if_neg hlength, if_neg hzero]
  simp only [Nat.ofDigitChars_ten_toDigits]
  rw [if_neg (by omega)]

/-- Each part of a dotted text that is an octet in decimal is read as it. -/
theorem octets_toDigits (b : Bytes) :
    octets (b.map fun x => Nat.toDigits 10 x.toNat) = .ok (b.map UInt8.toNat) := by
  induction b with
  | nil => rfl
  | cons x b ih =>
    rw [octets] at ih ⊢
    rw [List.map_cons, List.mapM_cons, octet_toDigits x.toNat_lt, ih]
    rfl

/-- The word of octets in the order in which they are written is the number they spell. -/
theorem ofOctets_eq (b : Bytes) : ofOctets (b.map UInt8.toNat) = ⟨UInt32.ofNat (Bytes.ofBig b)⟩ := by
  have hfold : ∀ r : Bytes, (r.reverse.map UInt8.toNat).foldl (fun acc v => acc * 256 + v) 0 = Bytes.ofLittle r := by
    intro r
    induction r with
    | nil => rfl
    | cons x r ih =>
      rw [List.reverse_cons, List.map_append, List.foldl_append, ih, Bytes.ofLittle]
      show Bytes.ofLittle r * 256 + x.toNat = _
      omega
  have hb := hfold b.reverse
  rw [List.reverse_reverse] at hb
  rw [ofOctets, hb, Bytes.ofBig]

/-- The dotted text of an address holds digits and points. -/
theorem mem_dottedChars {a : Address} {c : Char} (h : c ∈ a.dottedChars) : c = '.' ∨ c.isDigit = true := by
  have hparts : ∀ parts : List (List Char), (∀ part ∈ parts, ∀ c ∈ part, c.isDigit = true) →
      ∀ c ∈ ['.'].intercalate parts, c = '.' ∨ c.isDigit = true := by
    intro parts hp
    induction parts with
    | nil =>
      intro c hc
      nomatch hc
    | cons part parts ih =>
      obtain ⟨hpart, hrest⟩ := List.forall_mem_cons.mp hp
      intro c hc
      by_cases hn : parts = []
      · rw [hn, List.intercalate_singleton] at hc
        exact Or.inr (hpart c hc)
      · rw [List.intercalate_cons_of_ne_nil hn, List.mem_append, List.mem_append] at hc
        rcases hc with (hc | hc) | hc
        · exact Or.inr (hpart c hc)
        · exact Or.inl (List.mem_singleton.mp hc)
        · exact ih hrest c hc
  refine hparts _ (fun part hpart c hc => ?_) c h
  obtain ⟨x, -, rfl⟩ := List.mem_map.mp hpart
  exact Nat.isDigit_of_mem_toDigits (by decide) (by decide) hc

/-- The parts of the dotted text are the octets. -/
theorem splitOn_dottedChars (a : Address) :
    a.dottedChars.splitOn '.' = a.bytes.map fun x => Nat.toDigits 10 x.toNat := by
  refine List.splitOn_intercalate '.' ?_ ?_
  · intro part hpart hpoint
    obtain ⟨x, -, rfl⟩ := List.mem_map.mp hpart
    exact Numeral.point_notMem_toDigits _ hpoint
  · intro hnil
    have hl := congrArg List.length hnil
    rw [List.length_map, length_bytes] at hl
    nomatch hl

/-- Parts without points have one point less between them than they are. -/
theorem count_point_intercalate {parts : List (List Char)} (hne : parts ≠ []) (h : ∀ part ∈ parts, '.' ∉ part) :
    (['.'].intercalate parts).count '.' + 1 = parts.length := by
  induction parts with
  | nil => exact absurd rfl hne
  | cons part parts ih =>
    obtain ⟨hpart, hrest⟩ := List.forall_mem_cons.mp h
    by_cases hn : parts = []
    · rw [hn, List.intercalate_singleton, List.count_eq_zero.mpr hpart]
      rfl
    · rw [List.intercalate_cons_of_ne_nil hn, List.count_append, List.count_append, List.count_eq_zero.mpr hpart,
        List.count_singleton_self, List.length_cons, ← ih hn hrest]
      omega

/-- The dotted text of an address has three points. -/
theorem count_point_dottedChars (a : Address) : a.dottedChars.count '.' = 3 := by
  have hcount := count_point_intercalate (List.splitOn_ne_nil '.' a.dottedChars) fun part hpart => by
    rw [splitOn_dottedChars] at hpart
    obtain ⟨x, -, rfl⟩ := List.mem_map.mp hpart
    exact Numeral.point_notMem_toDigits _
  rw [List.intercalate_splitOn, splitOn_dottedChars, List.length_map, length_bytes] at hcount
  exact Nat.succ.inj hcount

/-- The dotted text of an address gives the address back. -/
theorem ofText_dotted (a : Address) : ofText a.dotted = .ok a := by
  have hslash : '/' ∉ a.dottedChars := by
    intro h
    rcases mem_dottedChars h with h | h
    · exact absurd h (by decide)
    · exact absurd h (by decide)
  have hsplit := a.splitOn_dottedChars
  have hfour : (a.bytes.map fun x => Nat.toDigits 10 x.toNat).length = 4 := by rw [List.length_map, length_bytes]
  have hempty : ¬a.dottedChars.isEmpty = true := by
    intro he
    rw [List.isEmpty_iff.mp he] at hsplit
    rw [← hsplit] at hfour
    nomatch hfour
  have hword : UInt32.ofNat (Bytes.ofBig a.bytes) = a.value := by rw [ofBig_bytes, UInt32.ofNat_toNat]
  rw [ofText, dotted, String.toList_ofList]
  simp only [if_neg hslash, if_neg hempty, hsplit, hfour, ne_eq, not_true_eq_false, if_false, octets_toDigits, ofOctets_eq,
    hword]

/-! ## What is read as an address -/

open Outcome

/-- A decimal digit is what its value is written as. -/
theorem toDigits_digit {c : Char} (h : c.isDigit = true) :
    c.toNat - '0'.toNat < 10 ∧ Nat.toDigits 10 (c.toNat - '0'.toNat) = [c] := by
  have hc : 48 ≤ c.toNat ∧ c.toNat ≤ 57 := by simpa [Char.isDigit, UInt32.le_iff_toNat_le] using h
  have hd : c.toNat - '0'.toNat < 10 := by
    show c.toNat - 48 < 10
    omega
  have hchar : ∀ d : Fin 10, (Nat.digitChar d).toNat = 48 + d := by decide
  refine ⟨hd, ?_⟩
  rw [Nat.toDigits_of_lt_base hd]
  refine congrArg (fun x => [x]) (Char.toNat_inj.mp ((hchar ⟨_, hd⟩).trans ?_))
  show 48 + (c.toNat - 48) = c.toNat
  omega

/-- Digits with no zero before another digit are what their number is written as. -/
theorem toDigits_ofDigitChars {part : List Char} (hne : part ≠ []) (hdigits : ∀ c ∈ part, c.isDigit = true)
    (hzero : part.head? = some '0' → part = ['0']) : Nat.toDigits 10 (Nat.ofDigitChars 10 part 0) = part := by
  induction part using List.reverseRecOn with
  | nil => exact absurd rfl hne
  | append_singleton front c ih =>
    obtain ⟨hd, hlast⟩ := toDigits_digit (hdigits c (List.mem_append_right _ List.mem_cons_self))
    rw [Nat.ofDigitChars_append, Nat.ofDigitChars_cons, Nat.ofDigitChars_nil]
    by_cases hf : front = []
    · subst hf
      simpa using hlast
    · have hhead : front.head? ≠ some '0' := by
        intro h
        have hpart := congrArg List.length (hzero (by rw [List.head?_append, h, Option.some_or]))
        rw [List.length_append] at hpart
        exact hf (List.length_eq_zero_iff.mp (Nat.succ.inj hpart))
      have hfront := ih hf (fun x hx => hdigits x (List.mem_append_left _ hx)) fun h => absurd h hhead
      have hpos : 0 < Nat.ofDigitChars 10 front 0 := by
        refine Nat.pos_of_ne_zero fun h0 => ?_
        rw [h0, Nat.toDigits_zero] at hfront
        rw [← hfront] at hhead
        exact hhead rfl
      rw [← Nat.toDigits_append_toDigits (by decide) hpos hd, hfront, hlast]

/-- A part of a dotted text is read as a number exactly when it is an octet in decimal. -/
theorem octet_eq_ok_iff {part : List Char} {n : Nat} : octet part = .ok n ↔ n ≤ 255 ∧ part = Nat.toDigits 10 n := by
  constructor
  · intro h
    unfold octet at h
    split at h
    · nomatch h
    rename_i hempty
    split at h
    · nomatch h
    rename_i hdigits
    split at h
    · nomatch h
    split at h
    · nomatch h
    rename_i hzero
    dsimp only at h
    split at h
    · nomatch h
    rename_i hlarge
    have hn := Except.ok.inj h
    have hall : part.all Char.isDigit = true := by simpa using hdigits
    have hcanonical := toDigits_ofDigitChars (fun hp => hempty (List.isEmpty_iff.mpr hp)) (List.all_eq_true.mp hall)
      fun hhead => Decidable.byContradiction fun hne => hzero ⟨hne, hhead⟩
    rw [hn] at hcanonical hlarge
    exact ⟨Nat.not_lt.mp hlarge, hcanonical.symm⟩
  · rintro ⟨hn, rfl⟩
    exact octet_toDigits (Nat.lt_succ_of_le hn)

/-- The parts of a dotted text are read as numbers exactly when each is an octet in decimal. -/
theorem octets_eq_ok_iff {parts : List (List Char)} {values : List Nat} :
    octets parts = .ok values ↔ (∀ n ∈ values, n ≤ 255) ∧ parts = values.map (Nat.toDigits 10) := by
  unfold octets
  induction parts generalizing values with
  | nil =>
    rw [List.mapM_nil, pure_eq_ok]
    constructor
    · rintro rfl
      exact ⟨List.forall_mem_nil _, rfl⟩
    · rintro ⟨-, h⟩
      exact (List.map_eq_nil_iff.mp h.symm).symm
  | cons part parts ih =>
    rw [List.mapM_cons, bind_eq_ok]
    constructor
    · rintro ⟨n, hn, h⟩
      obtain ⟨rest, hrest, h⟩ := bind_eq_ok.mp h
      obtain ⟨hle, hpart⟩ := octet_eq_ok_iff.mp hn
      obtain ⟨hall, hparts⟩ := ih.mp hrest
      rw [← pure_eq_ok.mp h, hpart, hparts]
      exact ⟨List.forall_mem_cons.mpr ⟨hle, hall⟩, rfl⟩
    · rintro ⟨hall, h⟩
      cases values with
      | nil => nomatch h
      | cons n rest =>
        obtain ⟨hle, hrest⟩ := List.forall_mem_cons.mp hall
        obtain ⟨hpart, hparts⟩ := List.cons.inj h
        exact ⟨n, octet_eq_ok_iff.mpr ⟨hle, hpart⟩, bind_eq_ok.mpr ⟨rest, ih.mpr ⟨hrest, hparts⟩, rfl⟩⟩

/-- The address that four octets spell has these octets. -/
theorem bytes_ofBig {octets : Bytes} (h : octets.length = 4) : bytes ⟨UInt32.ofNat (Bytes.ofBig octets)⟩ = octets := by
  have hbig := Bytes.big_ofBig octets
  have hlt := Bytes.ofLittle_lt octets.reverse
  rw [h] at hbig
  rw [List.length_reverse, h] at hlt
  have hword : (UInt32.ofNat (Bytes.ofBig octets)).toNat = Bytes.ofBig octets := UInt32.toNat_ofNat_of_lt' hlt
  show Bytes.big 4 (UInt32.ofNat (Bytes.ofBig octets)).toNat = octets
  rw [hword, hbig]

/-- The octets of the address that four numbers spell are these numbers. -/
theorem bytes_ofOctets {values : List Nat} (hfour : values.length = 4) (hall : ∀ n ∈ values, n ≤ 255) :
    (ofOctets values).bytes.map UInt8.toNat = values := by
  have hvalues : (values.map UInt8.ofNat).map UInt8.toNat = values := by
    rw [List.map_map]
    refine (List.map_congr_left fun n hn => ?_).trans (List.map_id values)
    exact UInt8.toNat_ofNat_of_lt' (Nat.lt_succ_of_le (hall n hn))
  have hspelled := ofOctets_eq (values.map UInt8.ofNat)
  rw [hvalues] at hspelled
  rw [hspelled, bytes_ofBig (by rw [List.length_map, hfour]), hvalues]

/-- A text of four octets in decimal with points between them. -/
def Dotted (text : String) : Prop :=
  ∃ values : List Nat, values.length = 4 ∧ (∀ n ∈ values, n ≤ 255) ∧
    text.toList = ['.'].intercalate (values.map (Nat.toDigits 10))

/-- The texts of four octets are the dotted texts of addresses. -/
theorem dotted_iff {text : String} : Dotted text ↔ ∃ a : Address, text = a.dotted := by
  constructor
  · rintro ⟨values, hfour, hall, htext⟩
    refine ⟨ofOctets values, ?_⟩
    have hparts := congrArg (List.map (Nat.toDigits 10)) (bytes_ofOctets hfour hall)
    rw [List.map_map] at hparts
    rw [← hparts] at htext
    exact String.toList_inj.mp (htext.trans String.toList_ofList.symm)
  · rintro ⟨a, rfl⟩
    refine ⟨a.bytes.map UInt8.toNat, by rw [List.length_map, length_bytes], ?_, ?_⟩
    · intro n hn
      obtain ⟨b, -, rfl⟩ := List.mem_map.mp hn
      exact Nat.le_of_lt_succ b.toNat_lt
    · rw [dotted, String.toList_ofList, List.map_map]
      rfl

/-- What is read as an address is four octets in decimal. -/
theorem dotted_of_ofText {text : String} {a : Address} (h : ofText text = .ok a) : Dotted text := by
  unfold ofText at h
  dsimp only at h
  split at h
  · nomatch h
  split at h
  · nomatch h
  split at h
  · nomatch h
  rename_i hfour
  split at h
  · rename_i values hvalues
    obtain ⟨hall, hparts⟩ := octets_eq_ok_iff.mp hvalues
    have hlength := congrArg List.length hparts
    rw [List.length_map, Decidable.not_not.mp hfour] at hlength
    refine ⟨values, hlength.symm, hall, ?_⟩
    rw [← hparts, List.intercalate_splitOn]
  · nomatch h

/-- A text is read as an address exactly when it is the dotted text of the address. -/
theorem ofText_eq_ok_iff {text : String} {a : Address} : ofText text = .ok a ↔ text = a.dotted := by
  constructor
  · intro h
    obtain ⟨b, rfl⟩ := dotted_iff.mp (dotted_of_ofText h)
    rw [ofText_dotted] at h
    rw [Except.ok.inj h]
  · rintro rfl
    exact ofText_dotted a

end Keepalive.Address
