import Keepalive.Text.Numeral
import Mathlib.Algebra.Order.Ring.Nat

/-!
# Numerals read back

A text is digits of a base when each of its characters is one (`Numeral.Digits`). Read in the same base, the digits of a number
give the number again, with any zeros before them. So a number within the limit of decimal text is read from its decimal text
(`integer?_decimal`, `eitherBase?_decimal`), and any number from its hexadecimal text, in letters of either case
(`eitherBase?_of_hexadecimal`).
-/

namespace Keepalive

namespace Text

/-! ## Characters -/

/-- A capital letter is thirty-two places before its small form, and nothing else has one. -/
theorem toNat_toLower (c : Char) :
    c.toLower.toNat = if 65 ≤ c.toNat ∧ c.toNat ≤ 90 then c.toNat + 32 else c.toNat := by
  have hval : c.toNat = c.val.toNat := rfl
  delta Char.toLower
  split
  · rename_i h
    have hlow : 65 ≤ c.val.toNat := UInt32.le_iff_toNat_le.mp h.1
    have hhigh : c.val.toNat ≤ 90 := UInt32.le_iff_toNat_le.mp h.2
    have hsum : (c.val + 32).toNat = c.val.toNat + 32 := by
      rw [UInt32.toNat_add]
      exact Nat.mod_eq_of_lt (by show c.val.toNat + 32 < 2 ^ 32; omega)
    rw [if_pos ⟨hlow, hhigh⟩]
    exact hsum
  · rename_i h
    rw [if_neg]
    rintro ⟨hlow, hhigh⟩
    exact h ⟨UInt32.le_iff_toNat_le.mpr hlow, UInt32.le_iff_toNat_le.mpr hhigh⟩

/-- The case of a letter does not make it a blank. -/
theorem isBlank_toLower (c : Char) : isBlank c.toLower = isBlank c := by
  rw [isBlank, isBlank, toNat_toLower]
  split
  · rename_i h
    rw [Bool.eq_iff_iff]
    simp only [Bool.or_eq_true, Bool.and_eq_true, decide_eq_true_eq, beq_iff_eq]
    omega
  · rfl

/-- A text without characters of a class is not trimmed. -/
theorem trim_eq_self {p : Char → Bool} {s : List Char} (h : ∀ c ∈ s, p c = false) : trim p s = s := by
  have hdrop : ∀ t : List Char, (∀ c ∈ t, p c = false) → t.dropWhile p = t := by
    intro t ht
    cases t with
    | nil => rfl
    | cons c t => rw [List.dropWhile_cons, ht c List.mem_cons_self, if_neg Bool.false_ne_true]
  rw [trim, trimEnd, hdrop s h, hdrop s.reverse fun c hc => h c (List.mem_reverse.mp hc), List.reverse_reverse]

end Text

namespace Numeral

open Text

/-- The case of a letter does not change its value as a digit. -/
theorem digit?_toLower (base : Nat) (c : Char) : digit? base c.toLower = digit? base c := by
  rw [digit?, digit?, toNat_toLower]
  by_cases h : 65 ≤ c.toNat ∧ c.toNat ≤ 90
  · have hdigit : ¬(48 ≤ c.toNat + 32 ∧ c.toNat + 32 ≤ 57) := by omega
    have hdigit' : ¬(48 ≤ c.toNat ∧ c.toNat ≤ 57) := by omega
    have hsmall : 97 ≤ c.toNat + 32 ∧ c.toNat + 32 ≤ 122 := by omega
    have hsmall' : ¬(97 ≤ c.toNat ∧ c.toNat ≤ 122) := by omega
    rw [if_pos h, if_neg hdigit, if_pos hsmall, if_neg hdigit', if_neg hsmall', if_pos h]
    rfl
  · rw [if_neg h]

/-- Every digit is an ASCII digit or letter. -/
theorem range_of_digit? {base d : Nat} {c : Char} (h : digit? base c = some d) :
    (48 ≤ c.toNat ∧ c.toNat ≤ 57) ∨ (97 ≤ c.toNat ∧ c.toNat ≤ 122) ∨ (65 ≤ c.toNat ∧ c.toNat ≤ 90) := by
  refine Decidable.byContradiction fun hn => ?_
  have hdigit : ¬(48 ≤ c.toNat ∧ c.toNat ≤ 57) := by omega
  have hsmall : ¬(97 ≤ c.toNat ∧ c.toNat ≤ 122) := by omega
  have hcapital : ¬(65 ≤ c.toNat ∧ c.toNat ≤ 90) := by omega
  rw [digit?, if_neg hdigit, if_neg hsmall, if_neg hcapital] at h
  nomatch h

/-- A digit of a base up to ten is an ASCII digit. -/
theorem range_of_decimal_digit? {base d : Nat} {c : Char} (hb : base ≤ 10) (h : digit? base c = some d) :
    48 ≤ c.toNat ∧ c.toNat ≤ 57 := by
  have hr := range_of_digit? h
  refine Decidable.byContradiction fun hn => ?_
  rw [digit?, if_neg hn] at h
  by_cases hsmall : 97 ≤ c.toNat ∧ c.toNat ≤ 122
  · rw [if_pos hsmall] at h
    have hd := (Option.filter_eq_some_iff.mp h)
    simp only [Option.some.injEq, decide_eq_true_eq] at hd
    omega
  · have hcapital : 65 ≤ c.toNat ∧ c.toNat ≤ 90 := by omega
    rw [if_neg hsmall, if_pos hcapital] at h
    have hd := (Option.filter_eq_some_iff.mp h)
    simp only [Option.some.injEq, decide_eq_true_eq] at hd
    omega

/-- The digit of a number up to fifteen. -/
theorem digit?_digitChar {base d : Nat} (hd : d < base) (hb : base ≤ 16) : digit? base (Nat.digitChar d) = some d := by
  have hchar : ∀ e : Fin 16, digit? 16 (Nat.digitChar e) = some e.val := by decide
  have h16 := hchar ⟨d, by omega⟩
  rw [digit?] at h16 ⊢
  obtain ⟨hv, -⟩ := Option.filter_eq_some_iff.mp h16
  exact Option.filter_eq_some_iff.mpr ⟨hv, decide_eq_true hd⟩

/-- A blank is no digit. -/
theorem digit?_of_isNarrowBlank {base : Nat} {c : Char} (h : isNarrowBlank c = true) : digit? base c = none := by
  simp only [isNarrowBlank, Bool.or_eq_true, Bool.and_eq_true, decide_eq_true_eq, beq_iff_eq] at h
  have hdigit : ¬(48 ≤ c.toNat ∧ c.toNat ≤ 57) := by omega
  have hsmall : ¬(97 ≤ c.toNat ∧ c.toNat ≤ 122) := by omega
  have hcapital : ¬(65 ≤ c.toNat ∧ c.toNat ≤ 90) := by omega
  rw [digit?, if_neg hdigit, if_neg hsmall, if_neg hcapital]
  rfl

/-- A digit is no blank. -/
theorem not_isNarrowBlank_of_digit? {base d : Nat} {c : Char} (h : digit? base c = some d) : isNarrowBlank c = false := by
  cases hb : isNarrowBlank c with
  | false => rfl
  | true =>
    rw [digit?_of_isNarrowBlank hb] at h
    nomatch h

/-- A character is a hexadecimal digit exactly when it is the character written for its value, in either case. -/
theorem digit?_eq_some_iff {c : Char} {d : Nat} : digit? 16 c = some d ↔ d < 16 ∧ c.toLower = Nat.digitChar d := by
  constructor
  · intro h
    have hchar : ∀ e : Fin 16, (Nat.digitChar e).toNat = if e.val < 10 then 48 + e.val else 87 + e.val := by decide
    have hcapital : ¬(65 ≤ c.toLower.toNat ∧ c.toLower.toNat ≤ 90) := by
      rw [toNat_toLower]
      split <;> omega
    rw [← digit?_toLower] at h
    obtain ⟨hvalue, hd⟩ := Option.filter_eq_some_iff.mp h
    have hlt : d < 16 := of_decide_eq_true hd
    refine ⟨hlt, Char.toNat_inj.mp ((hchar ⟨d, hlt⟩).trans ?_).symm⟩
    rw [if_neg hcapital] at hvalue
    dsimp only
    split at hvalue
    · have hdigit := Option.some.inj hvalue
      rw [if_pos (by omega)]
      omega
    · split at hvalue
      · have hsmall := Option.some.inj hvalue
        rw [if_neg (by omega)]
        omega
      · nomatch hvalue
  · rintro ⟨hlt, hc⟩
    rw [← digit?_toLower, hc, digit?_digitChar hlt (Nat.le_refl 16)]

/-! ## Texts of digits -/

/-- The characters of a text are digits of a base with these values. -/
def Digits (base : Nat) (s : List Char) (ds : List Nat) : Prop := s.map (digit? base) = ds.map some

namespace Digits

variable {base : Nat} {s t : List Char} {ds es : List Nat}

theorem length_eq (h : Digits base s ds) : s.length = ds.length := by
  have hl := congrArg List.length h
  rwa [List.length_map, List.length_map] at hl

theorem append (h : Digits base s ds) (h' : Digits base t es) : Digits base (s ++ t) (ds ++ es) := by
  rw [Digits, List.map_append, List.map_append, h, h']

theorem exists_of_mem (h : Digits base s ds) {c : Char} (hc : c ∈ s) : ∃ d, digit? base c = some d := by
  have hm : digit? base c ∈ s.map (digit? base) := List.mem_map_of_mem hc
  rw [h] at hm
  obtain ⟨d, -, hd⟩ := List.mem_map.mp hm
  exact ⟨d, hd.symm⟩

/-- The first character and the others. -/
theorem cons_inv {c : Char} (h : Digits base (c :: s) ds) :
    ∃ d es, ds = d :: es ∧ digit? base c = some d ∧ Digits base s es := by
  cases ds with
  | nil => nomatch h
  | cons d es =>
    obtain ⟨hd, hes⟩ := List.cons.inj h
    exact ⟨d, es, rfl, hd, hes⟩

/-- Digits are the digits that are read, if there is one at all. -/
theorem digits?_eq (h : Digits base s ds) (hne : s ≠ []) : digits? base s = some ds := by
  fun_induction digits? base s generalizing ds with
  | case1 => exact absurd rfl hne
  | case2 c =>
    obtain ⟨d, es, rfl, hd, hes⟩ := h.cons_inv
    rw [hd, List.eq_nil_of_length_eq_zero hes.length_eq.symm]
    rfl
  | case3 c r ih =>
    -- an underscore is no digit
    obtain ⟨d, hd⟩ := h.exists_of_mem (c := '_') (List.mem_cons_of_mem _ List.mem_cons_self)
    have hr := range_of_digit? hd
    have hu : ('_').toNat = 95 := rfl
    omega
  | case4 c r hr hu ih =>
    obtain ⟨d, es, rfl, hd, hes⟩ := h.cons_inv
    rw [hd, ih hes hr]
    rfl

end Digits

/-- Any zeros in front of digits are digits. -/
theorem digits_zeros {base : Nat} (hb : 0 < base) (hb' : base ≤ 16) (count : Nat) :
    Digits base (List.replicate count '0') (List.replicate count 0) := by
  have hzero : digit? base '0' = some 0 := digit?_digitChar hb hb'
  rw [Digits, List.map_replicate, List.map_replicate, hzero]

/-- The digits of a number are digits, and the number is what they stand for. -/
theorem exists_digits {base : Nat} (hb : 1 < base) (hb' : base ≤ 16) (n : Nat) :
    ∃ ds, Digits base (Nat.toDigits base n) ds ∧ ofDigits base ds = n := by
  induction n using Nat.strongRecOn with
  | ind n ih =>
    rw [Nat.toDigits_eq_if hb]
    split
    · rename_i hn
      refine ⟨[n], ?_, ?_⟩
      · exact congrArg (fun d => [d]) (digit?_digitChar hn hb')
      · rw [ofDigits, List.foldl_cons, List.foldl_nil, Nat.zero_mul, Nat.zero_add]
    · rename_i hn
      obtain ⟨ds, hds, hvalue⟩ := ih (n / base) (Nat.div_lt_self (by omega) hb)
      have hlast : n % base < base := Nat.mod_lt n (by omega)
      refine ⟨ds ++ [n % base], hds.append (congrArg (fun d => [d]) (digit?_digitChar hlast hb')), ?_⟩
      rw [ofDigits, List.foldl_append, ← ofDigits, hvalue, List.foldl_cons, List.foldl_nil]
      exact Nat.div_add_mod' n base

/-! ## Decimal text -/

/-- The characters from the digits to the small letters are no blanks. -/
theorem isBlank_of_range {c : Char} (h : 48 ≤ c.toNat ∧ c.toNat ≤ 122) : isBlank c = false := by
  rw [isBlank, Bool.eq_false_iff]
  simp only [ne_eq, Bool.or_eq_true, Bool.and_eq_true, decide_eq_true_eq, beq_iff_eq]
  omega

/-- ASCII characters that are no blanks stand for themselves in numerals. -/
theorem trim_map_plain {s : List Char} (h : ∀ c ∈ s, c.toNat < 128 ∧ isBlank c = false) :
    trim isNarrowBlank (s.map plain) = s := by
  have hplain : s.map plain = s := by
    have hid : s.map plain = s.map id := List.map_congr_left fun c hc => if_pos (h c hc).1
    rw [hid, List.map_id]
  rw [hplain]
  refine trim_eq_self fun c hc => ?_
  exact Bool.eq_false_iff.mpr fun hb => Bool.false_ne_true ((h c hc).2.symm.trans (isBlank_of_isNarrowBlank hb))

theorem weight_eq_pow (base place : Nat) : weight base place = base ^ place := rfl

/-- Decimal digits are no points. -/
theorem point_notMem_toDigits (n : Nat) : '.' ∉ Nat.toDigits 10 n := fun h =>
  absurd (Nat.isDigit_of_mem_toDigits (by decide) (by decide) h) (by decide)

/-- Zeros in front of digits are no points either. -/
theorem point_notMem_padded {width : Nat} {digits : List Char} (h : '.' ∉ digits) : '.' ∉ padded width digits := by
  rw [padded, List.mem_append]
  rintro (hzero | hdigit)
  · exact absurd (List.eq_of_mem_replicate hzero) (by decide)
  · exact h hdigit

/-- A number within the limit is read from its digits. -/
theorem natural?_toDigits {n : Nat} (h : n < weight 10 digitLimit) : natural? (Nat.toDigits 10 n) = some n := by
  obtain ⟨ds, hds, hvalue⟩ := exists_digits (by decide : 1 < 10) (by decide) n
  have hlength : ds.length ≤ digitLimit := by
    rw [weight_eq_pow] at h
    rw [← hds.length_eq, Nat.length_toDigits_le_iff (by decide) (by decide)]
    exact h
  rw [natural?, hds.digits?_eq Nat.toDigits_ne_nil]
  exact (if_pos hlength).trans (congrArg some hvalue)

theorem toList_decimal (n : Int) :
    (decimal n).toList = (if n < 0 then ['-'] else []) ++ Nat.toDigits 10 n.natAbs := by
  rw [decimal, String.toList_append, String.toList_ofList]
  split <;> rfl

/-- Decimal text holds a minus sign and ASCII digits. -/
theorem mem_decimal {n : Int} {c : Char} (h : c ∈ (decimal n).toList) : c = '-' ∨ 48 ≤ c.toNat ∧ c.toNat ≤ 57 := by
  rw [toList_decimal, List.mem_append] at h
  rcases h with h | h
  · split at h
    · exact Or.inl (List.mem_singleton.mp h)
    · nomatch h
  · obtain ⟨ds, hds, -⟩ := exists_digits (by decide : 1 < 10) (by decide) n.natAbs
    obtain ⟨d, hd⟩ := hds.exists_of_mem h
    exact Or.inr (range_of_decimal_digit? (by decide) hd)

/-- Decimal text is ASCII without blanks. -/
theorem ascii_decimal {n : Int} {c : Char} (h : c ∈ (decimal n).toList) : c.toNat < 128 ∧ isBlank c = false := by
  rcases mem_decimal h with rfl | hr
  · exact ⟨by decide, by decide⟩
  · exact ⟨by omega, isBlank_of_range (by omega)⟩

/-- Digits are read without a sign. -/
theorem signed?_of_digits {s : List Char} {ds : List Nat} (h : Digits 10 s ds) : signed? s = (natural? s).map Int.ofNat := by
  have hmark : ∀ c ∈ s, 48 ≤ c.toNat := by
    intro c hc
    obtain ⟨d, hd⟩ := h.exists_of_mem hc
    exact (range_of_decimal_digit? (by decide) hd).1
  rw [signed?.eq_def]
  split
  · exact absurd (hmark '+' List.mem_cons_self) (by decide)
  · exact absurd (hmark '-' List.mem_cons_self) (by decide)
  · rfl

/-- A number within the limit is read from its sign and digits. -/
theorem signed?_decimal {n : Int} (h : fits n = true) : signed? (decimal n).toList = some n := by
  have hn : natural? (Nat.toDigits 10 n.natAbs) = some n.natAbs := natural?_toDigits (of_decide_eq_true h)
  rw [toList_decimal]
  by_cases hneg : n < 0
  · rw [if_pos hneg]
    show (natural? (Nat.toDigits 10 n.natAbs)).map (fun k => -(k : Int)) = some n
    rw [hn]
    have hval : -(n.natAbs : Int) = n := by omega
    exact congrArg some hval
  · obtain ⟨ds, hds, -⟩ := exists_digits (by decide : 1 < 10) (by decide) n.natAbs
    rw [if_neg hneg, List.nil_append, signed?_of_digits hds, hn]
    have hval : (n.natAbs : Int) = n := by omega
    exact congrArg some hval

/-- A number within the limit is read from its decimal text. -/
theorem integer?_decimal {n : Int} (h : fits n = true) : integer? (decimal n).toList = some n := by
  rw [integer?, trim_map_plain fun c hc => ascii_decimal hc, signed?_decimal h]

/-- Decimal text is no hexadecimal text, in whatever base it is to be read. -/
theorem eitherBase?_decimal {n : Int} (h : fits n = true) : eitherBase? (decimal n).toList = some n := by
  have hlower : (decimal n).toList.map Char.toLower = (decimal n).toList := by
    have hid : (decimal n).toList.map Char.toLower = (decimal n).toList.map id := by
      refine List.map_congr_left fun c hc => ?_
      have hr : ¬(65 ≤ c.toNat ∧ c.toNat ≤ 90) := by
        rcases mem_decimal hc with rfl | hr
        · decide
        · omega
      exact Char.toNat_inj.mp ((toNat_toLower c).trans (if_neg hr))
    rw [hid, List.map_id]
  have hprefix : ['0', 'x'].isPrefixOf (decimal n).toList = false := by
    refine Bool.eq_false_iff.mpr fun hp => ?_
    have hx : 'x' ∈ (decimal n).toList := (List.isPrefixOf_iff_prefix.mp hp).subset (by decide)
    rcases mem_decimal hx with hx | hx
    · exact absurd hx (by decide)
    · exact absurd hx (by decide)
  rw [eitherBase?, trim_eq_self fun c hc => (ascii_decimal hc).2]
  show (if ['0', 'x'].isPrefixOf ((decimal n).toList.map Char.toLower) then _ else _) = _
  rw [hlower, hprefix, if_neg Bool.false_ne_true, integer?_decimal h]

/-! ## Hexadecimal text -/

/-- The hexadecimal digits of a number with zeros in front of them are digits, and the number is what they stand for. -/
theorem exists_digits_padded (width n : Nat) :
    ∃ ds, Digits 16 (padded width (Nat.toDigits 16 n)) ds ∧ ofDigits 16 ds = n := by
  obtain ⟨ds, hds, hvalue⟩ := exists_digits (by decide : 1 < 16) (by decide) n
  have hzeros : ∀ count, ofDigits 16 (List.replicate count 0 ++ ds) = n := by
    intro count
    induction count with
    | zero => exact hvalue
    | succ count ih => exact ih
  exact ⟨_, (digits_zeros (by decide) (by decide) _).append hds, hzeros _⟩

/-- Hexadecimal text behind its mark holds digits and letters. -/
theorem range_of_mem_marked {width n : Nat} {c : Char} (h : c ∈ '0' :: 'x' :: padded width (Nat.toDigits 16 n)) :
    48 ≤ c.toNat ∧ c.toNat ≤ 122 := by
  obtain ⟨ds, hds, -⟩ := exists_digits_padded width n
  rcases List.mem_cons.mp h with rfl | h
  · decide
  · rcases List.mem_cons.mp h with rfl | h
    · decide
    · obtain ⟨d, hd⟩ := hds.exists_of_mem h
      have hr := range_of_digit? hd
      omega

/-- A number is read from its hexadecimal digits behind the mark, with any zeros in front of them. -/
theorem marked?_padded (width n : Nat) : marked? ('0' :: 'x' :: padded width (Nat.toDigits 16 n)) = some n := by
  obtain ⟨ds, hds, hvalue⟩ := exists_digits_padded width n
  have hdigits := hds.digits?_eq (List.append_ne_nil_of_right_ne_nil _ Nat.toDigits_ne_nil)
  have hascii : ∀ c ∈ '0' :: 'x' :: padded width (Nat.toDigits 16 n), c.toNat < 128 ∧ isBlank c = false := by
    intro c hc
    have hr := range_of_mem_marked hc
    exact ⟨by omega, isBlank_of_range hr⟩
  -- what stands behind the mark is a digit, and so no underscore
  have hunderscore : ∀ r, padded width (Nat.toDigits 16 n) ≠ '_' :: r := by
    intro r hr
    obtain ⟨d, hd⟩ := hds.exists_of_mem (hr ▸ List.mem_cons_self : '_' ∈ padded width (Nat.toDigits 16 n))
    exact absurd (range_of_digit? hd) (by decide)
  rw [marked?, trim_map_plain hascii]
  split
  · rename_i r hr
    exact absurd (List.cons.inj (List.cons.inj hr).2).2 (hunderscore r)
  · rename_i r _ hr
    rw [← (List.cons.inj (List.cons.inj hr).2).2, hdigits]
    exact congrArg some hvalue
  · rename_i hr
    exact absurd rfl (hr _)

/-- A number is read from a text that is its hexadecimal text in letters of either case. -/
theorem eitherBase?_of_hexadecimal {s : List Char} {width n : Nat}
    (h : s.map Char.toLower = '0' :: 'x' :: padded width (Nat.toDigits 16 n)) : eitherBase? s = some (n : Int) := by
  have hblank : ∀ c ∈ s, isBlank c = false := by
    intro c hc
    have hm : c.toLower ∈ '0' :: 'x' :: padded width (Nat.toDigits 16 n) := h ▸ List.mem_map_of_mem hc
    rw [← isBlank_toLower]
    exact isBlank_of_range (range_of_mem_marked hm)
  rw [eitherBase?, trim_eq_self hblank]
  show (if ['0', 'x'].isPrefixOf (s.map Char.toLower) then _ else _) = _
  rw [h, marked?_padded]
  rfl

end Numeral

end Keepalive
