import Keepalive.Proofs.Text.Numeral

/-!
# Texts that spell integers

A text spells an integer in decimal when between blanks it is an optional sign and digits of any script, with single underscores
between the digits (`Numeral.Spells`). It spells one in either base when between white space it is such a numeral, or the mark `0x` and
hexadecimal digits (`Numeral.SpellsEither`). Just these texts are read as integers, each as the integer that it spells
(`integer?_eq_some_iff`, `eitherBase?_eq_some_iff`). So a text that holds a character of no numeral spells nothing, and neither does a
text with a sign behind its first character.
-/

namespace Keepalive

namespace Text

/-! ## Trimming -/

/-- A text with characters of a class around it. -/
def Around (p : Char → Bool) (core text : List Char) : Prop :=
  ∃ before after, text = before ++ core ++ after ∧ (∀ c ∈ before, p c = true) ∧ ∀ c ∈ after, p c = true

variable {p q : Char → Bool} {core s : List Char}

/-- What is trimmed off a text are characters of the class. -/
theorem around_trim (p : Char → Bool) (s : List Char) : Around p (trim p s) s := by
  refine ⟨s.takeWhile p, ((s.dropWhile p).reverse.takeWhile p).reverse, ?_, ?_, ?_⟩
  · rw [trim, trimEnd, List.append_assoc, ← List.reverse_append, List.takeWhile_append_dropWhile, List.reverse_reverse,
      List.takeWhile_append_dropWhile]
  · exact fun c hc => List.all_eq_true.mp List.all_takeWhile c hc
  · exact fun c hc => List.all_eq_true.mp List.all_takeWhile c (List.mem_reverse.mp hc)

/-- Characters of a class are dropped up to the first that is none of it. -/
theorem dropWhile_append_cons {before rest : List Char} {c : Char} (hb : ∀ b ∈ before, p b = true) (hc : p c = false) :
    (before ++ c :: rest).dropWhile p = c :: rest := by
  rw [List.dropWhile_append_of_pos hb, List.dropWhile_cons_of_neg (Bool.eq_false_iff.mp hc)]

/-- A text without characters of the class is what is left when those around it are trimmed off. -/
theorem Around.trim_eq (h : Around p core s) (hne : core ≠ []) (hcore : ∀ c ∈ core, p c = false) : trim p s = core := by
  obtain ⟨before, after, rfl, hb, ha⟩ := h
  have hfront : (before ++ core ++ after).dropWhile p = core ++ after := by
    obtain ⟨c, rest, rfl⟩ := List.exists_cons_of_ne_nil hne
    rw [List.append_assoc]
    exact dropWhile_append_cons hb (hcore c List.mem_cons_self)
  have hback : (core ++ after).reverse.dropWhile p = core.reverse := by
    obtain ⟨c, rest, hrest⟩ := List.exists_cons_of_ne_nil (List.reverse_ne_nil_iff.mpr hne)
    have hc : p c = false := hcore c (List.mem_reverse.mp (hrest ▸ List.mem_cons_self))
    rw [List.reverse_append, hrest]
    exact dropWhile_append_cons (fun b hm => ha b (List.mem_reverse.mp hm)) hc
  rw [trim, trimEnd, hfront, hback, List.reverse_reverse]

/-- What is trimmed begins with no character of the class. -/
theorem not_of_trim_eq_cons {c : Char} {rest : List Char} (h : trim p s = c :: rest) : p c = false := by
  have hprefix : trim p s <+: s.dropWhile p := by
    rw [trim, trimEnd, ← List.reverse_suffix, List.reverse_reverse]
    exact List.dropWhile_suffix p
  obtain ⟨tail, htail⟩ := hprefix
  rw [h, List.cons_append] at htail
  have hhead := List.head?_dropWhile_not p s
  rw [← htail] at hhead
  simpa using hhead

/-- What is trimmed ends with no character of the class. -/
theorem not_of_trim_eq_concat {c : Char} {rest : List Char} (h : trim p s = rest ++ [c]) : p c = false := by
  have hlast : (s.dropWhile p).reverse.dropWhile p = c :: rest.reverse := by
    rw [← List.reverse_reverse ((s.dropWhile p).reverse.dropWhile p)]
    show (trim p s).reverse = _
    rw [h, List.reverse_append]
    rfl
  have hhead := List.head?_dropWhile_not p (s.dropWhile p).reverse
  rw [hlast] at hhead
  simpa using hhead

/-- Once a class is trimmed off, nothing is left for a smaller one. -/
theorem trim_trim (h : ∀ c, q c = true → p c = true) : trim q (trim p s) = trim p s := by
  obtain ⟨before, after, hs, hb, ha⟩ := around_trim q (trim p s)
  have hbefore : before = [] := by
    cases before with
    | nil => rfl
    | cons c rest =>
      have hp : p c = true := h c (hb c List.mem_cons_self)
      rw [not_of_trim_eq_cons hs] at hp
      nomatch hp
  have hafter : after = [] := by
    rcases List.eq_nil_or_concat after with hn | ⟨rest, c, rfl⟩
    · exact hn
    · have hp : p c = true := h c (ha c (by simp))
      rw [List.concat_eq_append, ← List.append_assoc] at hs
      rw [not_of_trim_eq_concat hs] at hp
      nomatch hp
  rw [hbefore, hafter, List.nil_append, List.append_nil] at hs
  exact hs.symm

/-- Trimming a text whose characters were changed is changing one that was trimmed. -/
theorem trim_map (f : Char → Char) : trim p (s.map f) = (trim (p ∘ f) s).map f := by
  rw [trim, trim, trimEnd, trimEnd, List.dropWhile_map, ← List.map_reverse, List.dropWhile_map, ← List.map_reverse]

end Text

namespace Numeral

open Text

/-! ## Characters of numerals -/

/-- Blanks beyond ASCII and digits are apart. -/
theorem digitValue?_of_isBlank {c : Char} (hb : isBlank c = true) (hc : 128 ≤ c.toNat) : digitValue? c = none := by
  have hwide : c.toNat ∈ [0x85, 0xa0, 0x1680, 0x2000, 0x2001, 0x2002, 0x2003, 0x2004, 0x2005, 0x2006, 0x2007, 0x2008, 0x2009,
      0x200a, 0x2028, 0x2029, 0x202f, 0x205f, 0x3000] := by
    simp only [isBlank, Bool.or_eq_true, Bool.and_eq_true, decide_eq_true_eq, beq_iff_eq] at hb
    simp only [List.mem_cons, List.not_mem_nil, or_false]
    omega
  have hnone : ∀ n ∈ [0x85, 0xa0, 0x1680, 0x2000, 0x2001, 0x2002, 0x2003, 0x2004, 0x2005, 0x2006, 0x2007, 0x2008, 0x2009,
      0x200a, 0x2028, 0x2029, 0x202f, 0x205f, 0x3000], digitZeros.find? (fun z => z ≤ n && n < z + 10) = none := by decide +kernel
  rw [digitValue?, hnone _ hwide]
  rfl

/-- The ASCII digits and their values. -/
theorem digitValue?_of_ascii {c : Char} (h : c.toNat < 128) :
    digitValue? c = if 48 ≤ c.toNat ∧ c.toNat ≤ 57 then some (c.toNat - 48) else none := by
  have hall : ∀ n : Fin 128, (digitZeros.find? fun z => z ≤ n.val && n.val < z + 10).map (n.val - ·) =
      if 48 ≤ n.val ∧ n.val ≤ 57 then some (n.val - 48) else none := by decide +kernel
  exact hall ⟨c.toNat, h⟩

/-- A character beyond ASCII has no other case. -/
theorem toLower_of_not_ascii {c : Char} (h : ¬c.toNat < 128) : c.toLower = c := by
  apply Char.toNat_inj.mp
  rw [toNat_toLower, if_neg (by omega)]

/-- The ASCII digit of a small number. -/
theorem toNat_ofNat_digit {d : Nat} (h : d < 10) : (Char.ofNat (48 + d)).toNat = 48 + d := by
  have hall : ∀ e : Fin 10, (Char.ofNat (48 + e.val)).toNat = 48 + e.val := by decide
  exact hall ⟨d, h⟩

/-- How numerals see a character: ASCII as it is, a blank beyond it as a space, a digit of any script as its ASCII digit, and any
other as it is. -/
theorem plain_cases (c : Char) : (c.toNat < 128 ∧ plain c = c) ∨ (128 ≤ c.toNat ∧ isBlank c = true ∧ plain c = ' ') ∨
    (128 ≤ c.toNat ∧ isBlank c = false ∧ ∃ d < 10, digitValue? c = some d ∧ (plain c).toNat = 48 + d) ∨
    (128 ≤ c.toNat ∧ isBlank c = false ∧ digitValue? c = none ∧ plain c = c) := by
  by_cases hascii : c.toNat < 128
  · exact .inl ⟨hascii, if_pos hascii⟩
  · have hbeyond : 128 ≤ c.toNat := by omega
    rw [plain, if_neg hascii]
    cases hb : isBlank c with
    | true => exact .inr (.inl ⟨hbeyond, rfl, if_pos rfl⟩)
    | false =>
      rw [if_neg Bool.false_ne_true]
      cases hd : digitValue? c with
      | none => exact .inr (.inr (.inr ⟨hbeyond, rfl, rfl, rfl⟩))
      | some d =>
        have hlt := digitValue?_lt hd
        exact .inr (.inr (.inl ⟨hbeyond, rfl, d, hlt, rfl, toNat_ofNat_digit hlt⟩))

/-- An ASCII character that is neither a space nor a digit is seen only where it stands. -/
theorem plain_eq_iff {c x : Char} (hx : x.toNat < 128) (hspace : x ≠ ' ') (hdigit : ¬(48 ≤ x.toNat ∧ x.toNat ≤ 57)) :
    plain c = x ↔ c = x := by
  rcases plain_cases c with ⟨-, hp⟩ | ⟨hc, -, hp⟩ | ⟨hc, -, d, hd, -, hp⟩ | ⟨-, -, -, hp⟩
  · rw [hp]
  · rw [hp]
    exact ⟨fun h => absurd h.symm hspace, fun h => absurd hx (by rw [← h]; omega)⟩
  · constructor
    · intro h
      rw [h] at hp
      omega
    · intro h
      rw [h] at hc
      omega
  · rw [hp]

/-- The case of a letter makes no difference to how numerals see it. -/
theorem plain_toLower (c : Char) : plain c.toLower = (plain c).toLower := by
  rcases plain_cases c with ⟨hc, hp⟩ | ⟨hc, -, hp⟩ | ⟨hc, -, d, hd, -, hp⟩ | ⟨hc, -, -, hp⟩
  · have hlower : c.toLower.toNat < 128 := by
      rw [toNat_toLower]
      split <;> omega
    rw [hp]
    exact if_pos hlower
  · rw [toLower_of_not_ascii (by omega), hp]
    rfl
  · rw [toLower_of_not_ascii (by omega)]
    apply Char.toNat_inj.mp
    rw [toNat_toLower, if_neg (by omega)]
  · rw [toLower_of_not_ascii (by omega), hp, toLower_of_not_ascii (by omega)]

/-- A blank around a numeral: one of ASCII, or any beyond ASCII. -/
def isMargin (c : Char) : Bool := isNarrowBlank c || (128 ≤ c.toNat && isBlank c)

/-- A character is a digit of a base with a value: a decimal digit of any script, or the ASCII letter for the value in either
case. -/
structure DigitOf (base : Nat) (c : Char) (d : Nat) : Prop where
  lt : d < base
  shown : digitValue? c = some d ∨ 10 ≤ d ∧ c.toLower = Nat.digitChar d

/-- Just the blanks around numerals are seen as ASCII blanks. -/
theorem isNarrowBlank_plain (c : Char) : isNarrowBlank (plain c) = isMargin c := by
  rcases plain_cases c with ⟨hc, hp⟩ | ⟨hc, hb, hp⟩ | ⟨hc, hb, d, hd, -, hp⟩ | ⟨hc, hb, -, hp⟩
  · have hn : ¬128 ≤ c.toNat := by omega
    rw [hp, isMargin, decide_eq_false hn, Bool.false_and, Bool.or_false]
  · rw [hp, isMargin, hb, decide_eq_true hc, Bool.and_true, Bool.or_true]
    rfl
  · rw [isMargin, hb, Bool.and_false, Bool.or_false, isNarrowBlank, isNarrowBlank, hp, Bool.eq_iff_iff]
    simp only [Bool.or_eq_true, Bool.and_eq_true, decide_eq_true_eq, beq_iff_eq]
    omega
  · rw [hp, isMargin, hb, Bool.and_false, Bool.or_false]

/-- Every blank around a numeral is white space. -/
theorem isBlank_of_isMargin {c : Char} (h : isMargin c = true) : isBlank c = true := by
  rw [isMargin, Bool.or_eq_true, Bool.and_eq_true] at h
  rcases h with h | h
  · exact isBlank_of_isNarrowBlank h
  · exact h.2

/-- A digit of a base is a hexadecimal digit that is small enough. -/
theorem digit?_iff_sixteen {base d : Nat} {c : Char} (hb : base ≤ 16) :
    digit? base c = some d ↔ d < base ∧ digit? 16 c = some d := by
  unfold digit?
  simp only [Option.filter_eq_some_iff, decide_eq_true_eq]
  constructor
  · rintro ⟨hv, hd⟩
    exact ⟨hd, hv, by omega⟩
  · rintro ⟨hd, hv, -⟩
    exact ⟨hv, hd⟩

/-- A character is seen as the digit of a small number when it is a decimal digit of that value, or the letter for it. -/
theorem toLower_plain_eq_iff {c : Char} {d : Nat} (hd : d < 16) :
    (plain c).toLower = Nat.digitChar d ↔ digitValue? c = some d ∨ 10 ≤ d ∧ c.toLower = Nat.digitChar d := by
  have hchar : ∀ e : Fin 16, (Nat.digitChar e).toNat = if e.val < 10 then 48 + e.val else 87 + e.val := by decide
  have hdigit : (Nat.digitChar d).toNat = if d < 10 then 48 + d else 87 + d := hchar ⟨d, hd⟩
  have hbeyond : 128 ≤ c.toNat → c.toLower ≠ Nat.digitChar d := by
    intro hc h
    rw [toLower_of_not_ascii (by omega)] at h
    rw [h, hdigit] at hc
    split at hc <;> omega
  rw [← Char.toNat_inj, toNat_toLower, hdigit]
  rcases plain_cases c with ⟨hc, hp⟩ | ⟨hc, hb, hp⟩ | ⟨hc, -, e, he, hv, hp⟩ | ⟨hc, -, hv, hp⟩
  · rw [hp, digitValue?_of_ascii hc, ← Char.toNat_inj, toNat_toLower, hdigit]
    simp only [Option.ite_none_right_eq_some, Option.some.injEq]
    split <;> split <;> omega
  · have hspace : (' ').toNat = 32 := rfl
    simp only [hp, digitValue?_of_isBlank hb hc, hbeyond hc, hspace, reduceCtorEq, and_false, or_false, iff_false]
    split <;> split <;> omega
  · simp only [hp, hv, hbeyond hc, Option.some.injEq, and_false, or_false]
    split <;> split <;> omega
  · simp only [hp, hv, hbeyond hc, reduceCtorEq, and_false, or_false, iff_false]
    split <;> split <;> omega

/-- Just the digits of a base are seen as digits, with their values. -/
theorem digit?_plain_iff {base d : Nat} {c : Char} (hb : base ≤ 16) : digit? base (plain c) = some d ↔ DigitOf base c d := by
  rw [digit?_iff_sixteen hb, digit?_eq_some_iff]
  constructor
  · rintro ⟨hlt, h16, hd⟩
    exact ⟨hlt, (toLower_plain_eq_iff h16).mp hd⟩
  · rintro ⟨hlt, hshown⟩
    have h16 : d < 16 := by omega
    exact ⟨hlt, h16, (toLower_plain_eq_iff h16).mpr hshown⟩

/-- No digit is white space. -/
theorem DigitOf.not_isBlank {base d : Nat} {c : Char} (h : DigitOf base c d) (hb : base ≤ 16) : isBlank c = false := by
  refine Bool.eq_false_iff.mpr fun hblank => ?_
  have hdigit := (digit?_plain_iff hb).mpr h
  rcases plain_cases c with ⟨hc, hp⟩ | ⟨-, -, hp⟩ | ⟨-, hn, -⟩ | ⟨-, hn, -⟩
  · rw [hp] at hdigit
    have hr := range_of_digit? hdigit
    rw [isBlank_of_range (by omega)] at hblank
    nomatch hblank
  · rw [hp] at hdigit
    exact absurd (range_of_digit? hdigit) (by decide)
  · rw [hn] at hblank
    nomatch hblank
  · rw [hn] at hblank
    nomatch hblank

/-- No digit is a sign. -/
theorem DigitOf.not_sign {base d : Nat} {c : Char} (h : DigitOf base c d) (hb : base ≤ 16) : c ≠ '+' ∧ c ≠ '-' := by
  have hdigit := range_of_digit? ((digit?_plain_iff hb).mpr h)
  constructor
  · rintro rfl
    exact absurd hdigit (by decide)
  · rintro rfl
    exact absurd hdigit (by decide)

/-- The case of a letter makes no difference to its value as a digit. -/
theorem digitOf_toLower_iff {base d : Nat} {c : Char} (hb : base ≤ 16) : DigitOf base c.toLower d ↔ DigitOf base c d := by
  rw [← digit?_plain_iff hb, ← digit?_plain_iff hb, plain_toLower, digit?_toLower]

/-! ## Groups of digits -/

/-- Digits of a base with single underscores between them, and their values in order. -/
inductive Grouped (base : Nat) : List Char → List Nat → Prop where
  | one {c : Char} {d : Nat} : DigitOf base c d → Grouped base [c] [d]
  | next {c : Char} {d : Nat} {s : List Char} {ds : List Nat} : DigitOf base c d → Grouped base s ds → Grouped base (c :: s) (d :: ds)
  | underscore {c : Char} {d : Nat} {s : List Char} {ds : List Nat} : DigitOf base c d → Grouped base s ds →
      Grouped base (c :: '_' :: s) (d :: ds)

variable {base : Nat} {s : List Char} {ds : List Nat}

/-- A way of seeing characters that takes the digits of a base, and no others, for what they are, and no other character for an
underscore. -/
structure Faithful (base : Nat) (see : Char → Char) : Prop where
  digit : ∀ c d, digit? base (see c) = some d ↔ DigitOf base c d
  underscore : ∀ c, see c = '_' ↔ c = '_'

/-- Numerals see digits for what they are. -/
theorem faithful_plain (hb : base ≤ 16) : Faithful base plain where
  digit := fun _ _ => digit?_plain_iff hb
  underscore := fun _ => plain_eq_iff (by decide) (by decide) (by decide)

/-- In small letters digits are seen for what they are. -/
theorem faithful_lower (hb : base ≤ 16) : Faithful base (plain ∘ Char.toLower) where
  digit := fun c d => (digit?_plain_iff hb).trans (digitOf_toLower_iff hb)
  underscore := fun c => by
    rw [Function.comp_apply, plain_eq_iff (by decide) (by decide) (by decide), ← Char.toNat_inj, ← Char.toNat_inj, toNat_toLower]
    have hu : ('_').toNat = 95 := rfl
    split <;> omega

/-- What is read as digits is grouped digits. -/
theorem grouped_of_digits? {see : Char → Char} (hs : Faithful base see) (h : digits? base (s.map see) = some ds) :
    Grouped base s ds := by
  generalize ht : s.map see = t at h
  fun_induction digits? base t generalizing s ds with
  | case1 => cases h
  | case2 c =>
    obtain ⟨d, hd, rfl⟩ := Option.map_eq_some_iff.mp h
    obtain ⟨x, rest, rfl, rfl, hrest⟩ := List.map_eq_cons_iff.mp ht
    rw [List.map_eq_nil_iff.mp hrest]
    exact .one ((hs.digit x d).mp hd)
  | case3 c r ih =>
    simp only [Option.bind_eq_bind, Option.bind_eq_some_iff] at h
    obtain ⟨d, hd, es, hes, hds⟩ := h
    obtain ⟨x, rest, rfl, rfl, hrest⟩ := List.map_eq_cons_iff.mp ht
    obtain ⟨y, others, rfl, hy, hothers⟩ := List.map_eq_cons_iff.mp hrest
    rw [(hs.underscore y).mp hy, ← Option.some.inj hds]
    exact .underscore ((hs.digit x d).mp hd) (ih hothers hes)
  | case4 c r hr hu ih =>
    simp only [Option.bind_eq_bind, Option.bind_eq_some_iff] at h
    obtain ⟨d, hd, es, hes, hds⟩ := h
    obtain ⟨x, rest, rfl, rfl, hrest⟩ := List.map_eq_cons_iff.mp ht
    rw [← Option.some.inj hds]
    exact .next ((hs.digit x d).mp hd) (ih hrest hes)

namespace Grouped

/-- A group begins with a digit. -/
theorem exists_cons (h : Grouped base s ds) : ∃ c d rest, s = c :: rest ∧ DigitOf base c d := by
  cases h with
  | one hd => exact ⟨_, _, _, rfl, hd⟩
  | next hd _ => exact ⟨_, _, _, rfl, hd⟩
  | underscore hd _ => exact ⟨_, _, _, rfl, hd⟩

/-- The characters of a group are digits and underscores. -/
theorem mem (h : Grouped base s ds) {c : Char} (hc : c ∈ s) : c = '_' ∨ ∃ d, DigitOf base c d := by
  induction h with
  | one hd =>
    rw [List.mem_singleton.mp hc]
    exact .inr ⟨_, hd⟩
  | next hd _ ih =>
    rcases List.mem_cons.mp hc with rfl | hc
    · exact .inr ⟨_, hd⟩
    · exact ih hc
  | underscore hd _ ih =>
    rcases List.mem_cons.mp hc with rfl | hc
    · exact .inr ⟨_, hd⟩
    · rcases List.mem_cons.mp hc with rfl | hc
      · exact .inl rfl
      · exact ih hc

/-- Grouped digits are read as digits, with their values. -/
theorem digits?_eq (h : Grouped base s ds) {see : Char → Char} (hs : Faithful base see) :
    digits? base (s.map see) = some ds := by
  induction h with
  | one hd =>
    rw [List.map_cons, List.map_nil, digits?, (hs.digit _ _).mpr hd]
    rfl
  | @next c d s ds hd hrest ih =>
    obtain ⟨x, e, rest, rfl, he⟩ := hrest.exists_cons
    have hx : see x ≠ '_' := by
      intro hu
      have hdigit := (hs.digit x e).mpr he
      rw [hu] at hdigit
      exact absurd (range_of_digit? hdigit) (by decide)
    rw [List.map_cons, digits?, (hs.digit _ _).mpr hd, ih]
    · rfl
    · simp
    · intro r hr
      exact hx (List.cons.inj hr).1
  | underscore hd _ ih =>
    rw [List.map_cons, List.map_cons, (hs.underscore '_').mpr rfl, digits?, (hs.digit _ _).mpr hd, ih]
    rfl

end Grouped

/-- Just the grouped digits are read as digits. -/
theorem digits?_map_eq_some_iff {see : Char → Char} (hs : Faithful base see) :
    digits? base (s.map see) = some ds ↔ Grouped base s ds :=
  ⟨grouped_of_digits? hs, fun h => h.digits?_eq hs⟩

/-! ## Numerals -/

/-- Digits of a decimal numeral, no more than are read, and the number that they stand for. -/
def Natural (s : List Char) (n : Nat) : Prop := ∃ ds, Grouped 10 s ds ∧ ds.length ≤ digitLimit ∧ ofDigits 10 ds = n

/-- A decimal numeral: digits, with a sign in front of them or without one. -/
inductive Decimal : List Char → Int → Prop where
  | unsigned {s : List Char} {n : Nat} : Natural s n → Decimal s n
  | plus {s : List Char} {n : Nat} : Natural s n → Decimal ('+' :: s) n
  | minus {s : List Char} {n : Nat} : Natural s n → Decimal ('-' :: s) (-n)

/-- A hexadecimal numeral: the mark `0x`, its letter in either case, and digits, with an underscore between the mark and the digits or
without one. -/
inductive Hexadecimal : List Char → Nat → Prop where
  | mark {x : Char} {s : List Char} {ds : List Nat} : x.toLower = 'x' → Grouped 16 s ds →
      Hexadecimal ('0' :: x :: s) (ofDigits 16 ds)
  | underscore {x : Char} {s : List Char} {ds : List Nat} : x.toLower = 'x' → Grouped 16 s ds →
      Hexadecimal ('0' :: x :: '_' :: s) (ofDigits 16 ds)

/-- A numeral in either base. -/
inductive EitherBase : List Char → Int → Prop where
  | decimal {s : List Char} {n : Int} : Decimal s n → EitherBase s n
  | hexadecimal {s : List Char} {n : Nat} : Hexadecimal s n → EitherBase s n

/-- A text spells an integer: it is a decimal numeral with blanks around it. -/
def Spells (s : List Char) (n : Int) : Prop := ∃ core, Around isMargin core s ∧ Decimal core n

/-- A text spells an integer in either base: it is a numeral in one of them with white space around it. -/
def SpellsEither (s : List Char) (n : Int) : Prop := ∃ core, Around isBlank core s ∧ EitherBase core n

/-- Just the digits of decimal numerals are read as natural numbers. -/
theorem natural?_map_eq_some_iff {see : Char → Char} (hs : Faithful 10 see) {n : Nat} :
    natural? (s.map see) = some n ↔ Natural s n := by
  simp only [natural?, Option.bind_eq_bind, Option.bind_eq_some_iff, digits?_map_eq_some_iff hs, Natural,
    Option.ite_none_right_eq_some, Option.some.injEq]

/-- There is no sign among the digits of a decimal numeral. -/
theorem Natural.no_sign {n : Nat} (h : Natural s n) {c : Char} (hc : c ∈ s) : c ≠ '+' ∧ c ≠ '-' := by
  obtain ⟨ds, hds, -⟩ := h
  rcases hds.mem hc with rfl | ⟨d, hd⟩
  · decide
  · exact hd.not_sign (by decide)

/-- Just the decimal numerals are read with their signs. -/
theorem signed?_map_eq_some_iff {see : Char → Char} (hs : Faithful 10 see) (hplus : ∀ c, see c = '+' ↔ c = '+')
    (hminus : ∀ c, see c = '-' ↔ c = '-') {n : Int} : signed? (s.map see) = some n ↔ Decimal s n := by
  constructor
  · intro h
    generalize ht : s.map see = t at h
    unfold signed? at h
    split at h
    · obtain ⟨m, hm, rfl⟩ := Option.map_eq_some_iff.mp h
      obtain ⟨x, rest, rfl, hx, rfl⟩ := List.map_eq_cons_iff.mp ht
      rw [(hplus x).mp hx]
      exact .plus ((natural?_map_eq_some_iff hs).mp hm)
    · obtain ⟨m, hm, rfl⟩ := Option.map_eq_some_iff.mp h
      obtain ⟨k, hk, hpure⟩ := Option.bind_eq_some_iff.mp hm
      obtain ⟨x, rest, rfl, hx, rfl⟩ := List.map_eq_cons_iff.mp ht
      rw [(hminus x).mp hx, ← Option.some.inj hpure]
      exact .minus ((natural?_map_eq_some_iff hs).mp hk)
    · obtain ⟨m, hm, rfl⟩ := Option.map_eq_some_iff.mp h
      rw [← ht] at hm
      exact .unsigned ((natural?_map_eq_some_iff hs).mp hm)
  · intro h
    cases h with
    | unsigned hn =>
      have hread := (natural?_map_eq_some_iff hs).mpr hn
      unfold signed?
      split
      · rename_i ht
        obtain ⟨x, rest, rfl, hx, -⟩ := List.map_eq_cons_iff.mp ht
        exact absurd ((hplus x).mp hx) (hn.no_sign List.mem_cons_self).1
      · rename_i ht
        obtain ⟨x, rest, rfl, hx, -⟩ := List.map_eq_cons_iff.mp ht
        exact absurd ((hminus x).mp hx) (hn.no_sign List.mem_cons_self).2
      · rw [hread]
        rfl
    | plus hn =>
      rw [List.map_cons, (hplus '+').mpr rfl, signed?, (natural?_map_eq_some_iff hs).mpr hn]
      rfl
    | minus hn =>
      rw [List.map_cons, (hminus '-').mpr rfl, signed?, (natural?_map_eq_some_iff hs).mpr hn]
      rfl

/-- The characters of a decimal numeral are signs, underscores and decimal digits. -/
theorem Decimal.mem {n : Int} (h : Decimal s n) {c : Char} (hc : c ∈ s) :
    c = '+' ∨ c = '-' ∨ c = '_' ∨ ∃ d, DigitOf 10 c d := by
  cases h with
  | unsigned hn =>
    obtain ⟨ds, hds, -⟩ := hn
    exact .inr (.inr (hds.mem hc))
  | plus hn =>
    obtain ⟨ds, hds, -⟩ := hn
    rcases List.mem_cons.mp hc with hc | hc
    · exact .inl hc
    · exact .inr (.inr (hds.mem hc))
  | minus hn =>
    obtain ⟨ds, hds, -⟩ := hn
    rcases List.mem_cons.mp hc with hc | hc
    · exact .inr (.inl hc)
    · exact .inr (.inr (hds.mem hc))

/-- The characters of a hexadecimal numeral are the letter of its mark, underscores and hexadecimal digits. -/
theorem Hexadecimal.mem {n : Nat} (h : Hexadecimal s n) {c : Char} (hc : c ∈ s) :
    c.toLower = 'x' ∨ c = '_' ∨ ∃ d, DigitOf 16 c d := by
  have hzero : DigitOf 16 '0' 0 := (digit?_plain_iff (Nat.le_refl 16)).mp (by decide)
  cases h with
  | mark hx hds =>
    rcases List.mem_cons.mp hc with rfl | hc
    · exact .inr (.inr ⟨0, hzero⟩)
    · rcases List.mem_cons.mp hc with rfl | hc
      · exact .inl hx
      · exact .inr (hds.mem hc)
  | underscore hx hds =>
    rcases List.mem_cons.mp hc with rfl | hc
    · exact .inr (.inr ⟨0, hzero⟩)
    · rcases List.mem_cons.mp hc with rfl | hc
      · exact .inl hx
      · rcases List.mem_cons.mp hc with rfl | hc
        · exact .inr (.inl rfl)
        · exact .inr (hds.mem hc)

/-- No character of a decimal numeral is white space. -/
theorem Decimal.not_isBlank {n : Int} (h : Decimal s n) {c : Char} (hc : c ∈ s) : isBlank c = false := by
  rcases h.mem hc with rfl | rfl | rfl | ⟨d, hd⟩
  · rfl
  · rfl
  · rfl
  · exact hd.not_isBlank (by decide)

/-- No character of a hexadecimal numeral is white space. -/
theorem Hexadecimal.not_isBlank {n : Nat} (h : Hexadecimal s n) {c : Char} (hc : c ∈ s) : isBlank c = false := by
  rcases h.mem hc with hx | rfl | ⟨d, hd⟩
  · rw [← isBlank_toLower, hx]
    rfl
  · rfl
  · exact hd.not_isBlank (Nat.le_refl 16)

/-- A numeral is not empty. -/
theorem EitherBase.ne_nil {n : Int} (h : EitherBase s n) : s ≠ [] := by
  rintro rfl
  cases h with
  | decimal h =>
    cases h with
    | unsigned hn =>
      obtain ⟨ds, hds, -⟩ := hn
      obtain ⟨c, d, rest, hnil, -⟩ := hds.exists_cons
      nomatch hnil
  | hexadecimal h => nomatch h

/-- No character of a numeral is white space. -/
theorem EitherBase.not_isBlank {n : Int} (h : EitherBase s n) {c : Char} (hc : c ∈ s) : isBlank c = false := by
  cases h with
  | decimal h => exact h.not_isBlank hc
  | hexadecimal h => exact h.not_isBlank hc

/-- A text is read as an integer exactly when it spells it. -/
theorem integer?_eq_some_iff {n : Int} : integer? s = some n ↔ Spells s n := by
  have hmargin : isNarrowBlank ∘ plain = isMargin := funext isNarrowBlank_plain
  have hread : ∀ core, signed? (core.map plain) = some n ↔ Decimal core n := fun core =>
    signed?_map_eq_some_iff (faithful_plain (by decide)) (fun _ => plain_eq_iff (by decide) (by decide) (by decide))
      fun _ => plain_eq_iff (by decide) (by decide) (by decide)
  rw [integer?, trim_map, hmargin, hread]
  constructor
  · exact fun h => ⟨_, around_trim isMargin s, h⟩
  · rintro ⟨core, ha, h⟩
    have hcore : ∀ c ∈ core, isMargin c = false := fun c hc =>
      Bool.eq_false_iff.mpr fun hm => Bool.false_ne_true ((h.not_isBlank hc).symm.trans (isBlank_of_isMargin hm))
    rwa [ha.trim_eq (EitherBase.decimal h).ne_nil hcore]

/-- What is left of a text between its white space has no blanks around it, in whatever case it is seen. -/
theorem trim_lower (s : List Char) :
    trim isNarrowBlank (((trim isBlank s).map Char.toLower).map plain) = (trim isBlank s).map (plain ∘ Char.toLower) := by
  have hblank : ∀ c, (isNarrowBlank ∘ plain ∘ Char.toLower) c = true → isBlank c = true := by
    intro c hc
    rw [Function.comp_apply, Function.comp_apply, isNarrowBlank_plain] at hc
    rw [← isBlank_toLower]
    exact isBlank_of_isMargin hc
  rw [List.map_map, trim_map, trim_trim hblank]

/-- A text has the mark in small letters exactly when it begins with it. -/
theorem isPrefixOf_lower_iff : ['0', 'x'].isPrefixOf (s.map Char.toLower) = true ↔
    ∃ x rest, s = '0' :: x :: rest ∧ x.toLower = 'x' := by
  rw [List.isPrefixOf_iff_prefix]
  constructor
  · rintro ⟨tail, htail⟩
    obtain ⟨c, others, rfl, hc, hothers⟩ := List.map_eq_cons_iff.mp htail.symm
    obtain ⟨x, rest, rfl, hx, -⟩ := List.map_eq_cons_iff.mp hothers
    have hzero : c = '0' := by
      rw [← Char.toNat_inj, toNat_toLower] at hc
      rw [← Char.toNat_inj]
      have h48 : ('0').toNat = 48 := rfl
      split at hc <;> omega
    exact ⟨x, rest, by rw [hzero], hx⟩
  · rintro ⟨x, rest, rfl, hx⟩
    exact ⟨rest.map Char.toLower, by rw [List.map_cons, List.map_cons, hx]; rfl⟩

/-- The letter of the mark is no part of a decimal numeral. -/
theorem Decimal.no_mark {n : Int} (h : Decimal s n) {x : Char} (hx : x.toLower = 'x') : x ∉ s := by
  intro hm
  rcases h.mem hm with rfl | rfl | rfl | ⟨d, hd⟩
  · nomatch hx
  · nomatch hx
  · nomatch hx
  · have hdigit := (digit?_plain_iff (by decide)).mpr ((digitOf_toLower_iff (by decide)).mpr hd)
    rw [hx] at hdigit
    nomatch hdigit

/-- Behind the mark just the digits of hexadecimal numerals are read. -/
theorem marked?_eq_some_iff {x : Char} {rest t : List Char} {n : Nat} (hx : x.toLower = 'x')
    (ht : trim isNarrowBlank (t.map plain) = '0' :: 'x' :: rest.map (plain ∘ Char.toLower)) :
    marked? t = some n ↔ Hexadecimal ('0' :: x :: rest) n := by
  have hs : Faithful 16 (plain ∘ Char.toLower) := faithful_lower (Nat.le_refl 16)
  rw [marked?, ht]
  constructor
  · intro h
    split at h
    · rename_i r hr
      obtain ⟨ds, hds, rfl⟩ := Option.map_eq_some_iff.mp h
      obtain ⟨u, others, rfl, hu, rfl⟩ := List.map_eq_cons_iff.mp (List.cons.inj (List.cons.inj hr).2).2
      rw [(hs.underscore u).mp hu]
      exact .underscore hx ((digits?_map_eq_some_iff hs).mp hds)
    · rename_i r _ hr
      obtain ⟨ds, hds, rfl⟩ := Option.map_eq_some_iff.mp h
      rw [← (List.cons.inj (List.cons.inj hr).2).2] at hds
      exact .mark hx ((digits?_map_eq_some_iff hs).mp hds)
    · cases h
  · intro h
    cases h with
    | mark _ hds =>
      have hread := (digits?_map_eq_some_iff hs).mpr hds
      split
      · -- a group does not begin with an underscore
        rename_i r hr
        obtain ⟨u, others, rfl, hu, -⟩ := List.map_eq_cons_iff.mp (List.cons.inj (List.cons.inj hr).2).2
        obtain ⟨c, d, tail, hcons, hd⟩ := hds.exists_cons
        have hdigit := (hs.digit c d).mpr hd
        rw [← (List.cons.inj hcons).1, hu] at hdigit
        cases hdigit
      · rename_i r _ hr
        rw [← (List.cons.inj (List.cons.inj hr).2).2, hread]
        rfl
      · rename_i hr
        exact absurd rfl (hr _)
    | @underscore _ digits _ _ hds =>
      rw [List.map_cons, (hs.underscore '_').mpr rfl]
      show (digits? 16 (digits.map (plain ∘ Char.toLower))).map (ofDigits 16) = _
      rw [(digits?_map_eq_some_iff hs).mpr hds]
      rfl

/-- What is left of a text between its white space is read in either base exactly when it is a numeral. -/
theorem eitherBase?_eq_some_iff_trim {n : Int} : eitherBase? s = some n ↔ EitherBase (trim isBlank s) n := by
  have htrim := trim_lower s
  rw [eitherBase?]
  generalize trim isBlank s = core at htrim ⊢
  split
  · rename_i hp
    obtain ⟨x, rest, rfl, hx⟩ := isPrefixOf_lower_iff.mp hp
    have hseen : ('0' :: x :: rest).map (plain ∘ Char.toLower) = '0' :: 'x' :: rest.map (plain ∘ Char.toLower) := by
      rw [List.map_cons, List.map_cons, Function.comp_apply, Function.comp_apply, hx]
      rfl
    rw [hseen] at htrim
    simp only [Option.map_eq_some_iff, marked?_eq_some_iff hx htrim]
    constructor
    · rintro ⟨m, hm, rfl⟩
      exact .hexadecimal hm
    · intro h
      cases h with
      | decimal h => exact absurd (List.mem_cons_of_mem _ List.mem_cons_self) (h.no_mark hx)
      | hexadecimal h => exact ⟨_, h, rfl⟩
  · rename_i hp
    have hs : Faithful 10 (plain ∘ Char.toLower) := faithful_lower (by decide)
    have hsign : ∀ x : Char, x.toNat < 48 → x ≠ ' ' → ∀ c, (plain ∘ Char.toLower) c = x ↔ c = x := by
      intro x hlow hspace c
      rw [Function.comp_apply, plain_eq_iff (by omega) hspace (by omega), ← Char.toNat_inj, ← Char.toNat_inj, toNat_toLower]
      split <;> omega
    rw [integer?, htrim, signed?_map_eq_some_iff hs (hsign '+' (by decide) (by decide)) (hsign '-' (by decide) (by decide))]
    constructor
    · exact .decimal
    · intro h
      cases h with
      | decimal h => exact h
      | hexadecimal h =>
        cases h with
        | mark hx _ => exact absurd (isPrefixOf_lower_iff.mpr ⟨_, _, rfl, hx⟩) hp
        | underscore hx _ => exact absurd (isPrefixOf_lower_iff.mpr ⟨_, _, rfl, hx⟩) hp

/-- A text is read as an integer in either base exactly when it spells it. -/
theorem eitherBase?_eq_some_iff {n : Int} : eitherBase? s = some n ↔ SpellsEither s n := by
  rw [eitherBase?_eq_some_iff_trim]
  constructor
  · exact fun h => ⟨_, around_trim isBlank s, h⟩
  · rintro ⟨core, ha, h⟩
    rwa [ha.trim_eq h.ne_nil fun c hc => h.not_isBlank hc]

/-! ## Texts that spell nothing -/

/-- May a character stand in a numeral, or around one? -/
def isAdmitted (c : Char) : Bool :=
  isBlank c || c == '+' || c == '-' || c == '_' || c.toLower == 'x' || (digit? 16 (plain c)).isSome

/-- A digit may stand in a numeral. -/
theorem DigitOf.isAdmitted {d : Nat} {c : Char} (h : DigitOf base c d) (hb : base ≤ 16) : isAdmitted c = true := by
  have hdigit : digit? 16 (plain c) = some d := ((digit?_iff_sixteen hb).mp ((digit?_plain_iff hb).mpr h)).2
  rw [Numeral.isAdmitted, hdigit, Option.isSome_some, Bool.or_true]

/-- A text that spells an integer holds no other characters. -/
theorem SpellsEither.isAdmitted {n : Int} (h : SpellsEither s n) {c : Char} (hc : c ∈ s) : isAdmitted c = true := by
  obtain ⟨core, ⟨before, after, rfl, hb, ha⟩, hcore⟩ := h
  have hblank : isBlank c = true → Numeral.isAdmitted c = true := by
    intro hblank
    rw [Numeral.isAdmitted, hblank]
    rfl
  rcases List.mem_append.mp hc with hc | hc
  · rcases List.mem_append.mp hc with hc | hc
    · exact hblank (hb c hc)
    · cases hcore with
      | decimal h =>
        rcases h.mem hc with rfl | rfl | rfl | ⟨d, hd⟩
        · rfl
        · rfl
        · rfl
        · exact hd.isAdmitted (by decide)
      | hexadecimal h =>
        rcases h.mem hc with hx | rfl | ⟨d, hd⟩
        · rw [Numeral.isAdmitted, hx]
          simp
        · rfl
        · exact hd.isAdmitted (Nat.le_refl 16)
  · exact hblank (ha c hc)

/-- A numeral has a sign in front of its other characters or nowhere. -/
theorem EitherBase.no_sign_behind {n : Int} {c : Char} {rest : List Char} (h : EitherBase (c :: rest) n) :
    ∀ b ∈ rest, b ≠ '+' ∧ b ≠ '-' := by
  intro b hb
  cases h with
  | decimal h =>
    cases h with
    | unsigned hn => exact hn.no_sign (List.mem_cons_of_mem _ hb)
    | plus hn => exact hn.no_sign hb
    | minus hn => exact hn.no_sign hb
  | hexadecimal h =>
    rcases h.mem (List.mem_cons_of_mem _ hb) with hx | rfl | ⟨d, hd⟩
    · constructor
      · rintro rfl
        nomatch hx
      · rintro rfl
        nomatch hx
    · decide
    · exact hd.not_sign (Nat.le_refl 16)

/-- A text that spells an integer and does not begin with white space has no sign behind its first character. -/
theorem SpellsEither.no_sign_behind {n : Int} {c : Char} {rest : List Char} (h : SpellsEither (c :: rest) n)
    (hc : isBlank c = false) : ∀ b ∈ rest, b ≠ '+' ∧ b ≠ '-' := by
  obtain ⟨core, ⟨before, after, hs, hb, ha⟩, hcore⟩ := h
  have hbefore : before = [] := by
    cases before with
    | nil => rfl
    | cons b bs =>
      have hblank := hb b List.mem_cons_self
      rw [← (List.cons.inj hs).1, hc] at hblank
      nomatch hblank
  subst hbefore
  obtain ⟨x, tail, rfl⟩ := List.exists_cons_of_ne_nil hcore.ne_nil
  obtain ⟨-, rfl⟩ := List.cons.inj hs
  intro b hm
  rcases List.mem_append.mp hm with hm | hm
  · exact hcore.no_sign_behind b hm
  · have hblank := ha b hm
    constructor
    · rintro rfl
      nomatch hblank
    · rintro rfl
      nomatch hblank

/-- A text that spells an integer in decimal does not hold the letter of the mark. -/
theorem Spells.no_mark {n : Int} (h : Spells s n) {x : Char} (hx : x.toLower = 'x') : x ∉ s := by
  obtain ⟨core, ⟨before, after, rfl, hb, ha⟩, hcore⟩ := h
  have hmargin : ¬isMargin x = true := by
    intro hm
    have hblank := isBlank_of_isMargin hm
    rw [← isBlank_toLower, hx] at hblank
    nomatch hblank
  intro hm
  rcases List.mem_append.mp hm with hm | hm
  · rcases List.mem_append.mp hm with hm | hm
    · exact hmargin (hb x hm)
    · exact hcore.no_mark hx hm
  · exact hmargin (ha x hm)

end Numeral

end Keepalive
