import Keepalive.Proofs.Outcome
import Keepalive.Proofs.Text.Numeral
import Keepalive.Value

/-!
# Texts of values

A value that stands alone may have a text. A text stands for itself. The text of any other value holds a character that is neither
a digit nor a point, or no more than one point (`Value.plain_cases`): the integers have no point, the numbers of the binary
format at most one, and all others have letters, brackets or marks between their parts.
-/

namespace Keepalive

namespace Binary64

/-- A power of ten is written without a point. -/
theorem point_notMem_exponentText (exponent : Int) : '.' ∉ exponentText exponent := by
  rw [exponentText, List.mem_cons, List.mem_cons]
  rintro (he | hsign | hdigits)
  · exact absurd he (by decide)
  · split at hsign
    · exact absurd hsign (by decide)
    · exact absurd hsign (by decide)
  · exact Numeral.point_notMem_padded (Numeral.point_notMem_toDigits _) hdigits

/-- Digits are laid out with one point at most. -/
theorem count_point_layout {digits : List Char} (h : '.' ∉ digits) (point : Int) : (layout digits point).count '.' ≤ 1 := by
  have hdigits : digits.count '.' = 0 := List.count_eq_zero.mpr h
  have hexponent : (exponentText (point - 1)).count '.' = 0 := List.count_eq_zero.mpr (point_notMem_exponentText _)
  have hzeros : ∀ count, (List.replicate count '0').count '.' = 0 := fun count =>
    List.count_eq_zero.mpr fun hmem => absurd (List.eq_of_mem_replicate hmem) (by decide)
  unfold layout
  split
  · -- with a power of ten
    split
    · rename_i d
      rw [List.count_cons, List.count_nil] at hdigits
      rw [List.count_cons, hexponent]
      omega
    · rename_i d ds _
      rw [List.count_cons] at hdigits
      rw [List.cons_append, List.count_cons, List.count_append, List.count_cons_self, hexponent]
      omega
    · exact Nat.zero_le _
  · split
    · rw [List.cons_append, List.cons_append, List.count_cons_of_ne (by decide), List.count_cons_self, List.count_append, hzeros,
        hdigits]
    · dsimp only
      split
      · rw [List.count_append, List.count_append, hdigits, hzeros]
        decide
      · have hparts : digits.count '.' = (digits.take point.toNat).count '.' + (digits.drop point.toNat).count '.' := by
          rw [← List.count_append, List.take_append_drop]
        rw [List.count_append, List.count_cons_self]
        omega

/-- The text of a finite number has one point at most. -/
theorem count_point_text (negative : Bool) (units : Nat) : (finite negative units).text.toList.count '.' ≤ 1 := by
  have hsign : (if negative then ['-'] else []).count '.' = 0 := by cases negative <;> rfl
  have hmagnitude : (magnitudeText units).count '.' ≤ 1 := by
    rw [magnitudeText]
    split
    · decide
    · refine count_point_layout (fun h => ?_) _
      -- the zeros at the end are dropped from the other end of the digits
      have hdropped : '.' ∈ (Nat.toDigits 10 (shortest units)).reverse.dropWhile (· == '0') := List.mem_reverse.mp h
      exact Numeral.point_notMem_toDigits _ (List.mem_reverse.mp ((List.dropWhile_sublist _).subset hdropped))
  rw [text, String.toList_ofList, List.count_append, hsign, Nat.zero_add]
  exact hmagnitude

end Binary64

namespace Value

/-- Only a number beyond the limit has no text. -/
theorem numberText_eq_error {n : Int} {fault : TextFault} (h : numberText n = .error fault) :
    Numeral.fits n = false ∧ fault = .longNumber := by
  unfold numberText at h
  cases hd : Numeral.decimal? n with
  | none =>
    rw [hd] at h
    have hfits : ¬Numeral.fits n = true := by
      intro hf
      rw [Numeral.decimal?, if_pos hf] at hd
      nomatch hd
    exact ⟨Bool.eq_false_iff.mpr hfits, (Except.error.inj h).symm⟩
  | some text =>
    rw [hd] at h
    nomatch h

/-- A number within the limit has its decimal text, and no other has one. -/
theorem numberText_eq_ok_iff {n : Int} {text : String} :
    numberText n = .ok text ↔ Numeral.fits n = true ∧ text = Numeral.decimal n := by
  unfold numberText Numeral.decimal?
  by_cases hfits : Numeral.fits n = true
  · rw [if_pos hfits]
    exact ⟨fun h => ⟨hfits, (Except.ok.inj h).symm⟩, fun h => congrArg Except.ok h.2.symm⟩
  · rw [if_neg hfits]
    exact ⟨fun h => (nomatch h), fun h => absurd h.1 hfits⟩

/-- A text holds a character that is neither a digit nor a point. -/
def Foreign (text : String) : Prop := ∃ c ∈ text.toList, c ≠ '.' ∧ c.isDigit = false

theorem Foreign.left {text : String} (h : Foreign text) (rest : String) : Foreign (text ++ rest) := by
  obtain ⟨c, hc, hforeign⟩ := h
  exact ⟨c, String.toList_append ▸ List.mem_append_left _ hc, hforeign⟩

theorem Foreign.right {text : String} (h : Foreign text) (front : String) : Foreign (front ++ text) := by
  obtain ⟨c, hc, hforeign⟩ := h
  exact ⟨c, String.toList_append ▸ List.mem_append_right _ hc, hforeign⟩

/-- A text of one character that is neither a digit nor a point. -/
theorem foreign_singleton {c : Char} (hpoint : c ≠ '.') (hdigit : c.isDigit = false) : Foreign (String.ofList [c]) :=
  ⟨c, String.toList_ofList ▸ List.mem_singleton_self c, hpoint, hdigit⟩

theorem foreign_bracketed {opening : String} (h : Foreign opening) (closing : String) (items : List String) :
    Foreign (bracketed opening closing items) :=
  (h.left _).left _

theorem foreign_date (d : Date) : Foreign d.plain := by
  have hhyphen : Foreign "-" := foreign_singleton (c := '-') (by decide) (by decide)
  exact (hhyphen.right _).left _

theorem foreign_time (t : Time) : Foreign t.plain := by
  have hcolon : Foreign ":" := foreign_singleton (c := ':') (by decide) (by decide)
  exact ((hcolon.right _).left _).left _

theorem foreign_moment (m : Moment) : Foreign m.plain := (((foreign_date m.date).left _).left _).left _

/-- A number has a text of no foreign character but its sign, and at most one point. -/
theorem count_point_or_foreign_real (x : Binary64) : Foreign x.text ∨ x.text.toList.count '.' ≤ 1 := by
  cases x with
  | nan => exact .inl ⟨'n', by decide, by decide, by decide⟩
  | infinite negative => exact .inl ⟨'f', by cases negative <;> decide, by decide, by decide⟩
  | finite negative units => exact .inr (Binary64.count_point_text negative units)

/-- The text of a list stands between its brackets. -/
theorem bracketed_of_plain_list {room : Nat} {items : List Value} {text : String} (h : (list items).plain room = .ok text) :
    ∃ texts, text = bracketed "[" "]" texts := by
  rw [plain, nested] at h
  split at h
  · nomatch h
  · obtain ⟨texts, -, rfl⟩ := Outcome.map_eq_ok.mp h
    exact ⟨texts, rfl⟩

/-- The text of a table stands between its brackets. -/
theorem bracketed_of_plain_table {room : Nat} {entries : List (String × Value)} {text : String}
    (h : (table entries).plain room = .ok text) : ∃ texts, text = bracketed "\x7b" "\x7d" texts := by
  rw [plain, nested] at h
  split at h
  · nomatch h
  · obtain ⟨texts, -, rfl⟩ := Outcome.map_eq_ok.mp h
    exact ⟨texts, rfl⟩

/-- A value that has a text is that text, or the text holds a character that is neither a digit nor a point, or at most one
point. -/
theorem plain_cases {room : Nat} {value : Value} {text : String} (h : value.plain room = .ok text) :
    value = .text text ∨ Foreign text ∨ text.toList.count '.' ≤ 1 := by
  cases value with
  | text t => exact .inl (congrArg Value.text (Except.ok.inj h))
  | integer n =>
    have hnumber : numberText n = .ok text := h
    have hnone : '.' ∉ (Numeral.decimal n).toList := fun hmem => by
      rcases Numeral.mem_decimal hmem with hsign | hdigit
      · exact absurd hsign (by decide)
      · exact absurd hdigit (by decide)
    rw [(numberText_eq_ok_iff.mp hnumber).2, List.count_eq_zero.mpr hnone]
    exact .inr (.inr (Nat.zero_le 1))
  | boolean b =>
    have hb : (.ok (truthText b) : Except TextFault String) = .ok text := h
    rw [← Except.ok.inj hb]
    exact .inr (.inl ⟨'e', by cases b <;> decide, by decide, by decide⟩)
  | real x =>
    have hx : (.ok x.text : Except TextFault String) = .ok text := h
    rw [← Except.ok.inj hx]
    exact .inr (count_point_or_foreign_real x)
  | null =>
    have hnull : (.ok "None" : Except TextFault String) = .ok text := h
    rw [← Except.ok.inj hnull]
    exact .inr (.inl ⟨'N', by decide, by decide, by decide⟩)
  | list items =>
    obtain ⟨texts, rfl⟩ := bracketed_of_plain_list h
    exact .inr (.inl (foreign_bracketed (foreign_singleton (c := '[') (by decide) (by decide)) _ _))
  | table entries =>
    obtain ⟨texts, rfl⟩ := bracketed_of_plain_table h
    exact .inr (.inl (foreign_bracketed (foreign_singleton (c := '\x7b') (by decide) (by decide)) _ _))
  | date d => exact .inr (.inl (Except.ok.inj h ▸ foreign_date d))
  | time t => exact .inr (.inl (Except.ok.inj h ▸ foreign_time t))
  | moment m => exact .inr (.inl (Except.ok.inj h ▸ foreign_moment m))

end Value

end Keepalive
