import Keepalive.EnvFile.Loader
import Keepalive.Proofs.Environment.History
import Mathlib.Data.List.TakeDrop

/-!
# What environment files set

The values that an environment file sets are made of characters of its text, of escapes and of values that are there already. So a
file whose text holds no NUL binds none in an environment without one (`clear_resolve`), and the loader of these files follows their
dialect (`follows_loader`). The readers of the file are followed one by one: neither what they take nor what they leave holds a NUL
(`Leaves`).
-/

namespace Keepalive.EnvFile

open Text

variable {α β : Type} {s r : List Char}

/-! ## Characters -/

/-- Characters without a NUL. -/
def Clear (s : List Char) : Prop := '\x00' ∉ s

theorem Clear.of_subset (h : Clear s) (hr : r ⊆ s) : Clear r := fun hm => h (hr hm)

theorem clear_nil : Clear [] := List.not_mem_nil

theorem clear_cons {c : Char} : Clear (c :: s) ↔ '\x00' ≠ c ∧ Clear s := by
  unfold Clear
  rw [List.mem_cons, not_or]

theorem clear_append : Clear (s ++ r) ↔ Clear s ∧ Clear r := by
  unfold Clear
  rw [List.mem_append, not_or]

theorem nulFree_ofList : NulFree (String.ofList s) ↔ Clear s := by
  rw [NulFree, String.toList_ofList, Clear]

theorem Clear.dropWhile (h : Clear s) (p : Char → Bool) : Clear (s.dropWhile p) :=
  h.of_subset (List.dropWhile_suffix p).subset

theorem Clear.takeWhile (h : Clear s) (p : Char → Bool) : Clear (s.takeWhile p) :=
  h.of_subset (List.takeWhile_prefix p).subset

theorem Clear.drop (h : Clear s) (n : Nat) : Clear (s.drop n) := h.of_subset (List.drop_suffix n s).subset

theorem Clear.trimEnd (h : Clear s) (p : Char → Bool) : Clear (trimEnd p s) := by
  intro hm
  rw [Text.trimEnd, List.mem_reverse] at hm
  exact h (List.mem_reverse.mp ((List.dropWhile_suffix p).subset hm))

/-- Both parts of a text that is cut in two hold no NUL. -/
theorem Clear.span {p : Char → Bool} {first second : List Char} (h : Clear s) (hs : s.span p = (first, second)) :
    Clear first ∧ Clear second := by
  rw [List.span_eq_takeWhile_dropWhile] at hs
  obtain ⟨rfl, rfl⟩ := Prod.mk.inj hs
  exact ⟨h.takeWhile p, h.dropWhile p⟩

/-! ## Readers -/

/-- What a reader takes has a property, and what it leaves, or leaves where the text goes wrong, holds no NUL. -/
def Leaves (P : α → Prop) : Taken α → Prop
  | .ok (a, rest) => P a ∧ Clear rest
  | .error rest => Clear rest

/-- Readers in a row. -/
theorem Leaves.bind {P : α → Prop} {Q : β → Prop} {x : Taken α} {f : α × List Char → Taken β} (hx : Leaves P x)
    (hf : ∀ a rest, P a → Clear rest → Leaves Q (f (a, rest))) : Leaves Q (Except.bind x f) := by
  cases x with
  | error rest => exact hx
  | ok taken => exact hf taken.1 taken.2 hx.1 hx.2

/-- What a reader takes, seen as something else. -/
theorem Leaves.map {P : α → Prop} {Q : β → Prop} {x : Taken α} {f : α → β} (hx : Leaves P x) (hf : ∀ a, P a → Q (f a)) :
    Leaves Q (Except.map (fun taken => (f taken.1, taken.2)) x) := by
  cases x with
  | error rest => exact hx
  | ok taken => exact ⟨hf taken.1 hx.1, hx.2⟩

theorem clear_dropInline (h : Clear s) : Clear (dropInline s) := h.dropWhile _

theorem clear_dropLine (h : Clear s) : Clear (dropLine s) := (h.dropWhile _).drop 1

theorem clear_dropExport (h : Clear s) : Clear (dropExport s) := by
  unfold dropExport
  dsimp only
  split
  · split
    · exact clear_dropInline (h.drop _)
    · exact h
  · exact h

theorem clear_dropComment (h : Clear s) : Clear (dropComment s) := by
  unfold dropComment
  split
  · rename_i rest heq
    have hrest : Clear ('#' :: rest) := heq ▸ clear_dropInline h
    exact (clear_cons.mp hrest).2.dropWhile _
  · exact h

theorem leaves_endLine (h : Clear s) : Leaves (fun _ => True) (endLine s) := by
  unfold endLine
  split
  · exact ⟨trivial, clear_nil⟩
  · rename_i rest heq
    have hrest : Clear ('\n' :: rest) := heq ▸ clear_dropInline h
    exact ⟨trivial, (clear_cons.mp hrest).2⟩
  · exact h

theorem leaves_name (h : Clear s) : Leaves (fun _ => True) (name s) := by
  unfold name
  split
  · exact ⟨trivial, h⟩
  · rename_i quoted
    split
    · rename_i text mark rest heq
      have hrest := (clear_cons.mp ((clear_cons.mp h).2.span heq).2).2
      split
      · exact h
      · exact ⟨trivial, hrest⟩
    · exact h
  · dsimp only
    split
    · exact h
    · exact ⟨trivial, h.dropWhile _⟩

/-- A quoted value and the rest behind it hold no NUL when no escape stands for one. -/
theorem clear_quotedFrom {mark : Char} {escapes : List (Char × Char)} (he : ∀ entry ∈ escapes, '\x00' ≠ entry.2)
    (h : Clear s) {text rest : List Char} (hq : quotedFrom mark escapes s = some (text, rest)) : Clear text ∧ Clear rest := by
  induction s using quotedFrom.induct mark generalizing text rest with
  | case1 => nomatch hq
  | case2 => nomatch hq
  | case3 c r ih =>
    obtain ⟨hslash, hcr⟩ := clear_cons.mp h
    obtain ⟨hc, hr⟩ := clear_cons.mp hcr
    rw [quotedFrom, Option.map_eq_some_iff] at hq
    obtain ⟨⟨inner, behind⟩, htaken, heq⟩ := hq
    obtain ⟨hinner, hbehind⟩ := ih hr htaken
    cases hx : escapes.lookup c with
    | some x =>
      simp only [hx, Prod.mk.injEq] at heq
      obtain ⟨rfl, rfl⟩ := heq
      exact ⟨clear_cons.mpr ⟨he _ (mem_of_lookup hx), hinner⟩, hbehind⟩
    | none =>
      simp only [hx, Prod.mk.injEq] at heq
      obtain ⟨rfl, rfl⟩ := heq
      exact ⟨clear_cons.mpr ⟨hslash, clear_cons.mpr ⟨hc, hinner⟩⟩, hbehind⟩
  | case4 r hend hmore =>
    rw [quotedFrom.eq_4 _ _ _ _ hend hmore, if_pos rfl] at hq
    obtain ⟨rfl, rfl⟩ := Prod.mk.inj (Option.some.inj hq)
    exact ⟨clear_nil, (clear_cons.mp h).2⟩
  | case5 c r hend hmore hmark ih =>
    obtain ⟨hc, hr⟩ := clear_cons.mp h
    rw [quotedFrom.eq_4 _ _ _ _ hend hmore, if_neg hmark, Option.map_eq_some_iff] at hq
    obtain ⟨⟨inner, behind⟩, htaken, heq⟩ := hq
    obtain ⟨hinner, hbehind⟩ := ih hr htaken
    obtain ⟨rfl, rfl⟩ := Prod.mk.inj heq
    exact ⟨clear_cons.mpr ⟨hc, hinner⟩, hbehind⟩

theorem clear_beforeComment (h : Clear s) : Clear (beforeComment s) := by
  induction s with
  | nil => exact clear_nil
  | cons c r ih =>
    obtain ⟨hc, hr⟩ := clear_cons.mp h
    rw [beforeComment]
    split
    · exact clear_nil
    · exact clear_cons.mpr ⟨hc, ih hr⟩

/-- A quoted value holds no NUL, and neither does the text that is given back when its second mark is missing. -/
theorem leaves_quoted {mark : Char} {escapes : List (Char × Char)} (he : ∀ entry ∈ escapes, '\x00' ≠ entry.2)
    {quoted rest : List Char} (hquoted : Clear quoted) (hrest : Clear rest) :
    Leaves NulFree (match quotedFrom mark escapes quoted with
      | some (text, behind) => .ok (String.ofList text, behind)
      | none => .error rest) := by
  split
  · rename_i text behind htaken
    obtain ⟨htext, hbehind⟩ := clear_quotedFrom he hquoted htaken
    exact ⟨nulFree_ofList.mpr htext, hbehind⟩
  · exact hrest

theorem leaves_value (h : Clear s) : Leaves NulFree (value s) := by
  have hempty : NulFree "" := List.not_mem_nil
  have hrest := clear_dropInline h
  unfold value
  dsimp only
  split
  · exact ⟨hempty, hrest⟩
  · split
    · rename_i quoted heq
      exact leaves_quoted (by decide) (clear_cons.mp (heq ▸ hrest)).2 hrest
    · rename_i quoted heq
      exact leaves_quoted (by decide) (clear_cons.mp (heq ▸ hrest)).2 hrest
    · exact ⟨hempty, clear_nil⟩
    · rename_i line heq
      exact ⟨hempty, heq ▸ hrest⟩
    · exact ⟨nulFree_ofList.mpr ((clear_beforeComment (hrest.takeWhile _)).trimEnd _), hrest.dropWhile _⟩

/-- The value of a binding, if it has one, holds no NUL. -/
def Binding.Clear (b : Binding) : Prop := ∀ value, b.value = some value → NulFree value

theorem leaves_binding (h : EnvFile.Clear s) : Leaves Binding.Clear (binding s) := by
  unfold binding
  refine Leaves.bind (leaves_name (clear_dropExport h)) fun bound rest _ hrest => ?_
  -- whatever the value is, the end of the line is read behind it
  have hline : ∀ value behind, (∀ text, value = some text → NulFree text) → EnvFile.Clear behind → Leaves Binding.Clear
      (Except.bind (endLine (dropComment behind)) fun taken => .ok (⟨bound, value⟩, taken.2)) := fun value behind hvalue hbehind =>
    (leaves_endLine (clear_dropComment hbehind)).bind fun _ _ _ hend => ⟨hvalue, hend⟩
  have hinline := clear_dropInline hrest
  dsimp only
  split
  · rename_i quoted heq
    have hvalue := leaves_value (clear_cons.mp (heq ▸ hinline)).2
    have hsome : Leaves (fun value => ∀ text, value = some text → NulFree text) _ :=
      hvalue.map fun text htext _ heq => Option.some.inj heq ▸ htext
    exact hsome.bind hline
  · exact hline none _ nofun hinline

theorem clear_of_mem_bindingsFrom {steps : Nat} {b : Binding} (h : EnvFile.Clear s) (hb : b ∈ bindingsFrom steps s) : b.Clear := by
  induction steps generalizing s with
  | zero => nomatch hb
  | succ steps ih =>
    have hbinding := leaves_binding (h.dropWhile isBlank)
    rw [bindingsFrom] at hb
    cases hrest : s.dropWhile isBlank with
    | nil =>
      rw [hrest] at hb
      nomatch hb
    | cons c r =>
      rw [hrest] at hb hbinding
      cases htaken : binding (c :: r) with
      | error behind =>
        rw [htaken] at hbinding
        simp only [htaken] at hb
        exact ih (clear_dropLine hbinding) hb
      | ok taken =>
        rw [htaken] at hbinding
        simp only [htaken] at hb
        rcases List.mem_cons.mp hb with rfl | hb
        · exact hbinding.1
        · exact ih hbinding.2 hb

/-! ## Values -/

theorem clear_joinLineEnds (h : Clear s) : Clear (joinLineEnds s) := by
  induction s using joinLineEnds.induct with
  | case1 r ih =>
    rw [joinLineEnds]
    exact clear_cons.mpr ⟨by decide, ih (clear_cons.mp (clear_cons.mp h).2).2⟩
  | case2 r hr ih =>
    rw [joinLineEnds.eq_2 _ hr]
    exact clear_cons.mpr ⟨by decide, ih (clear_cons.mp h).2⟩
  | case3 c r hpair hreturn ih =>
    rw [joinLineEnds.eq_3 _ _ hpair hreturn]
    exact clear_cons.mpr ⟨(clear_cons.mp h).1, ih (clear_cons.mp h).2⟩
  | case4 => exact clear_nil

theorem clear_dropMark (h : Clear s) : Clear (dropMark s) := by
  unfold dropMark
  split
  · exact (clear_cons.mp h).2
  · exact h

/-- The text for a missing name and the rest behind a reference hold no NUL. -/
theorem clear_reference? {reference : Reference} (h : Clear s) (hr : reference? s = some reference) :
    Clear reference.standard ∧ Clear reference.rest := by
  unfold reference? at hr
  split at hr
  rename_i name behind hcut
  have hbehind := (h.span hcut).2
  split at hr
  · cases hr
    exact ⟨clear_nil, (clear_cons.mp hbehind).2⟩
  · rename_i inner
    have hinner := (clear_cons.mp (clear_cons.mp hbehind).2).2
    split at hr
    · rename_i standard rest hstandard
      cases hr
      obtain ⟨hs, hrest⟩ := hinner.span hstandard
      exact ⟨hs, (clear_cons.mp hrest).2⟩
    · nomatch hr
  · nomatch hr

/-- A value with its references replaced holds no NUL when neither it nor what is found does. -/
theorem clear_expandFrom {lookup : String → Option (Option String)}
    (hl : ∀ name value, lookup name = some (some value) → NulFree value) {steps : Nat} (h : Clear s) :
    Clear (expandFrom lookup steps s) := by
  induction steps, s using expandFrom.induct lookup with
  | case1 s => exact h
  | case2 steps => exact clear_nil
  | case3 steps s reference hr ih =>
    have hs := (clear_cons.mp (clear_cons.mp h).2).2
    obtain ⟨hstandard, hrest⟩ := clear_reference? hs hr
    rw [expandFrom]
    simp only [hr]
    refine clear_append.mpr ⟨?_, ih hrest⟩
    cases hfound : lookup (String.ofList reference.name) with
    | none => exact nulFree_ofList.mpr hstandard
    | some found =>
      cases found with
      | none => exact clear_nil
      | some value => exact hl _ _ hfound
  | case4 steps s hr ih =>
    obtain ⟨hdollar, hs⟩ := clear_cons.mp h
    rw [expandFrom]
    simp only [hr]
    exact clear_cons.mpr ⟨hdollar, ih hs⟩
  | case5 steps c s hne ih =>
    rw [expandFrom.eq_4 _ _ _ _ hne]
    exact clear_cons.mpr ⟨(clear_cons.mp h).1, ih (clear_cons.mp h).2⟩

/-- No value that a name is bound to holds a NUL. -/
def Resolved.Clear (resolved : Resolved) : Prop := ∀ name value, (name, some value) ∈ resolved → NulFree value

theorem mem_bind {resolved : Resolved} {name : String} {value : Option String} {entry : String × Option String}
    (h : entry ∈ resolved.bind name value) : entry = (name, value) ∨ entry ∈ resolved := by
  induction resolved with
  | nil => exact .inl (List.mem_singleton.mp h)
  | cons first rest ih =>
    obtain ⟨key, old⟩ := first
    rw [Resolved.bind] at h
    split at h
    · rename_i hkey
      rcases List.mem_cons.mp h with h | h
      · exact .inl (h.trans (by rw [hkey]))
      · exact .inr (List.mem_cons_of_mem _ h)
    · rcases List.mem_cons.mp h with rfl | h
      · exact .inr List.mem_cons_self
      · exact (ih h).imp_right (List.mem_cons_of_mem _)

section

variable {environment : String → Option String}

/-- The names that are bound are those of the bindings. -/
theorem name_of_mem_resolve {bindings : List Binding} {entry : String × Option String} (h : entry ∈ resolve environment bindings) :
    ∃ b ∈ bindings, b.name = some entry.1 := by
  have hfrom : ∀ resolved : Resolved, entry ∈ bindings.foldl (resolveOne environment) resolved →
      entry ∈ resolved ∨ ∃ b ∈ bindings, b.name = some entry.1 := by
    clear h
    induction bindings with
    | nil => exact fun _ hm => .inl hm
    | cons b rest ih =>
      intro resolved hm
      rcases ih _ hm with hm | ⟨later, hlater, hname⟩
      · unfold resolveOne at hm
        split at hm
        · exact .inl hm
        · rename_i name hbound
          rcases mem_bind hm with rfl | hm
          · exact .inr ⟨b, List.mem_cons_self, hbound⟩
          · exact .inl hm
      · exact .inr ⟨later, List.mem_cons_of_mem _ hlater, hname⟩
  exact (hfrom [] h).resolve_left List.not_mem_nil

variable (he : ∀ name value, environment name = some value → NulFree value)
include he

/-- With one more binding no value holds a NUL. -/
theorem clear_resolveOne {resolved : Resolved} {b : Binding} (hr : resolved.Clear) (hb : b.Clear) :
    Resolved.Clear (resolveOne environment resolved b) := by
  unfold resolveOne
  split
  · exact hr
  · rename_i name hbound
    intro key value hm
    rcases mem_bind hm with heq | hm
    · obtain ⟨raw, hraw, rfl⟩ := Option.map_eq_some_iff.mp (Prod.mk.inj heq).2.symm
      refine nulFree_ofList.mpr (clear_expandFrom ?_ (hb raw hraw))
      -- what is found is bound in the file or has a value in the environment
      intro key found hfound
      cases hlookup : resolved.lookup key with
      | some bound =>
        rw [hlookup] at hfound
        exact hr key found (Option.some.inj hfound ▸ mem_of_lookup hlookup)
      | none =>
        rw [hlookup] at hfound
        obtain ⟨value, hvalue, heq⟩ := Option.map_eq_some_iff.mp hfound
        exact he key found (hvalue.trans heq)
    · exact hr key value hm

/-- Bindings without a NUL bind no value that holds one. -/
theorem clear_resolve {bindings : List Binding} (hb : ∀ b ∈ bindings, b.Clear) : Resolved.Clear (resolve environment bindings) := by
  have hfrom : ∀ resolved : Resolved, resolved.Clear → Resolved.Clear (bindings.foldl (resolveOne environment) resolved) := by
    induction bindings with
    | nil => exact fun _ hr => hr
    | cons b rest ih =>
      intro resolved hr
      obtain ⟨hfirst, hrest⟩ := List.forall_mem_cons.mp hb
      exact ih hrest _ (clear_resolveOne he hr hfirst)
  exact hfrom [] fun _ _ hm => nomatch hm

end

/-! ## The dialect -/

/-- The bindings of a file's text. -/
def bindingsOf (text : String) : List Binding := bindings (dropMark (joinLineEnds text.toList))

/-- How these files are written. -/
def dialect : Environment.Dialect where
  off := turnedOff
  bindings e text := resolve e.get? (bindingsOf text)

/-- A text in UTF-8 without a NUL can be read when none of the names that it binds is refused. -/
theorem readable_of_bindingsOf {octets : Bytes} {text : String} (ht : Text.ofUtf8? octets = some text) (hn : NulFree text)
    (hnames : ∀ b ∈ bindingsOf text, ∀ name, b.name = some name → Environment.refusal? name "" = none) :
    dialect.Readable (.content octets) := by
  refine .content ht hn fun e binding hm => ?_
  obtain ⟨b, hb, hname⟩ := name_of_mem_resolve hm
  exact hnames b hb binding.1 hname

/-- The loader of these files sets what they bind. -/
theorem follows_loader : loader.Follows dialect where
  sets := by
    intro e file hf
    cases hf with
    | directory => rfl
    | content htext _ _ =>
      have hoff : dialect.off e = turnedOff e := rfl
      unfold loader Environment.Dialect.writes
      simp only [htext, hoff]
      cases turnedOff e <;> rfl
  clear := by
    intro e text name value he ht hm
    have hclear : ∀ b ∈ bindingsOf text, b.Clear := fun b hb =>
      clear_of_mem_bindingsFrom (clear_dropMark (clear_joinLineEnds ht)) hb
    exact clear_resolve he hclear name value hm

end Keepalive.EnvFile
