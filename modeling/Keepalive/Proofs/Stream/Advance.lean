import Keepalive.Proofs.Outcome
import Keepalive.Stream.Reader

/-!
# Readers move along their streams

A reader goes from one state to the next by taking octets (`Reader.Advances`): they stood at the front of its stream, it
remembers them, and it has counted them, each once. Whatever is read, and however it ends, moves the reader in this way
(`Reading.Conserves`). What one call keeps of a stream is kept by a whole pull (`Stream.pull_keeps`). A stream that always gives
something of what it has left (`Stream.Steady`) gives every size whole as long as there is enough (`Steady.octets_pull`), so that a
field taken from it depends only on what remains (`Reader.take_of_steady`).
-/

namespace Keepalive

namespace Stream

/-- What one call keeps of a stream is kept by all the calls of a pull. -/
theorem pull_keeps (p : Stream → Prop) (hcall : ∀ (stream : Stream) (asked : Nat), p stream → p (stream.call asked).2)
    (missing : Nat) (stream : Stream) (h : p stream) : p (stream.pull missing).2 := by
  fun_induction pull missing stream with
  | case1 => exact h
  | case2 missing stream _ chunk next hc =>
    have hn := hcall stream missing h
    rwa [hc] at hn
  | case3 missing stream _ chunk next hc _ calls last hrest ih =>
    have hn := hcall stream missing h
    rw [hc] at hn
    have hl := ih hn
    rwa [hrest] at hl

/-! ## Streams that always give something -/

/-- Does every call bring octets as long as some are left, and never more than asked for? -/
def Steady : Stream → Prop
  | memory _ => True
  | limited limit _ => 0 < limit
  | scripted _ => False

/-- A call on a steady stream brings something as long as something is left and asked for. -/
theorem Steady.remaining_of_call_empty {stream : Stream} (h : stream.Steady) {asked : Nat} (ha : asked ≠ 0)
    (hc : (stream.call asked).1.length = 0) : stream.remaining = [] := by
  cases stream with
  | memory rest =>
    simp only [call, List.length_take] at hc
    have hr : rest.length = 0 := by omega
    exact List.eq_nil_of_length_eq_zero hr
  | limited limit rest =>
    have hl : 0 < limit := h
    simp only [call, List.length_take] at hc
    have hr : rest.length = 0 := by omega
    exact List.eq_nil_of_length_eq_zero hr
  | scripted chunks => exact h.elim

/-- A call on a steady stream brings no more than was asked for. -/
theorem Steady.length_call_le {stream : Stream} (h : stream.Steady) (asked : Nat) : (stream.call asked).1.length ≤ asked := by
  cases stream with
  | memory rest => exact List.length_take_le asked rest
  | limited limit rest => exact Nat.le_trans (List.length_take_le (min asked limit) rest) (Nat.min_le_left asked limit)
  | scripted chunks => exact h.elim

theorem Steady.call {stream : Stream} (h : stream.Steady) (asked : Nat) : (stream.call asked).2.Steady := by
  cases stream with
  | memory rest => exact h
  | limited limit rest => exact h
  | scripted chunks => exact h.elim

theorem Steady.pull {stream : Stream} (h : stream.Steady) (missing : Nat) : (stream.pull missing).2.Steady :=
  pull_keeps Steady (fun _ asked h => h.call asked) missing stream h

/-- Pulling from a steady stream brings what is asked for, or all that is left. -/
theorem Steady.octets_pull {stream : Stream} (h : stream.Steady) (missing : Nat) :
    Exchange.octets (stream.pull missing).1 = stream.remaining.take missing := by
  fun_induction Stream.pull missing stream with
  | case1 => rfl
  | case2 missing stream hm chunk next hcall hc =>
    have he : stream.remaining = [] := h.remaining_of_call_empty hm (by rw [hcall]; exact hc)
    have hn : chunk = [] := List.eq_nil_of_length_eq_zero hc
    rw [he, hn, List.take_nil]
    rfl
  | case3 missing stream _ chunk next hcall _ calls last hrest ih =>
    -- the chunk stands in front of what remains, and the calls after it bring the rest
    have hn := h.call missing
    have hr := remaining_call stream missing
    have hl := h.length_call_le missing
    rw [hcall] at hn hr hl
    have hi := ih hn
    rw [hrest] at hi
    rw [← hr, List.take_append, List.take_of_length_le hl, ← hi]
    rfl

/-- A steady stream answers every call for less than the limit of sizes. -/
theorem Steady.not_refuses {stream : Stream} (h : stream.Steady) {asked : Nat} (ha : asked < sizeLimit) :
    stream.refuses asked = false := by
  cases stream with
  | memory rest => exact decide_eq_false (Nat.not_le_of_lt ha)
  | limited limit rest => exact decide_eq_false (Nat.not_le_of_lt (Nat.lt_of_le_of_lt (Nat.min_le_left asked limit) ha))
  | scripted chunks => exact h.elim

end Stream

/-! ## Moving on -/

namespace Reader

/-- A reader has moved on by taking octets. -/
structure Advances (before after : Reader) (octets : Bytes) : Prop where
  remaining : before.stream.remaining = octets ++ after.stream.remaining
  drawn : after.drawn = before.drawn ++ octets
  consumed : after.consumed = before.consumed + octets.length
  /-- the stream is still of the kind it was -/
  steady : before.stream.Steady → after.stream.Steady

namespace Advances

theorem refl (reader : Reader) : reader.Advances reader [] :=
  ⟨rfl, (List.append_nil _).symm, rfl, id⟩

/-- A reader that has taken nothing yet. -/
theorem start (reader : Reader) : reader.Advances reader (reader.stream.remaining.take 0) :=
  refl reader

theorem trans {a b c : Reader} {first second : Bytes} (h : a.Advances b first) (h' : b.Advances c second) :
    a.Advances c (first ++ second) where
  remaining := by rw [h.remaining, h'.remaining, List.append_assoc]
  drawn := by rw [h'.drawn, h.drawn, List.append_assoc]
  consumed := by rw [h'.consumed, h.consumed, List.length_append, Nat.add_assoc]
  steady := h'.steady ∘ h.steady

/-- Only one run of octets takes a reader from one state to another. -/
theorem octets_unique {a b : Reader} {octets octets' : Bytes} (h : a.Advances b octets) (h' : a.Advances b octets') :
    octets = octets' :=
  List.append_cancel_left (h.drawn.symm.trans h'.drawn)

/-- What is left behind the octets that were taken. -/
theorem remaining_eq_drop {a b : Reader} {n : Nat} (h : a.Advances b (a.stream.remaining.take n)) :
    b.stream.remaining = a.stream.remaining.drop n := by
  have hr := h.remaining
  rw [← List.append_cancel_left_eq, ← hr, List.take_append_drop]

/-- Taking twice is taking as many at once. -/
theorem take_trans {a b c : Reader} {m n : Nat} (h : a.Advances b (a.stream.remaining.take m))
    (h' : b.Advances c (b.stream.remaining.take n)) : a.Advances c (a.stream.remaining.take (m + n)) := by
  have ht := h.trans h'
  rwa [h.remaining_eq_drop, ← List.take_add] at ht

/-- Taking more than there is takes all. -/
theorem take_length {a b : Reader} {n : Nat} (h : a.Advances b (a.stream.remaining.take n))
    (hn : a.stream.remaining.length ≤ n) : a.Advances b (a.stream.remaining.take a.stream.remaining.length) := by
  rwa [List.take_of_length_le hn, ← List.take_length (l := a.stream.remaining)] at h

end Advances

/-- Calling for octets moves a reader on by those that came. -/
theorem advances_pull (reader : Reader) (missing : Nat) :
    reader.Advances (reader.pull missing).2 (reader.pull missing).1 where
  remaining := (Stream.remaining_pull missing reader.stream).symm
  drawn := List.flatMap_append
  consumed := rfl
  steady := fun h => h.pull missing

end Reader

/-! ## Readings -/

namespace Reading

variable {α β : Type}

/-- Readings in a row: the second starts where the first ended, unless that failed. -/
theorem bind_apply (first : Reading α) (next : α → Reading β) (reader : Reader) :
    (first >>= next) reader =
      match first reader with
      | (.ok a, after) => next a after
      | (.error fault, after) => (.error fault, after) := by
  show ExceptT.bindCont next (first reader).1 (first reader).2 = _
  cases first reader with
  | mk outcome after => cases outcome <;> rfl

/-- Seeing what was read as something else reads nothing more. -/
theorem map_apply (f : α → β) (reading : Reading α) (reader : Reader) :
    (f <$> reading) reader = ((reading reader).1.map f, (reading reader).2) := by
  rw [map_eq_pure_bind, bind_apply]
  cases reading reader with
  | mk outcome after => cases outcome <;> rfl

/-- What nothing read is seen as is never given. -/
theorem map_ne_ok {f : α → β} {b : β} (hf : ∀ a, f a ≠ b) (reading : Reading α) (reader : Reader) :
    ((f <$> reading) reader).1 ≠ .ok b := by
  rw [map_apply]
  intro h
  obtain ⟨a, -, ha⟩ := Outcome.map_eq_ok.mp h
  exact hf a ha

/-- However a reading ends, it moves the reader on by the octets it took. -/
def Conserves (reading : Reading α) : Prop :=
  ∀ reader : Reader, ∃ octets, reader.Advances (reading reader).2 octets

theorem conserves_pure (a : α) : Conserves (pure a) :=
  fun reader => ⟨[], Reader.Advances.refl reader⟩

theorem conserves_throw (fault : ReadFault) : Conserves (throw fault : Reading α) :=
  fun reader => ⟨[], Reader.Advances.refl reader⟩

theorem Conserves.bind {first : Reading α} {next : α → Reading β} (h : Conserves first) (h' : ∀ a, Conserves (next a)) :
    Conserves (first >>= next) := by
  intro reader
  obtain ⟨octets, ha⟩ := h reader
  rw [bind_apply]
  cases hr : first reader with
  | mk outcome after =>
    rw [hr] at ha
    cases outcome with
    | error fault => exact ⟨octets, ha⟩
    | ok a =>
      obtain ⟨more, hb⟩ := h' a after
      exact ⟨octets ++ more, ha.trans hb⟩

theorem Conserves.map {reading : Reading α} (h : Conserves reading) (f : α → β) : Conserves (f <$> reading) := by
  intro reader
  rw [map_apply]
  exact h reader

end Reading

namespace Reader

/-- A size that the stream is not asked for leaves the reader where it is. -/
theorem take_of_refuses {reader : Reader} {size : Int} (h : reader.stream.refuses size.toNat = true) (field : String) :
    take size field reader = (.error .oversized, reader) := by
  rw [take, if_pos h]

/-- Any other size is called for, and what came is the field when it has the size. -/
theorem take_of_not_refuses {reader : Reader} {size : Int} (h : reader.stream.refuses size.toNat = false) (field : String) :
    take size field reader =
      (if ((reader.pull size.toNat).1.length : Int) = size then .ok (reader.pull size.toNat).1
        else .error (.short field size (reader.pull size.toNat).1.length), (reader.pull size.toNat).2) := by
  rw [take, h, if_neg Bool.false_ne_true]
  cases reader.pull size.toNat with
  | mk octets after => by_cases hs : (octets.length : Int) = size <;> simp only [hs, if_true, if_false]

/-- Taking a field moves the reader on, whatever comes. -/
theorem conserves_take (size : Int) (field : String) : Reading.Conserves (take size field) := by
  intro reader
  cases hr : reader.stream.refuses size.toNat with
  | true =>
    rw [take_of_refuses hr]
    exact ⟨[], Advances.refl reader⟩
  | false =>
    rw [take_of_not_refuses hr]
    exact ⟨_, reader.advances_pull size.toNat⟩

/-- A field that is given is what the reader took for it. -/
theorem advances_of_take {reader : Reader} {size : Int} {field : String} {octets : Bytes}
    (h : (take size field reader).1 = .ok octets) : reader.Advances (take size field reader).2 octets := by
  cases hr : reader.stream.refuses size.toNat with
  | true =>
    rw [take_of_refuses hr] at h
    nomatch h
  | false =>
    rw [take_of_not_refuses hr] at h ⊢
    by_cases hs : ((reader.pull size.toNat).1.length : Int) = size
    · rw [if_pos hs] at h
      exact Except.ok.inj h ▸ reader.advances_pull size.toNat
    · rw [if_neg hs] at h
      nomatch h

theorem conserves_skip (size : Int) (field : String) : Reading.Conserves (skip size field) :=
  (conserves_take size field).bind fun _ => Reading.conserves_pure ()

theorem conserves_code (expected : Int) : Reading.Conserves (code expected) := by
  refine (conserves_take 1 "code").bind fun octets => ?_
  by_cases h : (Bytes.ofLittle octets : Int) ≠ expected
  · rw [if_pos h]
    exact Reading.conserves_throw _
  · rw [if_neg h]
    exact Reading.conserves_pure ()

/-- A field taken from a steady stream: the octets at its front when there are enough, else the fault that counts them all. -/
theorem take_of_steady {reader : Reader} (h : reader.stream.Steady) {size : Nat} (hs : size < Stream.sizeLimit)
    (field : String) : ∃ after, reader.Advances after (reader.stream.remaining.take size) ∧
      take size field reader =
        (if size ≤ reader.stream.remaining.length then .ok (reader.stream.remaining.take size)
          else .error (.truncated field size reader.stream.remaining.length), after) := by
  have ho : (reader.pull size).1 = reader.stream.remaining.take size := h.octets_pull size
  have hr : reader.stream.refuses (size : Int).toNat = false := h.not_refuses hs
  have ha := reader.advances_pull size
  rw [ho] at ha
  refine ⟨(reader.pull size).2, ha, ?_⟩
  rw [take_of_not_refuses hr, Int.toNat_natCast, ho, List.length_take]
  by_cases hl : size ≤ reader.stream.remaining.length
  · rw [if_pos hl, if_pos (by omega)]
  · have hsize : (size : Int) < 0x8000000000000000 := by
      rw [Stream.sizeLimit] at hs
      omega
    rw [if_neg hl, if_neg (by omega), Nat.min_eq_right (by omega),
      ReadFault.short_of_fits (Numeral.fits_of_lt (by omega) hsize) (Numeral.fits_of_lt (by omega) (by omega))]

variable {α : Type}

/-- Behind so many octets of a steady stream: a field that is there whole is taken, and what follows goes on with it. -/
theorem Advances.take_whole {a b : Reader} {n size : Nat} (h : a.Advances b (a.stream.remaining.take n))
    (hb : b.stream.Steady) (hs : size < Stream.sizeLimit) (hl : n + size ≤ a.stream.remaining.length) (field : String)
    (next : Bytes → Reading α) : ∃ c, a.Advances c (a.stream.remaining.take (n + size)) ∧
      (take size field >>= next) b = next ((a.stream.remaining.drop n).take size) c := by
  obtain ⟨c, hc, ht⟩ := take_of_steady hb hs field
  have hlb : size ≤ b.stream.remaining.length := by
    rw [h.remaining_eq_drop, List.length_drop]
    omega
  refine ⟨c, h.take_trans hc, ?_⟩
  rw [Reading.bind_apply, ht, if_pos hlb, h.remaining_eq_drop]

/-- Behind so many octets of a steady stream: a field that is cut short is the end, and all octets are taken. -/
theorem Advances.take_short {a b : Reader} {n size : Nat} (h : a.Advances b (a.stream.remaining.take n))
    (hb : b.stream.Steady) (hs : size < Stream.sizeLimit) (hn : n ≤ a.stream.remaining.length)
    (hl : a.stream.remaining.length < n + size) (field : String) (next : Bytes → Reading α) :
    ∃ c, a.Advances c (a.stream.remaining.take a.stream.remaining.length) ∧
      (take size field >>= next) b = (.error (.truncated field size (a.stream.remaining.length - n)), c) := by
  obtain ⟨c, hc, ht⟩ := take_of_steady hb hs field
  have hlb : b.stream.remaining.length = a.stream.remaining.length - n := by
    rw [h.remaining_eq_drop, List.length_drop]
  have hi : (b.stream.remaining.length : Int) = a.stream.remaining.length - n := by omega
  refine ⟨c, (h.take_trans hc).take_length (Nat.le_of_lt hl), ?_⟩
  rw [Reading.bind_apply, ht, if_neg (by omega), hi]

end Reader

end Keepalive
