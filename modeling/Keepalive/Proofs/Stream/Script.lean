import Keepalive.Proofs.Stream.Advance
import Mathlib.Algebra.Ring.Int.Defs

/-!
# Fields from chunks

A script answers each call with its next chunk, however long that is, with nothing for a chunk that is absent, and with nothing
for ever when it has ended. What the first so many calls answer (`Stream.answered`) is known from the script alone. How many calls
a size takes is known from that (`Stream.Fills`): each call is made while octets are missing and behind answers that are not
empty, and the last one brings enough or nothing. A field taken from a script makes just these calls, each for what is missing
(`Reader.take_of_script`).
-/

namespace Keepalive

namespace Stream

/-- The answer to a call on a script, calls counted from zero. -/
def answer (chunks : List (Option Bytes)) (place : Nat) : Bytes := chunks[place]?.join.getD []

/-- The octets of the first so many answers, in order. -/
def answered (chunks : List (Option Bytes)) (count : Nat) : Bytes := (List.range count).flatMap (answer chunks)

/-- The first so many calls for a field of a size: each is for the octets that are missing when it is made. -/
def callsFor (chunks : List (Option Bytes)) (size count : Nat) : List Exchange :=
  (List.range count).map fun place => ⟨size - (answered chunks place).length, answer chunks place⟩

/-- A field of a size takes so many calls on a script. -/
structure Fills (chunks : List (Option Bytes)) (size count : Nat) : Prop where
  /-- octets are missing at every call -/
  missing : ∀ place < count, (answered chunks place).length < size
  /-- every answer but the last brings something -/
  goesOn : ∀ place, place + 1 < count → answer chunks place ≠ []
  /-- then there are enough octets, or the last answer brought nothing -/
  stops : size ≤ (answered chunks count).length ∨ ∃ place, place + 1 = count ∧ answer chunks place = []

/-! ## Answers one after another -/

/-- Behind the first answer the answers are those of the rest of the script. -/
theorem answer_succ (chunks : List (Option Bytes)) (place : Nat) : answer chunks (place + 1) = answer chunks.tail place := by
  rw [answer, answer, List.getElem?_tail]

/-- The first answer stands before those of the rest of the script. -/
theorem answered_succ (chunks : List (Option Bytes)) (count : Nat) :
    answered chunks (count + 1) = answer chunks 0 ++ answered chunks.tail count := by
  rw [answered, List.range_succ_eq_map, List.flatMap_cons, List.flatMap_map, funext (answer_succ chunks), answered]

/-- Each answer stands behind those before it. -/
theorem answered_concat (chunks : List (Option Bytes)) (count : Nat) :
    answered chunks (count + 1) = answered chunks count ++ answer chunks count := by
  rw [answered, List.range_succ, List.flatMap_append, List.flatMap_singleton, answered]

/-- A call on a script takes its first chunk, whatever is asked for. -/
theorem call_scripted (asked : Nat) (chunks : List (Option Bytes)) :
    call asked (scripted chunks) = (answer chunks 0, scripted chunks.tail) := by
  cases chunks with
  | nil => rfl
  | cons chunk chunks => rfl

/-- The calls behind the first are those for what is missing after it. -/
theorem callsFor_succ (chunks : List (Option Bytes)) (size count : Nat) :
    callsFor chunks size (count + 1) =
      ⟨size, answer chunks 0⟩ :: callsFor chunks.tail (size - (answer chunks 0).length) count := by
  rw [callsFor, List.range_succ_eq_map, List.map_cons, List.map_map]
  refine congrArg (List.cons _) (List.map_congr_left fun place _ => ?_)
  show Exchange.mk (size - (answered chunks (place + 1)).length) (answer chunks (place + 1)) = _
  rw [answered_succ, answer_succ, List.length_append, Nat.sub_add_eq]

/-- Each call stands behind those before it. -/
theorem callsFor_concat (chunks : List (Option Bytes)) (size count : Nat) :
    callsFor chunks size (count + 1) =
      callsFor chunks size count ++ [⟨size - (answered chunks count).length, answer chunks count⟩] := by
  rw [callsFor, List.range_succ, List.map_append, callsFor, List.map_singleton]

/-- The calls bring the answers. -/
theorem octets_callsFor (chunks : List (Option Bytes)) (size count : Nat) :
    Exchange.octets (callsFor chunks size count) = answered chunks count := by
  rw [Exchange.octets, callsFor, List.flatMap_map, answered]

/-! ## How many calls a size takes -/

namespace Fills

variable {chunks : List (Option Bytes)} {size count : Nat}

/-- A size of nothing takes no call. -/
theorem zero (chunks : List (Option Bytes)) : Fills chunks 0 0 :=
  ⟨fun _ h => absurd h (Nat.not_lt_zero _), fun _ h => absurd h (Nat.not_lt_zero _), .inl (Nat.zero_le _)⟩

/-- One call is all when it brings nothing. -/
theorem one (hs : 0 < size) (h : answer chunks 0 = []) : Fills chunks size 1 := by
  refine ⟨fun place hp => ?_, fun place hp => ?_, .inr ⟨0, rfl, h⟩⟩
  · rw [Nat.lt_one_iff.mp hp]
    exact hs
  · exact absurd hp (by omega)

/-- A call that brings something is followed by the calls for what is missing after it. -/
theorem next (hs : 0 < size) (h : answer chunks 0 ≠ [])
    (hrest : Fills chunks.tail (size - (answer chunks 0).length) count) : Fills chunks size (count + 1) where
  missing := by
    intro place hp
    cases place with
    | zero => exact hs
    | succ place =>
      have hm := hrest.missing place (Nat.lt_of_succ_lt_succ hp)
      rw [answered_succ, List.length_append]
      omega
  goesOn := by
    intro place hp
    cases place with
    | zero => exact h
    | succ place =>
      have hg := hrest.goesOn place (Nat.lt_of_succ_lt_succ hp)
      rwa [← answer_succ] at hg
  stops := by
    rcases hrest.stops with henough | ⟨place, rfl, hempty⟩
    · left
      rw [answered_succ, List.length_append]
      omega
    · right
      refine ⟨place + 1, rfl, ?_⟩
      rwa [← answer_succ] at hempty

/-- As long as calls go on, each has brought something. -/
theorem le_length_answered (h : Fills chunks size count) {place : Nat} (hp : place < count) :
    place ≤ (answered chunks place).length := by
  induction place with
  | zero => exact Nat.zero_le _
  | succ place ih =>
    have hbefore := ih (Nat.lt_of_succ_lt hp)
    have hsome : 0 < (answer chunks place).length := List.length_pos_iff.mpr (h.goesOn place hp)
    rw [answered_concat, List.length_append]
    omega

/-- A size takes no more calls than it has octets. -/
theorem count_le (h : Fills chunks size count) : count ≤ size := by
  cases count with
  | zero => exact Nat.zero_le _
  | succ place =>
    have hlast := h.missing place (Nat.lt_succ_self place)
    have hbrought := h.le_length_answered (Nat.lt_succ_self place)
    omega

/-- No call is for nothing. -/
theorem asked_pos (h : Fills chunks size count) {call : Exchange} (hc : call ∈ callsFor chunks size count) : 0 < call.asked := by
  obtain ⟨place, hplace, rfl⟩ := List.mem_map.mp hc
  exact Nat.sub_pos_of_lt (h.missing place (List.mem_range.mp hplace))

/-- There are more octets than the size exactly when the last call brought more than it asked for. -/
theorem lt_length_answered_iff (h : Fills chunks size count) :
    size < (answered chunks count).length ↔
      ∃ last, (callsFor chunks size count).getLast? = some last ∧ last.asked < last.chunk.length := by
  cases count with
  | zero =>
    constructor
    · exact fun hmore => absurd hmore (Nat.not_lt_zero _)
    · rintro ⟨last, hlast, -⟩
      nomatch hlast
  | succ place =>
    have hmissing := h.missing place (Nat.lt_succ_self place)
    rw [callsFor_concat, List.getLast?_concat, answered_concat, List.length_append]
    constructor
    · intro hmore
      refine ⟨_, rfl, ?_⟩
      dsimp only
      omega
    · rintro ⟨last, hlast, hover⟩
      rw [← Option.some.inj hlast] at hover
      dsimp only at hover
      omega

end Fills

/-- Pulling a size from a script makes the calls that the size takes, and leaves the rest of the script. -/
theorem exists_fills_pull (size : Nat) (chunks : List (Option Bytes)) :
    ∃ count, Fills chunks size count ∧ pull size (scripted chunks) = (callsFor chunks size count, scripted (chunks.drop count)) := by
  generalize hstream : scripted chunks = stream
  fun_induction pull size stream generalizing chunks with
  | case1 => exact ⟨0, Fills.zero chunks, by rw [← hstream]; rfl⟩
  | case2 size stream hsize chunk next hcall hempty =>
    rw [← hstream, call_scripted] at hcall
    obtain ⟨rfl, rfl⟩ := Prod.mk.inj hcall
    refine ⟨1, Fills.one (Nat.pos_of_ne_zero hsize) (List.eq_nil_of_length_eq_zero hempty), ?_⟩
    rw [callsFor_succ, List.drop_one]
    rfl
  | case3 size stream hsize chunk next hcall hsome calls last hrest ih =>
    rw [← hstream, call_scripted] at hcall
    obtain ⟨rfl, rfl⟩ := Prod.mk.inj hcall
    obtain ⟨count, hfills, hpull⟩ := ih chunks.tail rfl
    rw [hrest] at hpull
    obtain ⟨rfl, rfl⟩ := Prod.mk.inj hpull
    refine ⟨count + 1, hfills.next (Nat.pos_of_ne_zero hsize) fun h => hsome (by rw [h]; rfl), ?_⟩
    rw [callsFor_succ, List.drop_tail]

end Stream

namespace Reader

open Keepalive.Stream

/-- A size that is not above zero is asked of no stream: nothing is given for none, and less is refused. -/
theorem take_of_nonpos {size : Int} (h : size ≤ 0) (field : String) (reader : Reader) :
    take size field reader = (if size = 0 then .ok [] else .error (.short field size 0), reader) := by
  have hnone : size.toNat = 0 := Int.toNat_of_nonpos h
  have hrefuses : reader.stream.refuses size.toNat = false := by
    rw [hnone]
    cases reader.stream with
    | memory rest => rfl
    | limited limit rest =>
      rw [refuses, Nat.zero_min]
      rfl
    | scripted chunks => rfl
  have hpull : reader.pull size.toNat = ([], reader) := by
    rw [hnone, pull, Stream.pull, if_pos rfl]
    exact congrArg (fun calls => ([], Reader.mk _ _ calls)) (List.append_nil reader.calls)
  rw [take_of_not_refuses hrefuses, hpull]
  by_cases hzero : size = 0
  · subst hzero
    rfl
  · rw [if_neg hzero]
    exact congrArg (·, reader) (if_neg (Ne.symm hzero))

/-- A field taken from a script of chunks. A size above zero takes at most so many calls, each for the octets that are missing,
and ends when there are enough or when an answer is empty. The octets that came are the field when they are as many as its size,
and are counted in the fault when they are not; they are more exactly when the last call brought more than it asked for. A size of
nothing is given, and a size below zero refused, without a call. In every case the counter grows by the octets that came. The fault
is that the field is cut short, with the size and the octets that came, but for a number among the two that cannot be written. -/
theorem take_of_script (chunks : List (Option Bytes)) (consumed : Nat) (calls : List Exchange) (size : Int) (field : String) :
    (0 < size → ∃ count : Nat, (count : Int) ≤ size ∧ Fills chunks size.toNat count ∧
      (∀ call ∈ callsFor chunks size.toNat count, 0 < call.asked) ∧
      take size field ⟨.scripted chunks, consumed, calls⟩ =
        (if ((answered chunks count).length : Int) = size then .ok (answered chunks count)
          else .error (.short field size (answered chunks count).length),
        ⟨.scripted (chunks.drop count), consumed + (answered chunks count).length,
          calls ++ callsFor chunks size.toNat count⟩) ∧
      (size < (answered chunks count).length ↔
        ∃ last, (callsFor chunks size.toNat count).getLast? = some last ∧ last.asked < last.chunk.length)) ∧
    (size = 0 → take size field ⟨.scripted chunks, consumed, calls⟩ = (.ok [], ⟨.scripted chunks, consumed, calls⟩)) ∧
    (size < 0 → take size field ⟨.scripted chunks, consumed, calls⟩ =
      (.error (.short field size 0), ⟨.scripted chunks, consumed, calls⟩)) ∧
    ∀ received : Int, ReadFault.short field size received =
      if Numeral.fits size ∧ Numeral.fits received then .truncated field size received else .longNumber := by
  refine ⟨fun hpos => ?_, fun hzero => ?_, fun hneg => ?_, fun received => ?_⟩
  · obtain ⟨count, hfills, hcalls⟩ := exists_fills_pull size.toNat chunks
    have hpull : pull size.toNat ⟨.scripted chunks, consumed, calls⟩ = (answered chunks count, ⟨.scripted (chunks.drop count),
        consumed + (answered chunks count).length, calls ++ callsFor chunks size.toNat count⟩) := by
      rw [pull, hcalls]
      simp only [octets_callsFor]
    have htake : take size field ⟨.scripted chunks, consumed, calls⟩ = _ := take_of_not_refuses rfl field
    rw [hpull] at htake
    have hcount := hfills.count_le
    refine ⟨count, by omega, hfills, fun call hc => hfills.asked_pos hc, htake, ?_⟩
    rw [← hfills.lt_length_answered_iff]
    omega
  · rw [take_of_nonpos (Int.le_of_eq hzero), if_pos hzero]
  · rw [take_of_nonpos (Int.le_of_lt hneg), if_neg (Int.ne_of_lt hneg)]
  · by_cases hfits : Numeral.fits size ∧ Numeral.fits received
    · rw [if_pos hfits, ReadFault.short_of_fits hfits.1 hfits.2]
    · rw [if_neg hfits, ReadFault.short_of_not_fits]
      simpa [Decidable.imp_iff_not_or] using hfits

/-- A size below zero that cannot be written is refused as that, whatever the reader reads, and a size that memory cannot be asked
for is turned down. Neither is the fault of a field that is cut short. -/
theorem not_truncated_of_unwritable :
    take (-(10 ^ 4300)) "data" (onStream (.scripted [])) = (.error .longNumber, onStream (.scripted [])) ∧
    take (-(10 ^ 4300)) "data" (ofBytes []) = (.error .longNumber, ofBytes []) ∧
    take (2 ^ 63) "data" (ofBytes [7]) = (.error .oversized, ofBytes [7]) ∧
    ∀ fault ∈ [ReadFault.longNumber, .oversized], ∀ field expected received, fault ≠ .truncated field expected received := by
  have hsize : (-(10 ^ 4300) : Int) ≤ 0 := by decide +kernel
  have hzero : (-(10 ^ 4300) : Int) ≠ 0 := by decide +kernel
  have hlong : ReadFault.short "data" (-(10 ^ 4300)) 0 = .longNumber :=
    ReadFault.short_of_not_fits (.inl (by decide +kernel)) "data"
  have hrefused : ∀ reader, take (-(10 ^ 4300)) "data" reader = (.error .longNumber, reader) := by
    intro reader
    rw [take_of_nonpos hsize, if_neg hzero, hlong]
  refine ⟨hrefused _, hrefused _, take_of_refuses (by decide +kernel) "data", ?_⟩
  intro fault hm
  simp only [List.mem_cons, List.not_mem_nil, or_false] at hm
  rcases hm with rfl | rfl
  · nofun
  · nofun

end Reader

end Keepalive
