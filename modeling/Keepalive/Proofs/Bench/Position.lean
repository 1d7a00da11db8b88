import Keepalive.Bench
import Keepalive.Proofs.Challenge.Decoding

/-!
# Readers that have read before

A reader of a byte string may have carried out any tasks, and some may have failed (`Reader.Reached`). Where it stands is what
it has counted: behind so many octets of the byte string. A response read from there is the one at the beginning of the
octets left over, with the same outcome, and the counter grows by what that outcome takes (`parse_at_position`).
-/

namespace Keepalive

/-- Reading a response moves the reader on, whatever comes. -/
theorem Challenge.Response.conserves_read : Reading.Conserves Challenge.Response.read := by
  refine (Reader.conserves_code _).bind fun _ => (Reader.conserves_skip _ _).bind fun _ => ?_
  exact (Reader.conserves_take _ _).bind fun _ => (Reader.conserves_take _ _).bind fun _ => Reading.conserves_pure _

/-- Every task moves the reader on, whatever comes. -/
theorem Task.conserves_reading (task : Task) : Reading.Conserves task.reading := by
  cases task with
  | read size field => exact (Reader.conserves_take size field).map _
  | skip size field => exact (Reader.conserves_skip size field).map _
  | validate code => exact (Reader.conserves_code _).map _
  | parse => exact Challenge.Response.conserves_read.map _

/-- The readers of a byte string: one just made, and one that has carried out a task, whether that failed or not. -/
inductive Reader.Reached (data : Bytes) : Reader → Prop where
  | made : Reached data (Reader.ofBytes data)
  | task {reader : Reader} (task : Task) : Reached data reader → Reached data (task.reading reader).2

namespace Reader

/-- A reader of a byte string stands on octets in memory, behind as many as it has counted. -/
theorem Reached.standing {data : Bytes} {reader : Reader} (h : Reached data reader) :
    reader.stream.Steady ∧ reader.stream.remaining = data.drop reader.consumed := by
  induction h with
  | made => exact ⟨trivial, rfl⟩
  | @task reader task _ ih =>
    obtain ⟨octets, ha⟩ := task.conserves_reading reader
    refine ⟨ha.steady ih.1, ?_⟩
    rw [ha.consumed, ← List.drop_drop, ← ih.2, ha.remaining, List.drop_left]

/-- Every place in a byte string is reached: by reading octets one by one. -/
theorem exists_reached {data : Bytes} {place : Nat} (h : place ≤ data.length) :
    ∃ reader, Reached data reader ∧ reader.consumed = place := by
  induction place with
  | zero => exact ⟨ofBytes data, .made, rfl⟩
  | succ place ih =>
    obtain ⟨reader, hr, hc⟩ := ih (Nat.le_of_succ_le h)
    have hs : 1 < Stream.sizeLimit := by decide
    obtain ⟨after, ha, ht⟩ := take_of_steady hr.standing.1 hs "data"
    have hm : ((Task.read 1 "data").reading reader).2 = after := by
      rw [Task.reading, Reading.map_apply]
      exact congrArg Prod.snd ht
    refine ⟨after, hm ▸ hr.task (.read 1 "data"), ?_⟩
    rw [ha.consumed, hr.standing.2, hc, List.length_take, List.length_drop]
    omega

end Reader

namespace Challenge.Response

/-- A reader that stands at a place of a byte string reads a response as it is read from the octets from there on alone. Their
first octet and their number decide what comes of it, and the counter grows by the octets that are taken. -/
theorem parse_at_position (data : Bytes) (place : Nat) (hp : place ≤ data.length) :
    (∃ reader, Reader.Reached data reader ∧ reader.consumed = place) ∧
      ∀ reader, Reader.Reached data reader → reader.consumed = place →
        (read reader).1 = ofBytes (data.drop place) ∧
          ∀ outcome count, Decodes (data.drop place) outcome count ↔
            (read reader).1 = outcome ∧ (read reader).2.consumed = place + count := by
  refine ⟨Reader.exists_reached hp, ?_⟩
  intro reader hr hc
  obtain ⟨hs, hrest⟩ := hr.standing
  rw [hc] at hrest
  have hread : ∀ outcome count, Decodes (data.drop place) outcome count →
      (read reader).1 = outcome ∧ (read reader).2.consumed = place + count := by
    intro outcome count hd
    have hle := hd.count_le
    rw [← hrest] at hd hle
    obtain ⟨after, ha, ht⟩ := read_of_decodes hs hd
    rw [ht, ha.consumed, hc, List.length_take, Nat.min_eq_left hle]
    exact ⟨rfl, rfl⟩
  obtain ⟨outcome, count, hd⟩ := exists_decodes (data.drop place)
  obtain ⟨ho, hk⟩ := hread outcome count hd
  constructor
  · have hm : (Reader.ofBytes (data.drop place)).stream.Steady := trivial
    obtain ⟨after, -, ht⟩ := read_of_decodes hm hd
    rw [ho, ofBytes, ht]
  · intro outcome' count'
    refine ⟨hread outcome' count', ?_⟩
    rintro ⟨rfl, hk'⟩
    -- the way in which the octets are read is the only one that gives this outcome and this count
    have hcount : count' = count := by omega
    rw [ho, hcount]
    exact hd

/-- An octet that begins no response, and a response behind it. -/
def behindJunk : Bytes := [1, 7, 0, 0, 0, 0, 0, 0, 0, 4, 3, 2, 1, 10, 0, 0, 1]

/-- Behind the first octet the response is read. -/
theorem parse_at_position_behind_junk :
    1 ≤ behindJunk.length ∧ ∃ reader, Reader.Reached behindJunk reader ∧ reader.consumed = 1 ∧
      (read reader).1 = .ok ⟨0x01020304, ⟨0x0A000001⟩⟩ ∧ (read reader).2.consumed = 1 + 16 := by
  obtain ⟨⟨reader, hr, hc⟩, hread⟩ := parse_at_position behindJunk 1 (by decide)
  have hd : Decodes (behindJunk.drop 1) (.ok ⟨0x01020304, ⟨0x0A000001⟩⟩) 16 :=
    .response rfl (by decide) rfl rfl
  exact ⟨by decide, reader, hr, hc, ((hread reader hr hc).2 _ _).mp hd⟩

end Challenge.Response

end Keepalive
