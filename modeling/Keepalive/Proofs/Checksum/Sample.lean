import Keepalive.Checksum.Sample
import Keepalive.Proofs.Bytes.Places

/-!
# What a mode keeps of its digest

A sample keeps the octets at those offsets that lie in the digest, in order (`sample_eq`). The built-in offsets of every mode lie
in its digest (`inside_retained`), so the checksum of a mode always exists (`checksum_eq`). The seed selects one of three modes
(`ofSeed_cases`).
-/

namespace Keepalive.Mode

/-- The offsets that lie in a digest, in order and as often as they are given. -/
def inside (digest : Bytes) (offsets : List Nat) : List Nat := offsets.filter (· < digest.length)

/-- The octets of a digest at the offsets that lie in it, in the order of the list. -/
theorem sample_eq (digest : Bytes) (offsets : List Nat) :
    sample digest offsets = (inside digest offsets).map (digest.getD · 0) := by
  rw [inside]
  induction offsets with
  | nil => rfl
  | cons i offsets ih =>
    by_cases hi : i < digest.length
    · have h : digest[i]? = some (digest.getD i 0) := by simp [hi]
      rw [sample, List.filterMap_cons_some h, List.filter_cons_of_pos (by simpa using hi), List.map_cons, ← ih, sample]
    · have h : digest[i]? = none := List.getElem?_eq_none (by omega)
      rw [sample, List.filterMap_cons_none h, List.filter_cons_of_neg (by simpa using hi), ← ih, sample]

/-- The built-in offsets of a mode are as many as a checksum has octets. -/
theorem length_retained (mode : Mode) : mode.retained.length = checksumLength := by
  cases mode <;> rfl

/-- The built-in offsets of a mode are below the length of its digest. -/
theorem retained_lt (mode : Mode) : ∀ i ∈ mode.retained, i < mode.digestLength := by
  cases mode <;> decide

/-- All built-in offsets of a mode lie in its digest, whatever the data. -/
theorem inside_retained (mode : Mode) (data : Bytes) : inside (mode.digest data) mode.retained = mode.retained := by
  rw [inside, List.filter_eq_self]
  intro i hi
  have hlt : i < (mode.digest data).length := by
    rw [length_digest]
    exact mode.retained_lt i hi
  simpa using hlt

/-- The checksum of a mode: the octets of its digest at the built-in offsets, each of which is there. -/
theorem checksum_eq (mode : Mode) (data : Bytes) :
    mode.checksum data = .ok (mode.retained.map ((mode.digest data).getD · 0)) := by
  have hs : sample (mode.digest data) mode.retained = mode.retained.map ((mode.digest data).getD · 0) := by
    rw [sample_eq, inside_retained]
  have hl : (mode.retained.map ((mode.digest data).getD · 0)).length = checksumLength := by
    rw [List.length_map, length_retained]
  simp only [checksum, checksumAt]
  rw [hs, if_pos hl]

/-- Without a digest the checksum is the two constant words. -/
theorem checksum_constant (data : Bytes) :
    constant.checksum data = .ok (Bytes.little 4 constantFirst ++ Bytes.little 4 constantSecond) := by
  rw [checksum_eq]
  rfl

/-- A seed selects the mode of its remainder by three; the fourth mode is selected by none. -/
theorem ofSeed_cases (seed : Int) :
    (seed % 3 = 0 ∧ ofSeed seed = .ok constant) ∨ (seed % 3 = 1 ∧ ofSeed seed = .ok md5) ∨
      (seed % 3 = 2 ∧ ofSeed seed = .ok md4) := by
  have h : seed % 3 = 0 ∨ seed % 3 = 1 ∨ seed % 3 = 2 := by omega
  rcases h with h | h | h
  · exact Or.inl ⟨h, by rw [ofSeed, h]; rfl⟩
  · exact Or.inr (Or.inl ⟨h, by rw [ofSeed, h]; rfl⟩)
  · exact Or.inr (Or.inr ⟨h, by rw [ofSeed, h]; rfl⟩)

end Keepalive.Mode
