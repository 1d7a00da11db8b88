import Keepalive.Packet.Traffic
import Keepalive.Proofs.Checksum.Sample
import Keepalive.Proofs.Journal
import Mathlib.Data.List.Forall2

/-!
# Checksums from any offsets

A mode can be given any list of offsets. Those beyond the digest keep nothing, so that there is a checksum exactly when eight of
them lie in the digest, however many others there are (`checksumAt_eq_ok_iff`, `checksumAt_eq_error_iff`). How many octets a digest
has depends on the mode alone, and the built-in offsets of each mode are eight that lie in its digest (`checksum_of_offsets`).
-/

namespace Keepalive.Mode

/-- A digest has these octets at these offsets, one at each. -/
def HasAt (digest : Bytes) (offsets : List Nat) (octets : Bytes) : Prop :=
  List.Forall₂ (fun i octet => digest[i]? = some octet) offsets octets

/-! ## Samples -/

/-- A digest has the octets of a sample at the offsets that lie in it. -/
theorem hasAt_sample (digest : Bytes) (offsets : List Nat) : HasAt digest (inside digest offsets) (sample digest offsets) := by
  rw [sample_eq, HasAt, inside, List.forall₂_map_right_iff, List.forall₂_same]
  intro i hi
  have hlt : i < digest.length := by simpa using List.of_mem_filter hi
  simp [hlt]

/-- A digest has no other octets at the same offsets. -/
theorem HasAt.unique {digest : Bytes} {offsets : List Nat} {octets octets' : Bytes} (h : HasAt digest offsets octets)
    (h' : HasAt digest offsets octets') : octets = octets' := by
  refine Relator.RightUnique.forall₂ ?_ h h'
  intro i octet octet' hi hi'
  exact Option.some.inj (hi.symm.trans hi')

/-- A sample has an octet for each offset that lies in the digest. -/
theorem length_sample (digest : Bytes) (offsets : List Nat) : (sample digest offsets).length = (inside digest offsets).length :=
  (hasAt_sample digest offsets).length_eq.symm

/-! ## Checksums -/

/-- The octets kept are a checksum exactly when as many offsets as a checksum has octets lie in the digest, and are then those that
the digest has there. -/
theorem checksumAt_eq_ok_iff {mode : Mode} {offsets : List Nat} {data kept : Bytes} :
    mode.checksumAt offsets data = .ok kept ↔
      (inside (mode.digest data) offsets).length = checksumLength ∧
        HasAt (mode.digest data) (inside (mode.digest data) offsets) kept := by
  have hsample := hasAt_sample (mode.digest data) offsets
  simp only [checksumAt, length_sample]
  split
  · rename_i h
    constructor
    · intro hk
      cases hk
      exact ⟨h, hsample⟩
    · rintro ⟨-, hk⟩
      -- the digest has one octet at each offset, so nothing else can have been kept
      rw [hk.unique hsample]
  · rename_i h
    simp [h]

/-- There is no checksum exactly when more or fewer offsets lie in the digest, and the fault counts them. -/
theorem checksumAt_eq_error_iff {mode : Mode} {offsets : List Nat} {data : Bytes} {fault : ChecksumFault} :
    mode.checksumAt offsets data = .error fault ↔
      (inside (mode.digest data) offsets).length ≠ checksumLength ∧
        fault = .wrongSample mode (inside (mode.digest data) offsets).length := by
  simp only [checksumAt, length_sample]
  split
  · rename_i h
    simp [h]
  · rename_i h
    simp [h, eq_comm]

/-- Taking a checksum leaves a record and ends as making it does. -/
theorem outcome_takeChecksum (mode : Mode) (offsets : List Nat) (data : Bytes) :
    (mode.takeChecksum offsets data).outcome = mode.checksumAt offsets data := by
  cases h : mode.checksumAt offsets data with
  | ok kept =>
    rw [takeChecksum, Logged.ofExcept_bind_ok h]
    rfl
  | error fault => rw [takeChecksum, Logged.ofExcept_bind_error h]

/-- The wording of an unusable sample: how many octets were obtained, of the eight that are needed. -/
theorem message_wrongSample (mode : Mode) (obtained : Nat) : (ChecksumFault.wrongSample mode obtained).message =
    mode.name ++ " 摘要仅取得 " ++ Numeral.decimal obtained ++ " 字节，需要 8" := by
  have hneeded : " 字节，需要 " ++ Numeral.decimal checksumLength = " 字节，需要 8" := by decide +kernel
  rw [ChecksumFault.message, String.append_assoc, hneeded]

/-- A mode has the checksum of the octets that its digest has at the built-in offsets. -/
theorem exists_checksum (mode : Mode) (data : Bytes) :
    ∃ kept, mode.checksum data = .ok kept ∧ HasAt (mode.digest data) mode.retained kept := by
  have hkept := hasAt_sample (mode.digest data) mode.retained
  rw [inside_retained] at hkept
  refine ⟨_, checksumAt_eq_ok_iff.mpr ?_, hkept⟩
  rw [inside_retained]
  exact ⟨mode.length_retained, hkept⟩

/-- A mode, any offsets and any data. The octets kept are a checksum exactly when eight of the offsets lie in the digest, and they
are then those that the digest has there, in the order of the offsets; otherwise the fault is one of checksums, and its wording
says how many were obtained. Taking the checksum with its record ends no differently. The digests of the four modes have eight,
sixteen, sixteen and twenty octets whatever the data. So each mode always has a checksum of eight octets, with an octet of its
digest at each of its built-in offsets, and that of the first mode is the same for all data. -/
theorem checksum_of_offsets :
    (∀ (mode : Mode) (offsets : List Nat) (data kept : Bytes), mode.checksumAt offsets data = .ok kept ↔
      (inside (mode.digest data) offsets).length = 8 ∧ HasAt (mode.digest data) (inside (mode.digest data) offsets) kept) ∧
    (∀ (mode : Mode) (offsets : List Nat) (data : Bytes), (∃ kept, mode.checksumAt offsets data = .ok kept) ↔
      (inside (mode.digest data) offsets).length = 8) ∧
    (∀ (mode : Mode) (offsets : List Nat) (data : Bytes) (fault : ChecksumFault), mode.checksumAt offsets data = .error fault ↔
      (inside (mode.digest data) offsets).length ≠ 8 ∧ fault = .wrongSample mode (inside (mode.digest data) offsets).length) ∧
    (∀ (mode : Mode) (obtained : Nat), (Fault.checksum (.wrongSample mode obtained)).family? = some .checksum ∧
      (Fault.checksum (.wrongSample mode obtained)).message? =
        some (mode.name ++ " 摘要仅取得 " ++ Numeral.decimal obtained ++ " 字节，需要 8")) ∧
    (∀ (mode : Mode) (offsets : List Nat) (data : Bytes),
      (mode.takeChecksum offsets data).outcome = mode.checksumAt offsets data) ∧
    (∀ data : Bytes, (constant.digest data).length = 8 ∧ (md5.digest data).length = 16 ∧ (md4.digest data).length = 16 ∧
      (sha1.digest data).length = 20) ∧
    (∀ (mode : Mode) (data : Bytes), ∃ kept, mode.checksum data = .ok kept ∧ kept.length = 8 ∧
      HasAt (mode.digest data) mode.retained kept) ∧
    (∀ data : Bytes, constant.checksum data = .ok [0xC7, 0x2F, 0x31, 0x01, 0x7E, 0x00, 0x00, 0x00]) := by
  refine ⟨fun mode offsets data kept => checksumAt_eq_ok_iff, ?_, fun mode offsets data fault => checksumAt_eq_error_iff, ?_,
    outcome_takeChecksum, fun data => ⟨length_digest _ _, length_digest _ _, length_digest _ _, length_digest _ _⟩, ?_,
    checksum_constant⟩
  · intro mode offsets data
    constructor
    · rintro ⟨kept, hk⟩
      exact (checksumAt_eq_ok_iff.mp hk).1
    · exact fun h => ⟨_, checksumAt_eq_ok_iff.mpr ⟨h, hasAt_sample _ _⟩⟩
  · intro mode obtained
    exact ⟨rfl, congrArg some (message_wrongSample mode obtained)⟩
  · intro mode data
    obtain ⟨kept, hchecksum, hkept⟩ := mode.exists_checksum data
    exact ⟨kept, hchecksum, hkept.length_eq.symm.trans mode.length_retained, hkept⟩

/-- Offsets beyond the digest do not count, and the others count as often as they stand there. -/
example (data : Bytes) : constant.checksumAt [8, 3, 3, 0, 100, 4, 1, 1, 2, 0] data =
    .ok [0x01, 0x01, 0xC7, 0x7E, 0x2F, 0x2F, 0x31, 0xC7] := rfl

end Keepalive.Mode
