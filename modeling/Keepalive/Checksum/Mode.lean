/-!
# Checksum modes

A heartbeat carries eight octets of checksum, taken from a digest. The mode says which digest and which of its octets, in
which order; its number is the number of the mode in the protocol.
-/

namespace Keepalive

/-- The four ways of making a checksum. -/
inductive Mode where
  /-- no digest: eight octets that do not depend on the data -/
  | constant
  | md5
  | md4
  | sha1
  deriving DecidableEq, Repr

namespace Mode

/-- The number of the mode in the protocol. -/
def number : Mode → Nat
  | constant => 0
  | md5 => 1
  | md4 => 2
  | sha1 => 3

/-- The name of the mode in messages. -/
def name : Mode → String
  | constant => "NONE"
  | md5 => "MD5"
  | md4 => "MD4"
  | sha1 => "SHA1"

/-- The mode of a number. -/
def ofNumber? : Int → Option Mode
  | 0 => some constant
  | 1 => some md5
  | 2 => some md4
  | 3 => some sha1
  | _ => none

/-- The offsets of the digest's octets that the checksum keeps, in order. -/
def retained : Mode → List Nat
  | constant => [0, 1, 2, 3, 4, 5, 6, 7]
  | md5 => [2, 3, 8, 9, 5, 6, 13, 14]
  | md4 => [1, 2, 8, 9, 4, 5, 11, 12]
  | sha1 => [2, 3, 9, 10, 5, 6, 15, 16]

/-- A mode is the mode of its number, and of no other. -/
theorem ofNumber?_eq_some_iff (n : Int) (m : Mode) : ofNumber? n = some m ↔ n = m.number := by
  constructor
  · intro h
    unfold ofNumber? at h
    split at h <;> simp_all <;> subst h <;> rfl
  · rintro rfl
    cases m <;> rfl

end Mode

end Keepalive
