import Keepalive.Stream

/-!
# What readers are made of

A source gives every reader that is made of it a stream: octets in memory are copied for each of them, and a stream is shared.
Some octets in memory can be changed (`Edit`): one of them is replaced or taken away, one is put behind the last, or others are put in
the place of a run of them. Places are counted from the beginning or, with a negative number, from behind the end. A change can make any
octets of any others (`Edit.apply_splice_all`).
-/

namespace Keepalive

/-- What readers are made of. -/
inductive Source where
  /-- octets in memory that never change -/
  | fixed (content : Bytes)
  /-- octets in memory that can be changed -/
  | buffer (content : Bytes)
  /-- a stream whose place all readers share -/
  | stream (stream : Stream)
  deriving DecidableEq, Repr

/-- A change of octets in memory. -/
inductive Edit where
  /-- puts an octet at a place, over the one that is there -/
  | replace (index octet : Int)
  /-- puts an octet behind the last -/
  | append (octet : Int)
  /-- takes away the octet at a place -/
  | delete (index : Int)
  /-- puts octets where those from one place up to another are -/
  | splice (start stop : Int) (octets : Bytes)
  deriving DecidableEq, Repr

/-- Why the octets of a source cannot be changed. -/
inductive ChangeFault where
  /-- no octet is at this place -/
  | outside
  /-- the number is no octet -/
  | notOctet
  /-- the source cannot be changed -/
  | fixed
  deriving DecidableEq, Repr

/-- The wording of a fault, where it has one of its own. -/
def ChangeFault.message? : ChangeFault → Option String
  | notOctet => some "byte must be in range(0, 256)"
  | outside => none
  | fixed => none

namespace Source

/-- The stream of a reader that is made now. -/
def opened : Source → Stream
  | fixed content => .memory content
  | buffer content => .memory content
  | stream s => s

/-- The source after one of its readers has left its stream here. -/
def leftAt (last : Stream) : Source → Source
  | stream _ => stream last
  | source => source

/-- The octets that a source gives to a reader made now. -/
def content (source : Source) : Bytes := source.opened.remaining

end Source

namespace Edit

/-- A number of this size is no place, whatever is to be put there. -/
def placeLimit : Int := 0x8000000000000000

/-- Can a number be a place at all? -/
def isPlace (index : Int) : Bool := -placeLimit ≤ index ∧ index < placeLimit

/-- The place of an octet among so many, counted from the beginning or, when negative, from behind the end. -/
def place? (length : Nat) (index : Int) : Option Nat :=
  let place := if index < 0 then index + length else index
  if 0 ≤ place ∧ place < length then some place.toNat else none

/-- The place where a run of octets begins or ends: what is in front of the first is taken for it, and what is behind the last for the
end. -/
def limit (length : Nat) (index : Int) : Nat := min (if index < 0 then index + length else index).toNat length

/-- The octets after a change. -/
def apply (content : Bytes) : Edit → Except ChangeFault Bytes
  | replace index octet =>
    if !isPlace index then .error .outside
    else if octet < 0 ∨ 255 < octet then .error .notOctet
    else match place? content.length index with
      | some place => .ok (content.set place (UInt8.ofNat octet.toNat))
      | none => .error .outside
  | append octet =>
    if octet < 0 ∨ 255 < octet then .error .notOctet else .ok (content ++ [UInt8.ofNat octet.toNat])
  | delete index =>
    if !isPlace index then .error .outside
    else match place? content.length index with
      | some place => .ok (content.eraseIdx place)
      | none => .error .outside
  | splice start stop octets =>
    let first := limit content.length start
    .ok (content.take first ++ octets ++ content.drop (max first (limit content.length stop)))

/-- Any octets can be put where all others were. -/
theorem apply_splice_all (content octets : Bytes) : (splice 0 content.length octets).apply content = .ok octets := by
  have hstart : limit content.length 0 = 0 := by simp [limit]
  have hstop : limit content.length content.length = content.length := by
    unfold limit
    omega
  simp [apply, hstart, hstop]

end Edit

/-- The source with its octets changed. -/
def Source.change (edit : Edit) : Source → Except ChangeFault Source
  | buffer content => (edit.apply content).map buffer
  | fixed _ => .error .fixed
  | stream _ => .error .fixed

end Keepalive
