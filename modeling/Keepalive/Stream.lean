import Keepalive.Bytes

/-!
# Streams of octets

A stream is read in pieces: each call asks for a number of octets and is answered by a chunk, which may be shorter than
asked for, empty, or longer. `Stream.pull` calls until what it wants is there or a chunk is empty; it never asks for nothing,
and it asks each time for just what is missing. Nothing is lost between calls: what `pull` takes stands in front of what
remains (`remaining_pull`).
-/

namespace Keepalive

/-- A source of octets and the place where it is read next. -/
inductive Stream where
  /-- octets in memory: a call gives what it asks for, or all that is left -/
  | memory (rest : Bytes)
  /-- octets in memory, given out at most so many in one call -/
  | limited (limit : Nat) (rest : Bytes)
  /-- chunks given out one a call, whatever is asked for; an absent chunk is no data for now -/
  | scripted (chunks : List (Option Bytes))
  deriving DecidableEq, Repr

/-- One call on a stream: the octets asked for, and the chunk in answer. -/
structure Exchange where
  asked : Nat
  chunk : Bytes
  deriving DecidableEq, Repr

/-- The octets that calls brought, in order. -/
def Exchange.octets (calls : List Exchange) : Bytes := calls.flatMap Exchange.chunk

namespace Stream

/-- Everything the stream still has to give. -/
def remaining : Stream → Bytes
  | memory rest => rest
  | limited _ rest => rest
  | scripted chunks => chunks.flatMap (·.getD [])

/-- One call for a number of octets. -/
def call (asked : Nat) : Stream → Bytes × Stream
  | memory rest => (rest.take asked, memory (rest.drop asked))
  | limited limit rest => (rest.take (min asked limit), limited limit (rest.drop (min asked limit)))
  | scripted [] => ([], scripted [])
  | scripted (chunk :: chunks) => (chunk.getD [], scripted chunks)

/-- Calls until so many octets are there, or until a chunk is empty. -/
def pull (missing : Nat) (stream : Stream) : List Exchange × Stream :=
  if missing = 0 then ([], stream)
  else
    let (chunk, next) := stream.call missing
    if chunk.length = 0 then ([⟨missing, chunk⟩], next)
    else
      let (calls, last) := pull (missing - chunk.length) next
      (⟨missing, chunk⟩ :: calls, last)
termination_by missing

/-- The least number of octets that memory cannot be asked for in one call. -/
def sizeLimit : Nat := 0x8000000000000000

/-- Is a call for so many octets turned down unanswered? -/
def refuses (asked : Nat) : Stream → Bool
  | memory _ => sizeLimit ≤ asked
  | limited limit _ => sizeLimit ≤ min asked limit
  | scripted _ => false

/-- A call takes its chunk off what remains. -/
theorem remaining_call (stream : Stream) (asked : Nat) :
    (stream.call asked).1 ++ (stream.call asked).2.remaining = stream.remaining := by
  match stream with
  | memory rest => simp [call, remaining]
  | limited limit rest => simp [call, remaining]
  | scripted [] => rfl
  | scripted (chunk :: chunks) => simp [call, remaining]

/-- What is pulled and what remains are what there was. -/
theorem remaining_pull (missing : Nat) (stream : Stream) :
    Exchange.octets (stream.pull missing).1 ++ (stream.pull missing).2.remaining = stream.remaining := by
  fun_induction pull missing stream with
  | case1 => simp [Exchange.octets]
  | case2 missing stream _ chunk next hcall h =>
    have hr := remaining_call stream missing
    rw [hcall] at hr
    simpa [Exchange.octets] using hr
  | case3 missing stream _ chunk next hcall h calls last hrest ih =>
    have hr := remaining_call stream missing
    rw [hcall] at hr
    rw [hrest] at ih
    simp only [Exchange.octets, List.flatMap_cons, List.append_assoc] at ih hr ⊢
    rw [ih, hr]

end Stream

end Keepalive
