import Keepalive.Bytes
import Keepalive.Text.Numeral

/-!
# Hexadecimal text of bytes

Two lower-case digits an octet, joined by a separator or not (`Bytes.hex`, `Bytes.hexJoined`), and the reader of octets
written as pairs of digits of either case with ASCII blanks before, between and after pairs (`Bytes.ofHex?`).
-/

namespace Keepalive.Bytes

open Keepalive.Text Keepalive.Numeral

/-- The two digits of an octet, the high half first. -/
def hexPair (b : UInt8) : List Char := [Nat.digitChar (b.toNat / 16), Nat.digitChar (b.toNat % 16)]

/-- The digits of a byte string. -/
def hexDigits (b : Bytes) : List Char := b.flatMap hexPair

/-- A byte string in hexadecimal. -/
def hex (b : Bytes) : String := String.ofList (hexDigits b)

/-- The octets of a byte string in hexadecimal, with a separator between two of them. -/
def hexJoined (separator : Char) (b : Bytes) : String :=
  String.ofList ((b.map hexPair).intersperse [separator]).flatten

/-- The octets a text spells: pairs of hexadecimal digits, with ASCII blanks anywhere but inside a pair. -/
def ofHex? : List Char → Option Bytes
  | [] => some []
  | c :: r =>
    if isNarrowBlank c then ofHex? r
    else match r with
      | [] => none
      | d :: r => do
        let high ← digit? 16 c
        let low ← digit? 16 d
        let rest ← ofHex? r
        pure (UInt8.ofNat (16 * high + low) :: rest)

end Keepalive.Bytes
