import Keepalive.Checksum.Mode
import Keepalive.Text.Numeral

/-!
# What can go wrong with a checksum

The causes and their wording.
-/

namespace Keepalive

/-- The octets a checksum takes from its digest. -/
def checksumLength : Nat := 8

/-- Why a checksum cannot be made. -/
inductive ChecksumFault where
  /-- no mode has this number -/
  | noSuchMode (number : Int)
  /-- the data is not a whole number of words of four octets -/
  | unaligned (length : Int)
  /-- the offsets kept found another number of octets than a checksum has -/
  | wrongSample (mode : Mode) (obtained : Nat)
  /-- a number of no mode that cannot be written -/
  | longNumber
  deriving DecidableEq, Repr

/-- The wording of a number of no mode, from its text. -/
def ChecksumFault.noSuchModeWording (number : String) : String := "不存在的校验模式: " ++ number

/-- The wording of a length that is no whole number of words, from its text. -/
def ChecksumFault.unalignedWording (length : String) : String := "校验输入长度必须为 4 的整数倍，实际为 " ++ length

/-- The wording of a fault. -/
def ChecksumFault.message : ChecksumFault → String
  | noSuchMode number => noSuchModeWording (Numeral.decimal number)
  | unaligned length => unalignedWording (Numeral.decimal length)
  | wrongSample mode obtained =>
    mode.name ++ " 摘要仅取得 " ++ Numeral.decimal obtained ++ " 字节，需要 " ++ Numeral.decimal checksumLength
  | longNumber => Numeral.limitWording

end Keepalive
