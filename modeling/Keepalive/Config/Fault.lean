import Keepalive.Text.Numeral

/-!
# Why a configuration cannot be loaded

`ConfigFault` holds the causes that are reported as such; `LoadFault` adds the ones that no report covers and that end the
work that met them.
-/

namespace Keepalive

/-- Why settings make no configuration. -/
inductive ConfigFault where
  | missingField (name : String)
  | badAddress (name text : String)
  | badMac (text : String)
  /-- a number of one octet that is none -/
  | badInteger (name text : String)
  /-- a number that is not in 0 to 255 -/
  | notByte (name : String) (value : Int)
  /-- a port that is no number -/
  | badPort (name text : String)
  /-- a port that is not in 1 to 65535 -/
  | portRange (name : String) (value : Int)
  | noFile (path : String)
  /-- a file that cannot be read, or whose text is no document -/
  | unreadable
  | noProfile (profile : String)
  | noEnvFile (path : String)
  /-- no variable of the environment is a setting -/
  | noVariables
  deriving DecidableEq, Repr

/-- The wording of a fault. -/
def ConfigFault.message : ConfigFault → String
  | missingField name => "配置缺失: 缺少必要字段 '" ++ name ++ "'"
  | badAddress name text => "IP 格式无效 '" ++ name ++ "': " ++ text
  | badMac text => "MAC 格式无效: " ++ text
  | badInteger name text => "整数格式无效 '" ++ name ++ "': " ++ text
  | notByte name value => "'" ++ name ++ "' 必须在 0-255 之间: " ++ Numeral.decimal value
  | badPort name text => "端口格式无效 '" ++ name ++ "': " ++ text
  | portRange name value => "端口超出范围 '" ++ name ++ "': " ++ Numeral.decimal value
  | noFile path => "配置文件未找到: " ++ path
  | unreadable => "读取 TOML 失败"
  | noProfile profile => "未找到预设: [profile." ++ profile ++ "]"
  | noEnvFile path => ".env 文件未找到: " ++ path
  | noVariables => "未检测到 DRCOM_ 前缀的环境变量"

/-- Why a variable of the environment cannot be set. -/
inductive VariableFault where
  /-- a NUL in the name or the value -/
  | nulCharacter
  /-- an equals sign in the name -/
  | badName
  | emptyName
  deriving DecidableEq, Repr

/-- The wording of a fault, where it has one of its own. -/
def VariableFault.message? : VariableFault → Option String
  | nulCharacter => some "embedded null byte"
  | badName => some "illegal environment variable name"
  | emptyName => none

/-- Why loading a configuration ended. -/
inductive LoadFault where
  | rejected (fault : ConfigFault)
  /-- settings looked up in something that is no table -/
  | notATable
  /-- a port given as an infinite number -/
  | infinitePort
  /-- a number to be written that is beyond the limit of decimal text -/
  | longNumber
  /-- a numeral in a document that is beyond the limit of decimal text -/
  | longNumeral (digits : Nat)
  /-- values that nest too deep to be read or written -/
  | tooDeep
  /-- a file that is not UTF-8 -/
  | undecodable
  /-- a variable of an environment file that cannot be set -/
  | badVariable (fault : VariableFault)
  /-- a path, or a name in one, that is longer than any -/
  | pathTooLong
  deriving DecidableEq, Repr

/-- The wording of a fault, where it has one of its own. -/
def LoadFault.message? : LoadFault → Option String
  | rejected fault => some fault.message
  | longNumber => some Numeral.limitWording
  | longNumeral digits =>
    some ("Exceeds the limit (4300 digits) for integer string conversion: value has " ++ Numeral.decimal digits ++
      " digits; use sys.set_int_max_str_digits() to increase the limit")
  | badVariable fault => fault.message?
  | tooDeep => none
  | pathTooLong => none
  | notATable => none
  | infinitePort => none
  | undecodable => none

end Keepalive
