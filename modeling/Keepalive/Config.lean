import Keepalive.Bytes.Hex
import Keepalive.Packet.Heartbeat

/-!
# Configurations

What a host needs to keep its session alive: its own address, the fields that every heartbeat repeats, and where the server
is. Nothing in it has to be right: it may be put together of anything, its address given in any form (`HostSettings`), and
`Heartbeat.Draft.ofSettings` makes the fields of a heartbeat from it, which the heartbeat checks. A configuration that is loaded has
its address read already (`Config`).
-/

namespace Keepalive

/-- The port of a server when none is named. -/
def defaultPort : Int := 61440

/-- A host's settings, its address given in some way. -/
structure HostSettings (Host : Type) where
  host : Host
  mac : Bytes := Heartbeat.defaultMac
  typeId : Int := Heartbeat.defaultTypeId
  uidLength : Int := Heartbeat.defaultUidLength
  server : String := ""
  port : Int := defaultPort
  deriving DecidableEq, Repr

/-- A host's settings with its address. -/
abbrev Config := HostSettings Address

/-- The settings of a configuration, with the address as the form in which it is given. -/
def Config.settings (c : Config) : HostSettings Address.Form := { c with host := .address c.host }

/-- The description of a configuration in messages. -/
def Config.describe (c : Config) : String :=
  "<HeartbeatConfig host_ip=" ++ c.host.dotted ++ ", mac=" ++ c.mac.hexJoined ':' ++ ", type_id=" ++
    Numeral.decimal c.typeId ++ ", server=" ++ c.server ++ ":" ++ Numeral.decimal c.port ++ ">"

/-- The fields of a heartbeat of a host. -/
def Heartbeat.Draft.ofSettings (c : HostSettings Address.Form) (sequence : Int) (flag : Flag) (seed : Int) : Heartbeat.Draft where
  sequence := sequence
  source := c.host
  flag := flag
  seed := seed
  typeId := c.typeId
  uidLength := c.uidLength
  mac := c.mac

/-- The fields of a heartbeat of a host whose address is known. -/
def Heartbeat.Draft.ofConfig (c : Config) (sequence : Int) (flag : Flag) (seed : Int) : Heartbeat.Draft :=
  ofSettings c.settings sequence flag seed

end Keepalive
