import TrafficCapture.Net.Address

/-! What can be set before the service starts. -/

namespace TrafficCapture

/-- The configuration of the service. -/
structure Config where
  restHost : String := "127.0.0.1"
  restPort : UInt16 := 8080
  proxyHost : String := "127.0.0.1"
  proxyPort : UInt16 := 8081
  disableCapture : Bool := false
  /-- How many exchanges are kept; 0 means all of them. -/
  maxEntries : UInt64 := 10000
  /-- How long one query may take, in milliseconds. -/
  queryTimeout : UInt64 := 5000
  logDir : Option String := none
  deriving DecidableEq, Repr

namespace Config

/-- The address to listen at, or what is wrong with it. -/
def address (host : String) (port : UInt16) : Except String Net.SocketAddress :=
  let host := Net.SocketAddress.withoutBrackets host.toList
  match Net.Ip.parse? host with
  | some ip => .ok ⟨ip, port⟩
  | none =>
    .error ("invalid bind address '" ++ String.ofList host ++ "': invalid IP address syntax")

def restAddress (c : Config) : Except String Net.SocketAddress := address c.restHost c.restPort

def proxyAddress (c : Config) : Except String Net.SocketAddress := address c.proxyHost c.proxyPort

end Config

end TrafficCapture
