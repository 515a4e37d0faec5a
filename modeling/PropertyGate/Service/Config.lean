/-!
# Service/Config — the settings of the network side

Times are in milliseconds. Port 0 asks the machine for any free port.
-/

namespace PropertyGate

/-- Where the certificate and the private key are. -/
structure TlsFiles where
  certificate : String
  key : String
deriving DecidableEq, Repr, Inhabited

/-- **The settings of the network side.** -/
structure NetworkConfig where
  host : String := "0.0.0.0"
  port : UInt16 := 0
  tls : Option TlsFiles := none
  corsOrigins : List String := ["*"]
  requestTimeout : Nat := 30000
  maxBodyBytes : Nat := 1048576
  requesterHeader : String := "x-requester-id"
  drainTimeout : Nat := 30000
deriving DecidableEq, Repr, Inhabited

/-- Host and port as messages show them. -/
def NetworkConfig.address (config : NetworkConfig) : String :=
  config.host ++ ":" ++ config.port.toNat.repr

end PropertyGate
