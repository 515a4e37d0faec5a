import PropertyGate.Credential.Certificate
import PropertyGate.Credential.Pem
import PropertyGate.Credential.PrivateKey
import PropertyGate.Failure
import PropertyGate.Service.Config
import PropertyGate.Service.Machine

/-!
# Service/Tls — the certificate and the key of a service

Both files are read before either is looked into, the certificate first. The key file must hold one
private key, and one that can be used; the first certificate of the certificate file must be for that
key. Further certificates are handed on as they are.
-/

namespace PropertyGate

/-- Why a certificate and a key cannot be used. -/
inductive TlsFault where
  | unreadable (file : String) (fault : FileFault)
  | malformed (fault : Pem.Fault)
  /-- The key file holds no private key, or several. -/
  | notOneKey
  /-- The private key has none of the forms there are. -/
  | unknownKeyForm
  | unusableKey
  | noCertificate
  | invalidCertificate (fault : Certificate.Fault)
  /-- The certificate is for another key. -/
  | otherKey
deriving DecidableEq, Repr

def TlsFault.message : TlsFault → String
  | .unreadable file fault => "failed to read from file `" ++ file ++ "`: " ++ fault.message
  | .malformed fault => fault.message
  | .notOneKey => "private key format not supported"
  | .unknownKeyForm => "unknown or invalid key format"
  | .unusableKey => "unexpected error: failed to parse private key as RSA, ECDSA, or EdDSA"
  | .noCertificate => "peer sent no certificates"
  | .invalidCertificate fault => "invalid peer certificate: " ++ fault.message
  | .otherKey => "keys may not be consistent: KeyMismatch"

/-- The failure to bring up a service because of its certificate or key. -/
def TlsFault.failure (fault : TlsFault) : Failure := ⟨"loading TLS certificates", [fault.message]⟩

namespace TlsFiles

/-- Reads a file as it is. -/
def readRaw (machine : Machine) (file : String) : Except TlsFault Bytes :=
  (machine.read file).mapError (.unreadable file)

/-- The public key of a private key that can be used. -/
def publicKeyOf (key : Bytes) : Except TlsFault Bytes :=
  match KeyForm.of? key with
  | none => .error .unknownKeyForm
  | some form =>
    match PrivateKey.publicKey? form key with
    | some publicKey => .ok publicKey
    | none => .error .unusableKey

/-- Checks that the first certificate is for a public key. -/
def checkFirst (publicKey : Bytes) : List Bytes → Except TlsFault Unit
  | [] => .error .noCertificate
  | certificate :: _ =>
    match Certificate.publicKey certificate with
    | .error fault => .error (.invalidCertificate fault)
    | .ok certified => if certified = publicKey then .ok () else .error .otherKey

/-- **Checks the contents of a certificate file and a key file**, up to the first fault. -/
def check (certificate key : Bytes) : Except TlsFault Unit := do
  let certificates ← (Pem.certificates certificate).mapError TlsFault.malformed
  match Pem.privateKeys key with
  | [only] => checkFirst (← publicKeyOf only) certificates
  | _ => throw .notOneKey

/-- Reads both files and checks them. -/
def load (files : TlsFiles) (machine : Machine) : Except TlsFault Unit := do
  let certificate ← readRaw machine files.certificate
  let key ← readRaw machine files.key
  check certificate key

/-- What keeps the files from being used. -/
def fault? (files : TlsFiles) (machine : Machine) : Option TlsFault :=
  match files.load machine with
  | .ok () => none
  | .error fault => some fault

end TlsFiles

/-- What keeps a service from encrypting, if it is to encrypt at all. -/
def NetworkConfig.tlsFault? (config : NetworkConfig) (machine : Machine) : Option TlsFault :=
  config.tls.bind fun files => files.fault? machine

/-- The failure to take the address of a service. -/
def NetworkConfig.bindFailure? (config : NetworkConfig) (machine : Machine) : Option Failure :=
  (machine.bindFault? config.host config.port).map fun fault =>
    ⟨"binding " ++ config.address, [fault.message]⟩

end PropertyGate
