/-
# Transport security

The mode that a connection asks for and the files of its certificates.  Every parameter has a
short name and a long one; if the short name is there, the long one is not looked at, even when
the short one is blank.
-/
import BulkValues.ConnectionConfig
import BulkValues.Error
import BulkValues.FileTree
import BulkValues.Postgres.Pem
import BulkValues.Text.Blank
import BulkValues.Text.Lowercase

namespace BulkValues.Postgres

open BulkValues.Text

/-- What a connection asks of transport security. -/
inductive TlsMode where
  | disable
  | allow
  | prefer
  | require
  | verifyCa
  | verifyFull
deriving DecidableEq, Repr

/-- What is asked of the server: nothing, security if it has it, or security. -/
inductive TlsRequest where
  | disable
  | prefer
  | require
deriving DecidableEq, Repr

/-- What can go wrong before a secure connection is opened. -/
inductive TlsError where
  /-- No mode of this name. -/
  | unknownMode (text : String)
  /-- Security was asked for where it is disabled. -/
  | disabled
  /-- The authority's certificate cannot be read. -/
  | unreadableAuthority (path reason : String)
  /-- The authority's file holds no certificate. -/
  | badAuthority
  /-- The client's certificate cannot be read. -/
  | unreadableCertificate (path reason : String)
  /-- The client's key cannot be read. -/
  | unreadableKey (path reason : String)
  /-- The client's files do not hold a certificate and a key. -/
  | badIdentity
deriving DecidableEq, Repr

namespace TlsError

/-- What is reported. -/
def message : TlsError → String
  | unknownMode text => "Unknown sslmode '" ++ text ++ "'"
  | disabled => "TLS configuration error: TLS connector requested with sslmode=disable"
  | unreadableAuthority path reason =>
    "Failed to load CA certificate from " ++ path ++ ": " ++ reason
  | badAuthority => "Invalid CA certificate format: "
  | unreadableCertificate path reason =>
    "Failed to load client certificate from " ++ path ++ ": " ++ reason
  | unreadableKey path reason => "Failed to load client key from " ++ path ++ ": " ++ reason
  | badIdentity => "Invalid client identity (cert + key): "

/-- The error of the connection. -/
def toError : TlsError → Error
  | unknownMode text => .unknownTlsMode text
  | e => .tlsFailure e.message

end TlsError

namespace TlsMode

/-- The name of a mode. -/
def name : TlsMode → String
  | disable => "disable"
  | allow => "allow"
  | prefer => "prefer"
  | require => "require"
  | verifyCa => "verify-ca"
  | verifyFull => "verify-full"

/-- What a mode asks of the server. -/
def request : TlsMode → TlsRequest
  | disable => .disable
  | allow | prefer => .prefer
  | require | verifyCa | verifyFull => .require

/-- The mode of a name, in any letter case and with blanks around it. -/
def read (text : String) : Except TlsError TlsMode :=
  let name := lower (trim text)
  if name = "disable" then .ok disable
  else if name = "allow" then .ok allow
  else if name = "prefer" ∨ name = "" then .ok prefer
  else if name = "require" then .ok require
  else if name = "verify-ca" ∨ name = "verify_ca" then .ok verifyCa
  else if name = "verify-full" ∨ name = "verify_full" then .ok verifyFull
  else .error (.unknownMode name)

end TlsMode

/-- The settings of transport security. -/
structure TlsSettings where
  /-- The mode. -/
  mode : TlsMode
  /-- The file of the authority's certificate. -/
  authority : Option String
  /-- The file of the client's certificate. -/
  certificate : Option String
  /-- The file of the client's key. -/
  key : Option String
deriving DecidableEq, Repr

namespace TlsSettings

/-- The first of two parameters that is there, unless it is blank. -/
def lookup (c : ConnectionConfig) (short long : String) : Option String :=
  ((c.get? short).or (c.get? long)).filter fun text => !allBlank text

/-- The settings of a configuration. -/
def ofConfig (c : ConnectionConfig) : Except TlsError TlsSettings := do
  let mode ← match lookup c "sslmode" "ssl_mode" with
    | some text => TlsMode.read text
    | none => .ok .prefer
  pure
    { mode
      authority := lookup c "sslrootcert" "ssl_ca_cert"
      certificate := lookup c "sslcert" "ssl_client_cert"
      key := lookup c "sslkey" "ssl_client_key" }

/-- Whether security is disabled. -/
def isDisabled (s : TlsSettings) : Bool := s.mode == .disable

/-- Read a file of PEM blocks. -/
def readPem (files : FileTree) (path : String) (unreadable : String → TlsError) :
    Except TlsError String :=
  match files.readText path with
  | .ok text => .ok text
  | .error e => .error (unreadable e.message)

/-- Check all that a secure connection needs: the authority's certificate, and the client's
certificate and key when both are named. -/
def prepare (files : FileTree) (s : TlsSettings) : Except TlsError Unit := do
  if s.isDisabled then .error .disabled
  match s.authority with
  | some path =>
    let text ← readPem files path (.unreadableAuthority path)
    if !Pem.holdsCertificate text then .error .badAuthority
  | none => pure ()
  match s.certificate, s.key with
  | some certificate, some key =>
    let certificateText ← readPem files certificate (.unreadableCertificate certificate)
    let keyText ← readPem files key (.unreadableKey key)
    if !(Pem.holdsPrivateKey keyText && Pem.holdsCertificate certificateText) then
      .error .badIdentity
  | _, _ => pure ()

end TlsSettings

end BulkValues.Postgres
