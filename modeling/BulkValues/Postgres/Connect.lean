/-
# Reaching a server

A connection configuration is checked before any server is asked for: first where the server is
and who logs in, then the mode of transport security, then, unless it is disabled, the files it
needs.  Only then is the server reached, and what it says when it cannot be is carried over.
-/
import BulkValues.Postgres.Server
import BulkValues.Postgres.Tls

namespace BulkValues.Postgres

/-- Reach the server of a configuration, where `reach` is the attempt itself: a connection or
the reason why there is none. -/
def connect {σ : Type} (files : FileTree) (reach : Server → TlsSettings → Except String σ)
    (c : ConnectionConfig) : Except Error σ := do
  let server ← Server.ofConfig c
  let tls ← (TlsSettings.ofConfig c).mapError TlsError.toError
  if !tls.isDisabled then (tls.prepare files).mapError TlsError.toError
  (reach server tls).mapError .cannotConnect

end BulkValues.Postgres
