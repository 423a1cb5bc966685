import Chiplog.Composition.ExecutionLog
import Chiplog.Composition.PostgresCompletion
import Chiplog.Data.Sha256

namespace Chiplog.Composition

open Chiplog.Data Chiplog.Platform Chiplog.Effects Chiplog.AgentLoop

/-! Contents of the native execution log.

Every kind of record keeps its own constructor; what the client's effects store is nested
inside. -/

/-- What one record of the native log may hold. -/
inductive NativeValue where
  | run (version : RunVersion) (value : ExecutionRunRecord version)
  | conversationEntry (value : ConversationEntryV1)
  | callState (value : NativeCallStateV1)
  | client (value : ClientValue)
deriving DecidableEq

namespace NativeValue

def schemaId : NativeValue → String
  | .run version _ => Schema.schemaId (ExecutionRunRecord version)
  | .conversationEntry _ => Schema.schemaId ConversationEntryV1
  | .callState _ => Schema.schemaId NativeCallStateV1
  | .client value => value.schemaId

def bytes : NativeValue → Bytes
  | .run _ value => Schema.wire value
  | .conversationEntry value => Schema.wire value
  | .callState value => Schema.wire value
  | .client value => value.bytes

/-- The Run record of one version, if the value is of that version. -/
def ofVersion (wanted version : RunVersion) (value : ExecutionRunRecord version) :
    Option (ExecutionRunRecord wanted) :=
  if same : version = wanted then some (same ▸ value) else none

end NativeValue

instance : Content NativeValue where
  schemaId := NativeValue.schemaId
  bytes := NativeValue.bytes
  raw schema stored := .client (.raw schema stored)
  schemaId_raw _ _ := rfl
  bytes_raw _ _ := rfl

instance : ExecutionStores NativeValue where
  run wanted :=
    { read := fun
        | .run version value => NativeValue.ofVersion wanted version value
        | _ => none
      write := .run wanted
      schemaId_write := fun _ => rfl
      bytes_write := fun _ => rfl
      read_write := fun _ => dif_pos rfl }
  conversationEntry :=
    { read := fun | .conversationEntry value => some value | _ => none
      write := .conversationEntry
      schemaId_write := fun _ => rfl
      bytes_write := fun _ => rfl
      read_write := fun _ => rfl }
  callState :=
    { read := fun | .callState value => some value | _ => none
      write := .callState
      schemaId_write := fun _ => rfl
      bytes_write := fun _ => rfl
      read_write := fun _ => rfl }

/-! A worker that has opened the client. -/

def nativeRuntime : Runtime :=
  { databaseName := "chiplog_user"
    tenantId := "tenant"
    principalId := "hermetic-principal"
    credentialId := "credential"
    sessionId := "session"
    peer := "local-cli"
    token := "token" }

end Chiplog.Composition
