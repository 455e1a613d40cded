import Intercept.Json.Record
import Intercept.Packet
import Intercept.Service.Permissions

/-!
The records that the control plane answers with, and the one that is sent to it.
-/

namespace Intercept

/-- The service as a whole. The addresses of its multiplexers are in ascending order of names. -/
structure SpawnerStatus where
  connections : UInt64
  alive : Bool
  bytesSent : UInt64
  multiplexers : List (String × String)
  serverAddress : String
deriving DecidableEq, Repr

def SpawnerStatus.record : Json.Record SpawnerStatus where
  name := "SpawnerStatus"
  fields := [
    ⟨"ConnectionCount", UInt64, .u64, none⟩,
    ⟨"Alive", Bool, .boolean, none⟩,
    ⟨"BytesSent", UInt64, .u64, none⟩,
    ⟨"MpxAddresses", List (String × String), .orNull [] .stringMap, some []⟩,
    ⟨"ServerAddress", String, .string, none⟩]
  ofRow := fun (connections, alive, bytesSent, multiplexers, serverAddress, ()) =>
    ⟨connections, alive, bytesSent, multiplexers, serverAddress⟩
  toRow s := (s.connections, s.alive, s.bytesSent, s.multiplexers, s.serverAddress, ())

/-- One proxy; `lastContactAgo` is in milliseconds. -/
structure ProxyStatus where
  id : ProxyId
  alive : Bool
  address : String
  network : String
  bytesSent : UInt64
  lastContactAgo : Int64
deriving DecidableEq, Repr

namespace ProxyStatus

/-- Milliseconds since the proxy saw traffic; a time to come counts as now. -/
def lastContact (p : ProxyStatus) : Nat := p.lastContactAgo.toInt.toNat

def record : Json.Record ProxyStatus where
  name := "ProxyStatus"
  fields := [
    ⟨"Id", Int64, .i64, none⟩,
    ⟨"Alive", Bool, .boolean, none⟩,
    ⟨"Address", String, .string, none⟩,
    ⟨"Network", String, .string, none⟩,
    ⟨"BytesSent", UInt64, .u64, none⟩,
    ⟨"LastContactAgo", Int64, .i64, none⟩]
  ofRow := fun (id, alive, address, network, bytesSent, lastContactAgo, ()) =>
    ⟨id, alive, address, network, bytesSent, lastContactAgo⟩
  toRow p := (p.id, p.alive, p.address, p.network, p.bytesSent, p.lastContactAgo, ())

end ProxyStatus

/-- What a key may do, as bits and one by one. -/
structure KeyInfo where
  value : UInt64
  canCheckStatus : Bool
  canClose : Bool
  canUseWebsocket : Bool
  canFilter : Bool
  canInject : Bool
  canMakeKeys : Bool
  canDuplicateKeys : Bool
  admin : Bool
deriving DecidableEq, Repr

namespace KeyInfo

def permissions (k : KeyInfo) : Permissions := ⟨k.value⟩

def record : Json.Record KeyInfo where
  name := "KeyInfo"
  fields := [
    ⟨"Value", UInt64, .u64, none⟩,
    ⟨"CanCheckStatus", Bool, .boolean, none⟩,
    ⟨"CanClose", Bool, .boolean, none⟩,
    ⟨"CanUseWebsocket", Bool, .boolean, none⟩,
    ⟨"CanFilter", Bool, .boolean, none⟩,
    ⟨"CanInject", Bool, .boolean, none⟩,
    ⟨"CanMakeKeys", Bool, .boolean, none⟩,
    ⟨"CanDuplicateKeys", Bool, .boolean, none⟩,
    ⟨"Admin", Bool, .boolean, none⟩]
  ofRow := fun (value, status, close, websocket, filter, inject, make, duplicate, admin, ()) =>
    ⟨value, status, close, websocket, filter, inject, make, duplicate, admin⟩
  toRow k :=
    (k.value, k.canCheckStatus, k.canClose, k.canUseWebsocket, k.canFilter, k.canInject,
      k.canMakeKeys, k.canDuplicateKeys, k.admin, ())

end KeyInfo

/-- A new key, in hexadecimal digits. -/
structure NewKey where
  key : String
  permissions : UInt64
deriving DecidableEq, Repr

def NewKey.record : Json.Record NewKey where
  name := "NewKey"
  fields := [
    ⟨"Key", String, .string, none⟩,
    ⟨"Perms", UInt64, .u64, none⟩]
  ofRow := fun (key, permissions, ()) => ⟨key, permissions⟩
  toRow k := (k.key, k.permissions, ())

/-- Bytes to inject into a proxy, in one direction or both. -/
structure InjectRequest where
  id : ProxyId
  data : List UInt8
  toClient : Bool
  toServer : Bool
deriving DecidableEq, Repr

def InjectRequest.record : Json.Record InjectRequest where
  name := "InjectRequest"
  fields := [
    ⟨"Id", Int64, .i64, none⟩,
    ⟨"Data", List UInt8, .payload, none⟩,
    ⟨"ToClient", Bool, .boolean, none⟩,
    ⟨"ToServer", Bool, .boolean, none⟩]
  ofRow := fun (id, data, toClient, toServer, ()) => ⟨id, data, toClient, toServer⟩
  toRow r := (r.id, r.data, r.toClient, r.toServer, ())

end Intercept
