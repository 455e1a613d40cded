import Intercept.Service.Records
import Intercept.Span

/-!
The lines in which the viewer prints what the service says about a key, itself and its proxies.
-/

namespace Intercept

def KeyInfo.lines (k : KeyInfo) : List String := [
  "* Key Info",
  s!"|  Value           : {k.value}",
  s!"|  CanCheckStatus  : {k.canCheckStatus}",
  s!"|  CanClose        : {k.canClose}",
  s!"|  CanUseWebsocket : {k.canUseWebsocket}",
  s!"|  CanFilter       : {k.canFilter}",
  s!"|  CanInject       : {k.canInject}",
  s!"|  CanMakeKeys     : {k.canMakeKeys}",
  s!"|  CanDuplicateKeys: {k.canDuplicateKeys}",
  s!"|  Admin           : {k.admin}"]

def SpawnerStatus.lines (s : SpawnerStatus) : List String :=
  [ "* SpawnerStatus",
    s!"|  ConnectionCount: {s.connections}",
    s!"|  Alive          : {s.alive}",
    s!"|  BytesSent      : {s.bytesSent}",
    s!"|  ServerAddress  : {s.serverAddress}"] ++
  s.multiplexers.map fun (name, address) => s!"|  Mpx[{name}]: {address}"

def ProxyStatus.lines (p : ProxyStatus) : List String := [
  s!"  |  Id            : {p.id}",
  s!"  |  Alive         : {p.alive}",
  s!"  |  Address       : {p.address}",
  s!"  |  Network       : {p.network}",
  s!"  |  BytesSent     : {p.bytesSent}",
  s!"  |  LastContactAgo: {(Span.ofMillis p.lastContact).text}"]

def ProxyStatus.listLines (ps : List ProxyStatus) : List String :=
  s!"* ProxyList ({ps.length} elements)" ::
    ps.zipIdx.flatMap fun (p, i) => s!"| [{i}]" :: p.lines

end Intercept
