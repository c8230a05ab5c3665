import Slipmesh.Common.Links
import Slipmesh.Router.BirdConf

/-! `router-lo`, a dummy interface that carries the node's own addresses. OSPF sends from
its link-local address, which the kernel would give it but `ensureAddresses` would take
away again. -/

namespace Slipmesh.Router
open Net Common Host

def ensureLoopback (loopback : Ipv4Addr) (ipv6Loopback : Ipv6Addr) : Netlink LinkError Unit := do
  let (index, _) ← ensureLink routerLoopbackIface "dummy"
  let linkLocal := linkLocalFromLoopback ipv6Loopback
  ensureAddresses index
    [Ipv4Addr.text loopback ++ "/32", Ipv6Addr.text ipv6Loopback ++ "/128", Ipv6Addr.text linkLocal ++ "/64"]
  setUp index

end Slipmesh.Router
