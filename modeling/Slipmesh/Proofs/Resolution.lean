import Slipmesh.Proofs.Lexical

/-! When a resolution of the bypass returns routes, whatever the network answers. -/

namespace Slipmesh.Router
open Library Net

def Parses (text : String) : Prop := (parseCidr text).isSome = true

instance (text : String) : Decidable (Parses text) := inferInstanceAs (Decidable (_ = _))

/-- Every request that the source has the daemon send is answered, by a prefix or an address of IPv4 at least. -/
structure Answered (lookups : Lookups) (source : BypassSourceEntry) : Prop where
  announced : source.kind = "asn" → ∀ asns, source.asns = some asns → ∀ position asn, asns[position]? = some asn →
    validateAsn asn = .ok () → ∃ prefixes, lookups.announced position asn = some prefixes ∧ ∃ text ∈ prefixes, Parses text
  hosts : source.kind = "dns" → ∀ hostnames, source.hostnames = some hostnames → ∀ position host,
    hostnames[position]? = some host → ∃ addrs, lookups.hosts position host = some addrs ∧ ∃ ip, IpAddr.v4 ip ∈ addrs
  allocated : source.kind = "geoip" → ∀ country code, source.country = some country → validateCountry country = .ok code →
    ∃ prefixes, lookups.allocated code = some prefixes ∧ ∃ text ∈ prefixes, Parses text

/-- Every request of both lists is answered, and in time. -/
structure Network.Answers (network : Network) (bypass : BypassConfig) : Prop where
  inTime : network.elapsed ≤ resolveTotalTimeout
  included : ∀ index source, bypass.includes[index]? = some source → Answered (network.included index) source
  excluded : ∀ index source, bypass.excludes[index]? = some source → Answered (network.excluded index) source

variable {lookups : Lookups} {source : BypassSourceEntry} {bypass : BypassConfig}

end Slipmesh.Router
