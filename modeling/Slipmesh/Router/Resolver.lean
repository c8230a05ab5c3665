import Slipmesh.Router.Config
import Mathlib.Data.String.Basic

/-! `router::resolver`: bypass sources into networks, and every exclusion punched
out of every included prefix. What the network answers is a parameter. -/

namespace Slipmesh.Router
open Net Library

/-- The answers to the requests one source makes; `none` is a request that failed. -/
structure Lookups where
  /-- The `prefix` texts announced by the ASN at this position of the list. -/
  announced : Nat → String → Option (List String)
  /-- The addresses of the hostname at this position of the list. -/
  hosts : Nat → String → Option (List IpAddr)
  /-- The `ipv4` texts of a country. -/
  allocated : String → Option (List String)

inductive ResolveError where
  | missingField (kind field : String)
  | asnScheme (asn : String)
  | asnDigits (asn : String)
  | country (code : String)
  | announcedFailed (asn : String)
  | lookupFailed (host : String)
  | allocatedFailed (country : String)
  | unknownKind (kind : String)
  | noPrefixes
deriving DecidableEq, Repr

def parseCidr (text : String) : Option Cidr := (Cidr.parseCidr text).toOption

def formatCidr (net : Cidr) : String := Common.Cidr.textWith Ipv4Addr.text net

def stripAs : List Char → Option (List Char)
  | 'A' :: 'S' :: digits => some digits
  | _ => none

def validateAsn (asn : String) : Except ResolveError Unit :=
  match stripAs asn.toList with
  | none => .error (.asnScheme asn)
  | some digits => if digits ≠ [] ∧ digits.all Char.isDigit then .ok () else .error (.asnDigits asn)

/-- The upper-case code of a country. -/
def validateCountry (country : String) : Except ResolveError String :=
  let letters := country.toList
  if letters.length = 2 ∧ letters.all Char.isAlpha then .ok (String.ofList (letters.map Char.toUpper))
  else .error (.country country)

def asnPrefixes (lookups : Lookups) (asn : String) (position : Nat) : Except ResolveError (List String) := do
  validateAsn asn
  let some prefixes := lookups.announced position asn | throw (.announcedFailed asn)
  return prefixes.filter fun text => ':' ∉ text.toList

def needed {α : Type} (kind field : String) (value : Option α) : Except ResolveError α :=
  value.elim (.error (.missingField kind field)) .ok

def hostEntries (label : String) (addrs : List IpAddr) : List (String × String) :=
  addrs.filterMap fun
    | .v4 ip => some (Ipv4Addr.text ip ++ "/32", label)
    | .v6 _ => none

/-- The prefix texts of a source, each with its label. -/
def collectSource (lookups : Lookups) (source : BypassSourceEntry) : Except ResolveError (List (String × String)) :=
  match source.kind with
  | "literal" => do
    let prefixes ← needed "literal" "prefixes" source.prefixes
    return prefixes.map fun p => (p.net, p.label.getD "")
  | "asn" => do
    let label ← needed "asn" "label" source.label
    let asns ← needed "asn" "asns" source.asns
    let routes ← asns.zipIdx.mapM fun (asn, position) => asnPrefixes lookups asn position
    return routes.flatten.map fun route => (route, label)
  | "dns" => do
    let label ← needed "dns" "label" source.label
    let hostnames ← needed "dns" "hostnames" source.hostnames
    let entries ← hostnames.zipIdx.mapM fun (host, position) =>
      (lookups.hosts position host).elim (.error (.lookupFailed host)) (.ok ∘ hostEntries label)
    return entries.flatten
  | "geoip" => do
    let country ← validateCountry (← needed "geoip" "country" source.country)
    let label := source.label.getD ("geoip " ++ country)
    let some prefixes := lookups.allocated country | throw (.allocatedFailed country)
    return prefixes.map fun p => (p, label)
  | other => .error (.unknownKind other)

def insertEntry (map : SortedMap Cidr String) (entry : String × String) : SortedMap Cidr String :=
  match parseCidr entry.1 with
  | some net => map.orInsert net entry.2
  | none => map

/-- Every network that parses, under the label it is first seen with. -/
def byNet (entries : List (String × String)) : SortedMap Cidr String := entries.foldl insertEntry .empty

def pushNet (map : SortedMap String (List Cidr)) (net : Cidr × String) : SortedMap String (List Cidr) :=
  map.alter net.2 fun listed => listed.getD [] ++ [net.1]

def byLabel (nets : SortedMap Cidr String) : SortedMap String (List Cidr) := nets.entries.foldl pushNet .empty

def dedupeAndAggregate (entries : List (String × String)) : List (Cidr × String) :=
  let collapsed := (byLabel (byNet entries)).entries.flatMap fun (label, nets) =>
    (Cidr.collapse nets).map fun net => (net, label)
  (sort (collapsed.map toLex)).map ofLex

/-- The texts of all sources, in their order. -/
def collectEntries (lookups : Nat → Lookups) (sources : List BypassSourceEntry) :
    Except ResolveError (List (String × String)) := do
  let perSource ← sources.zipIdx.mapM fun (source, index) => collectSource (lookups index) source
  return perSource.flatten

def resolveEntries (lookups : Nat → Lookups) (sources : List BypassSourceEntry) :
    Except ResolveError (List (Cidr × String)) := do
  return dedupeAndAggregate (← collectEntries lookups sources)

/-- What is left of one pending network after one exclusion. -/
def punch (exclude net : Cidr) : List Cidr :=
  if exclude.contains net then []
  else if net.contains exclude then net.addressExclude exclude
  else [net]

def punchAll (excludes : List Cidr) (net : Cidr) : List Cidr :=
  excludes.foldl (fun pending exclude => pending.flatMap (punch exclude)) [net]

/-- The routes of the bypass. Included and excluded sources make their own requests. -/
def resolveInner (included excluded : Nat → Lookups) (sources exclude : List BypassSourceEntry) :
    Except ResolveError (List (String × String)) := do
  let nets ← resolveEntries included sources
  if nets = [] then throw .noPrefixes
  let excludes := Cidr.collapse ((← resolveEntries excluded exclude).map Prod.fst)
  let out := nets.flatMap fun (net, label) => (punchAll excludes net).map fun n => (formatCidr n, label)
  return (sort (out.map toLex)).map ofLex

/-- What the network does during one resolution. -/
structure Network where
  included : Nat → Lookups
  excluded : Nat → Lookups
  /-- The seconds until the last answer that the resolution waits for. -/
  elapsed : Nat

inductive ResolveFailure where
  | exceededBudget
  | failed (reason : ResolveError)
deriving DecidableEq, Repr

/-- The seconds that a whole resolution may take. -/
def resolveTotalTimeout : Nat := 120

def resolve (network : Network) (sources exclude : List BypassSourceEntry) :
    Except ResolveFailure (List (String × String)) :=
  if network.elapsed ≤ resolveTotalTimeout then
    (resolveInner network.included network.excluded sources exclude).mapError .failed
  else throw .exceededBudget

end Slipmesh.Router
