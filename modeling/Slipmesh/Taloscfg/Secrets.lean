import Mathlib.Data.String.Basic
import Slipmesh.Library.Ordered
import Slipmesh.Taloscfg.Keys
import Slipmesh.Taloscfg.MeshConfig
import Slipmesh.Taloscfg.ObfuscationGen

/-! `taloscfg::secrets`: the topology's secrets, each as the topology sets it or
drawn by this run. -/

namespace Slipmesh.Taloscfg
open Common Library

structure ResolvedSecrets where
  meshPrivateKeys : SortedMap String String
  meshLinkObfuscation : SortedMap String Obfuscation
  roadwarriorPrivateKeys : SortedMap String String
  roadwarriorObfuscation : SortedMap String Obfuscation

/-- The pair's two names in order. -/
def linkKey (pair : String × String) : String :=
  let sorted := if pair.2 < pair.1 then pair.swap else pair
  sorted.1 ++ "|" ++ sorted.2

structure PoolMinted where
  name : String
  privateKey : Option String
  obfuscation : Option Obfuscation
deriving DecidableEq

/-- What a run drew, by the position of the entry or the name of the pool. -/
structure Minted where
  nodeKeys : List (Nat × String) := []
  linkObfuscation : List (Nat × Obfuscation) := []
  pools : List PoolMinted := []
  names : List String := []
deriving DecidableEq

def Minted.isEmpty (minted : Minted) : Bool := minted.names.isEmpty

/-- The random draws of one run, for each entry that may need one. -/
structure Draws where
  nodeKey : Nat → Key
  linkObfuscation : Nat → Draw
  poolKey : Nat → Key
  poolObfuscation : Nat → Draw

/-- The key and, apart, the one generated. -/
def resolveKey (curve : Curve) (specific : Option String) (secret : Key) : String × Option String :=
  match specific with
  | some key => (key, none)
  | none =>
    let key := generatePrivateKey curve secret
    (key, some key)

/-- One way of joining two values, for each of the fields. -/
def joinFields (join : {α : Type} → Option α → Option α → Option α) (a b : Obfuscation) : Obfuscation :=
  { jc := join a.jc b.jc
    jmin := join a.jmin b.jmin
    jmax := join a.jmax b.jmax
    s1 := join a.s1 b.s1
    s2 := join a.s2 b.s2
    s3 := join a.s3 b.s3
    s4 := join a.s4 b.s4
    h1 := join a.h1 b.h1
    h2 := join a.h2 b.h2
    h3 := join a.h3 b.h3
    h4 := join a.h4 b.h4
    i1 := join a.i1 b.i1
    i2 := join a.i2 b.i2
    i3 := join a.i3 b.i3
    i4 := join a.i4 b.i4
    i5 := join a.i5 b.i5
    headerProtectionKey := join a.headerProtectionKey b.headerProtectionKey
    contentPaddingAddition := join a.contentPaddingAddition b.contentPaddingAddition
    rekeyAfterTime := join a.rekeyAfterTime b.rekeyAfterTime
    rekeyTimeout := join a.rekeyTimeout b.rekeyTimeout
    rejectAfterTime := join a.rejectAfterTime b.rejectAfterTime
    keepaliveTimeout := join a.keepaliveTimeout b.keepaliveTimeout
    maxHandshakeAttempts := join a.maxHandshakeAttempts b.maxHandshakeAttempts
    randomTrailers := join a.randomTrailers b.randomTrailers
    disableCookies := join a.disableCookies b.disableCookies }

/-- The second value where the first is unset. -/
def orElse {α : Type} (first second : Option α) : Option α := first.or second

/-- What the second value adds where the first is unset. -/
def unlessSet {α : Type} (first second : Option α) : Option α := if first.isSome then none else second

/-- `specific` over `global` over fresh values, and, apart, the fresh values taken. -/
def resolveObfuscation (specific global : Obfuscation) (draw : Draw) : Obfuscation × Obfuscation :=
  let fresh := generate draw
  let set := joinFields orElse specific global
  (joinFields orElse set fresh, joinFields unlessSet set fresh)

def resolveUnlessPlain (plain : Bool) (specific global : Obfuscation) (draw : Draw) : Obfuscation × Option Obfuscation :=
  if plain then ({}, none)
  else
    let (resolved, generated) := resolveObfuscation specific global draw
    (resolved, if generated ≠ {} then some generated else none)

def resolveNode (curve : Curve) (draws : Draws) (node : NodeEntry) (index : Nat) : String × Option String :=
  resolveKey curve node.meshPrivateKey (draws.nodeKey index)

def resolveLink (draws : Draws) (topology : MeshConfig) (link : MeshLink) (index : Nat) :
    Obfuscation × Option Obfuscation :=
  resolveUnlessPlain link.plain link.obfuscation topology.obfuscation (draws.linkObfuscation index)

def resolvePoolKey (curve : Curve) (draws : Draws) (pool : RoadwarriorPool) (index : Nat) : String × Option String :=
  resolveKey curve pool.privateKey (draws.poolKey index)

def resolvePoolObfuscation (draws : Draws) (topology : MeshConfig) (pool : RoadwarriorPool) (index : Nat) :
    Obfuscation × Option Obfuscation :=
  resolveUnlessPlain pool.plain pool.obfuscation topology.obfuscation (draws.poolObfuscation index)

def mintedPool (curve : Curve) (draws : Draws) (topology : MeshConfig) (pool : RoadwarriorPool) (index : Nat) :
    Option PoolMinted :=
  let privateKey := (resolvePoolKey curve draws pool index).2
  let obfuscation := (resolvePoolObfuscation draws topology pool index).2
  if privateKey.isSome ∨ obfuscation.isSome then some ⟨pool.name, privateKey, obfuscation⟩ else none

/-- How a message names what was minted: the nodes, the links, then each pool. -/
def mintedNames (curve : Curve) (draws : Draws) (topology : MeshConfig) : List String :=
  (topology.nodes.zipIdx.filterMap fun (node, index) =>
    (resolveNode curve draws node index).2.map fun _ => "nodes[" ++ node.name ++ "].mesh_private_key") ++
  (topology.links.zipIdx.filterMap fun (link, index) =>
    (resolveLink draws topology link index).2.map fun _ => "mesh.links[" ++ linkKey link.pair ++ "].obfuscation") ++
  topology.roadwarriors.zipIdx.flatMap fun (pool, index) =>
    ((resolvePoolKey curve draws pool index).2.map fun _ => "roadwarriors[" ++ pool.name ++ "].private_key").toList ++
    ((resolvePoolObfuscation draws topology pool index).2.map fun _ =>
      "roadwarriors[" ++ pool.name ++ "].obfuscation").toList

def resolve (curve : Curve) (draws : Draws) (topology : MeshConfig) : ResolvedSecrets × Minted :=
  let nodes := topology.nodes.zipIdx
  let links := topology.links.zipIdx
  let pools := topology.roadwarriors.zipIdx
  ({ meshPrivateKeys := SortedMap.ofPairs (nodes.map fun (node, index) => (node.name, (resolveNode curve draws node index).1))
     meshLinkObfuscation := SortedMap.ofPairs (links.map fun (link, index) =>
      (linkKey link.pair, (resolveLink draws topology link index).1))
     roadwarriorPrivateKeys := SortedMap.ofPairs (pools.map fun (pool, index) =>
      (pool.name, (resolvePoolKey curve draws pool index).1))
     roadwarriorObfuscation := SortedMap.ofPairs (pools.map fun (pool, index) =>
      (pool.name, (resolvePoolObfuscation draws topology pool index).1)) },
   { nodeKeys := nodes.filterMap fun (node, index) => (resolveNode curve draws node index).2.map (index, ·)
     linkObfuscation := links.filterMap fun (link, index) => (resolveLink draws topology link index).2.map (index, ·)
     pools := pools.filterMap fun (pool, index) => mintedPool curve draws topology pool index
     names := mintedNames curve draws topology })

end Slipmesh.Taloscfg
