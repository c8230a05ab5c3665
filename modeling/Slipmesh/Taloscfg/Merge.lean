import Slipmesh.Yaml

/-! `taloscfg::merge`: documents of one identity, merged as JSON merge patches. -/

namespace Slipmesh.Taloscfg
open Library Yaml

/-- What a mapping is merged over: a base that is no bare mapping counts as empty. -/
def bareEntries : Value → List (Value × Value)
  | .mapping none entries => entries
  | _ => []

mutual

/-- A mapping is merged key by key, anything else replaces what was there. -/
def merge : Value → Value → Value
  | base, .mapping _ overlay => .mapping none (mergeEntries (bareEntries base) overlay)
  | _, overlay => overlay
termination_by structural _ overlay => overlay

/-- A null removes its key. -/
def mergeEntries : List (Value × Value) → List (Value × Value) → List (Value × Value)
  | merged, [] => merged
  | merged, (key, value) :: rest =>
    if value.isNull then mergeEntries (IndexMap.remove merged key) rest
    else mergeEntries (IndexMap.insert merged key (merge ((merged.lookup key).getD .null) value)) rest
termination_by structural _ overlay => overlay

end

/-- The directive that makes a document a deletion. -/
def isDeletion (document : Value) : Bool := (document.get "$patch").bind Value.asStr = some "delete"

/-- A deletion on either side is not merged: the overlay replaces the base. -/
def mergeDocument (base overlay : Value) : Value :=
  if isDeletion overlay || isDeletion base then overlay else merge base overlay

end Slipmesh.Taloscfg
