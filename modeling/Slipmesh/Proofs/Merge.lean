import Mathlib.Data.List.DropRight
import Slipmesh.Taloscfg.SlipmeshFile

/-! What a merge keeps of its two sides: the identity, whether it is a deletion, and
the files. The documents of one identity have the files that the last of them to
decide the list gives. -/

namespace Slipmesh.Taloscfg
open Library Yaml

/-- A document as a merge over it sees it. -/
def bare (document : Value) : Value := .mapping none (bareEntries document)

theorem bare_cases (document : Value) : bare document = document ∨ bare document = .mapping none [] := by
  match document with
  | .mapping none entries => exact .inl rfl
  | .mapping (some tag) entries => exact .inr rfl
  | .scalar tag content => exact .inr rfl
  | .sequence tag items => exact .inr rfl

/-- A document whose merges go by its keys. -/
structure Keyed (document : Value) : Prop where
  mapping : document.asMapping.isSome
  distinct : document.keys.Nodup

theorem lookup_mergeEntries (base overlay : List (Value × Value)) (distinct : (overlay.map Prod.fst).Nodup) (key : Value) :
    (mergeEntries base overlay).lookup key = match overlay.lookup key with
      | none => base.lookup key
      | some value => if value.isNull then none else some (merge ((base.lookup key).getD .null) value) := by
  induction overlay generalizing base with
  | nil => rfl
  | cons entry overlay ih =>
    obtain ⟨other, value⟩ := entry
    simp only [List.map_cons, List.nodup_cons] at distinct
    obtain ⟨fresh, distinct⟩ := distinct
    rw [mergeEntries, IndexMap.lookup_cons]
    by_cases same : other = key
    · -- The rest of the overlay leaves the key as this entry has set it.
      have missing := (IndexMap.lookup_eq_none overlay key).mpr (same ▸ fresh)
      cases null : value.isNull with
      | true => simp [ih _ distinct, missing, same, null]
      | false => simp [ih _ distinct, missing, same, null, IndexMap.lookup_insert]
    · have differ : key ≠ other := Ne.symm same
      cases null : value.isNull with
      | true => simp [ih _ distinct, same, IndexMap.lookup_remove _ differ]
      | false => simp [ih _ distinct, same, differ, IndexMap.lookup_insert]

theorem get_merge (base overlay : Value) (keyed : Keyed overlay) (key : String) :
    (merge base overlay).get key = match overlay.get key with
      | none => (bare base).get key
      | some value => if value.isNull then none else some (merge (((bare base).get key).getD .null) value) := by
  obtain ⟨mapping, distinct⟩ := keyed
  cases overlay with
  | scalar tag content => cases mapping
  | sequence tag items => cases mapping
  | mapping tag overlay => exact lookup_mergeEntries (bareEntries base) overlay distinct _

theorem bare_merge {base overlay : Value} (keyed : Keyed overlay) : bare (merge base overlay) = merge base overlay := by
  obtain ⟨mapping, -⟩ := keyed
  cases overlay with
  | scalar tag content => cases mapping
  | sequence tag items => cases mapping
  | mapping tag overlay => rfl

/-- A reading of what a key holds that a merge takes from its overlay alone. -/
structure Reading (α : Type) where
  read : Value → Option α
  null : ∀ value, value.isNull → read value = none
  merge : ∀ base value, read (merge base value) = read value

def Reading.at {α : Type} (reading : Reading α) (key : String) (document : Value) : Option α :=
  (document.get key).bind reading.read

theorem Reading.at_merge {α : Type} (reading : Reading α) (key : String) (base overlay : Value) (keyed : Keyed overlay) :
    reading.at key (Taloscfg.merge base overlay) =
      if (overlay.get key).isSome then reading.at key overlay else reading.at key (bare base) := by
  rw [Reading.at, get_merge base overlay keyed]
  cases held : overlay.get key with
  | none => simp [Reading.at]
  | some value =>
    cases null : value.isNull with
    | true => simp [null, Reading.at, held, reading.null value null]
    | false => simp [null, Reading.at, held, reading.merge]

def strings : Reading String where
  read := Value.asStr
  null value isNull := by
    cases value with
    | sequence tag items => rfl
    | mapping tag entries => rfl
    | scalar tag content =>
      cases content with
      | string text => cases isNull
      | _ => rfl
  merge base value := by cases value <;> rfl

def lists : Reading (List Value) where
  read := Value.asSequence
  null value isNull := by
    cases value with
    | scalar tag content => rfl
    | sequence tag items => cases isNull
    | mapping tag entries => cases isNull
  merge base value := by cases value <;> rfl

/-! ### Documents -/

theorem isDeletion_bare {document : Value} (kept : isDeletion document = false) : isDeletion (bare document) = false := by
  rcases bare_cases document with same | empty
  · rw [same]
    exact kept
  · rw [empty]
    rfl

theorem merge_scalar {base overlay : Value} (plain : overlay.asMapping = none) : merge base overlay = overlay := by
  cases overlay with
  | scalar tag content => rfl
  | sequence tag items => rfl
  | mapping tag entries => cases plain

theorem isDeletion_merge {base overlay : Value} (distinct : overlay.keys.Nodup) (kept : isDeletion base = false)
    (edits : isDeletion overlay = false) : isDeletion (merge base overlay) = false := by
  have read (document : Value) : isDeletion document = decide (strings.at "$patch" document = some "delete") := rfl
  cases entries : overlay.asMapping with
  | none =>
    rw [merge_scalar entries]
    exact edits
  | some entries' =>
    rw [read, strings.at_merge _ _ _ ⟨by rw [entries]; rfl, distinct⟩]
    split
    · exact edits
    · exact isDeletion_bare kept

/-- A merge is a deletion where its overlay is. -/
theorem isDeletion_mergeDocument {base overlay : Value} (distinct : overlay.keys.Nodup) :
    isDeletion (mergeDocument base overlay) = isDeletion overlay := by
  rw [mergeDocument]
  cases edits : isDeletion overlay with
  | true => simp [edits]
  | false =>
    cases kept : isDeletion base with
    | true => simp [edits]
    | false => simpa using isDeletion_merge distinct kept edits

/-- Two documents of one identity merge into a document of it. -/
theorem identity_mergeDocument {base overlay : Value} (keyed : Keyed overlay)
    (same : Identity.of base = Identity.of overlay) : Identity.of (mergeDocument base overlay) = Identity.of overlay := by
  have field (key : String) (equal : strings.at key base = strings.at key overlay) :
      strings.at key (merge base overlay) = strings.at key overlay := by
    rw [strings.at_merge _ _ _ keyed]
    cases held : overlay.get key with
    | some value => simp
    | none =>
      have absent : strings.at key overlay = none := by simp [Reading.at, held]
      rw [absent] at equal ⊢
      rcases bare_cases base with whole | empty
      · rw [whole]
        simpa using equal
      · rw [empty]
        rfl
  rw [mergeDocument]
  split
  · rfl
  · simp only [Identity.of, Identity.mk.injEq] at same ⊢
    obtain ⟨version, kind, name⟩ := same
    exact ⟨field _ version, field _ kind, field _ name⟩

theorem configFiles_merge (base overlay : Value) (keyed : Keyed overlay) :
    configFiles (merge base overlay) =
      if (overlay.get "configFiles").isSome then configFiles overlay else configFiles (bare base) := by
  have read (document : Value) : configFiles document = (lists.at "configFiles" document).getD [] := rfl
  rw [read, lists.at_merge _ _ _ keyed]
  split
  · rfl
  · rfl

theorem mem_configFiles_mergeDocument {base overlay : Value} (keyed : Keyed overlay) {file : Value}
    (held : file ∈ configFiles (mergeDocument base overlay)) : file ∈ configFiles base ∨ file ∈ configFiles overlay := by
  rw [mergeDocument] at held
  split at held
  · exact .inr held
  · rw [configFiles_merge base overlay keyed] at held
    split at held
    · exact .inr held
    · rcases bare_cases base with whole | empty
      · rw [whole] at held
        exact .inl held
      · rw [empty] at held
        cases held

/-! ### All the documents of an identity -/

theorem mergeAll_append {documents : List Value} (some : documents ≠ []) (later : List Value) :
    mergeAll (documents ++ later) = later.foldl mergeDocument (mergeAll documents) := by
  cases documents with
  | nil => exact absurd rfl some
  | cons first rest => simp [mergeAll, List.foldl_append]

theorem mergeAll_concat (documents : List Value) (last : Value) :
    mergeAll (documents ++ [last]) = if documents = [] then last else mergeDocument (mergeAll documents) last := by
  split
  · rename_i empty
    rw [empty]
    rfl
  · rename_i some
    rw [mergeAll_append some]
    rfl

theorem isDeletion_mergeAll {documents : List Value} {last : Value} (distinct : last.keys.Nodup) :
    isDeletion (mergeAll (documents ++ [last])) = isDeletion last := by
  rw [mergeAll_concat]
  split
  · rfl
  · exact isDeletion_mergeDocument distinct

/-- The documents after the last deletion. -/
def afterDeletions (documents : List Value) : List Value := documents.rtakeWhile (!isDeletion ·)

theorem afterDeletions_append {earlier later : List Value} {deletion : Value} (deletes : isDeletion deletion)
    (edits : ∀ document ∈ later, isDeletion document = false) : afterDeletions (earlier ++ deletion :: later) = later := by
  induction later using List.reverseRecOn with
  | nil => exact List.rtakeWhile_concat_neg _ _ _ (by simp [deletes])
  | append_singleton later last ih =>
    have whole : earlier ++ deletion :: (later ++ [last]) = (earlier ++ deletion :: later) ++ [last] := by simp
    rw [whole, afterDeletions, List.rtakeWhile_concat_pos _ _ _ (by simp [edits last (by simp)]), ← afterDeletions,
      ih fun document member => edits document (by simp [member])]

/-- A run of merges starts anew at a deletion. -/
theorem mergeAll_afterDeletions {documents : List Value} {last : Value}
    (distinct : ∀ document ∈ documents, document.keys.Nodup) (edits : isDeletion last = false) :
    mergeAll (documents ++ [last]) = mergeAll (afterDeletions (documents ++ [last])) := by
  induction documents using List.reverseRecOn generalizing last with
  | nil => simp [afterDeletions, List.rtakeWhile, edits]
  | append_singleton documents previous ih =>
    rw [afterDeletions, List.rtakeWhile_concat_pos _ _ _ (by simp [edits]), ← afterDeletions, mergeAll_concat, if_neg (by simp)]
    have before := @isDeletion_mergeAll documents previous (distinct previous (by simp))
    cases deletes : isDeletion previous with
    | true =>
      rw [afterDeletions_append deletes (by simp), List.nil_append, mergeDocument, before, deletes]
      simp [mergeAll]
    | false =>
      have later : afterDeletions (documents ++ [previous]) ≠ [] := by
        rw [afterDeletions, List.rtakeWhile_concat_pos _ _ _ (by simp [deletes])]
        simp
      rw [ih (fun document member => distinct document (by simp [member])) deletes, mergeAll_concat, if_neg later]

/-- The documents of an identity come to a deletion where the last is one, and then to
that. Else nothing from before the last deletion is left. -/
theorem mergeAll_startsAnew {documents : List Value} (some : documents ≠ [])
    (distinct : ∀ document ∈ documents, document.keys.Nodup) :
    (isDeletion (mergeAll documents) ↔ isDeletion (documents.getLast some)) ∧
    (isDeletion (mergeAll documents) → mergeAll documents = documents.getLast some) ∧
    (isDeletion (mergeAll documents) = false → mergeAll documents = mergeAll (afterDeletions documents)) := by
  induction documents using List.reverseRecOn with
  | nil => exact absurd rfl some
  | append_singleton documents last _ =>
    have result := @isDeletion_mergeAll documents last (distinct last (by simp))
    rw [List.getLast_append_singleton, result]
    refine ⟨Iff.rfl, ?_, ?_⟩
    · intro deletes
      rw [mergeAll_concat]
      split
      · rfl
      · simp [mergeDocument, deletes]
    · exact mergeAll_afterDeletions fun document member => distinct document (by simp [member])

private def directive : Value := .mapping none [(.ofString "$patch", .ofString "delete")]

private def setting (key : String) : Value := .mapping none [(.ofString key, .ofString "set")]

theorem deleted_startsAnew : mergeAll [setting "a", directive, setting "b", setting "c"] =
    .mapping none [(.ofString "b", .ofString "set"), (.ofString "c", .ofString "set")] :=
  ((@mergeAll_startsAnew [setting "a", directive, setting "b", setting "c"] (by simp) (by decide)).2.2
    (by decide)).trans (by decide)

theorem mem_configFiles_mergeAll {documents : List Value} (keyed : ∀ document ∈ documents, Keyed document) {file : Value}
    (held : file ∈ configFiles (mergeAll documents)) : ∃ document ∈ documents, file ∈ configFiles document := by
  induction documents using List.reverseRecOn with
  | nil => cases held
  | append_singleton documents last ih =>
    rw [mergeAll_concat] at held
    split at held
    · exact ⟨last, by simp, held⟩
    · rcases mem_configFiles_mergeDocument (keyed last (by simp)) held with earlier | own
      · obtain ⟨document, member, found⟩ := ih (fun document member => keyed document (by simp [member])) earlier
        exact ⟨document, by simp [member], found⟩
      · exact ⟨last, by simp, own⟩

theorem identity_mergeAll {documents : List Value} (keyed : ∀ document ∈ documents, Keyed document) {identity : Identity}
    (same : ∀ document ∈ documents, Identity.of document = identity) (some : documents ≠ []) :
    Identity.of (mergeAll documents) = identity := by
  induction documents using List.reverseRecOn with
  | nil => exact absurd rfl some
  | append_singleton documents last ih =>
    have own := same last (by simp)
    rw [mergeAll_concat]
    split
    · exact own
    · rename_i others
      have earlier := ih (fun document member => keyed document (by simp [member]))
        (fun document member => same document (by simp [member])) others
      rw [identity_mergeDocument (keyed last (by simp)) (earlier.trans own.symm), own]

/-- The document takes the place of those before it, given the last one first. -/
def replaces (patch : Value) : List Value → Bool
  | [] => true
  | previous :: _ => isDeletion patch || isDeletion previous

/-- The list of files is the document's own, whatever those before it have. -/
def decides (patch : Value) : List Value → Bool
  | [] => true
  | previous :: older =>
    replaces patch (previous :: older) || (patch.get "configFiles").isSome ||
      decide (bare previous ≠ previous) && replaces previous older

/-- The last document to decide the list of files gives some; the documents come with
the last one first. -/
def leavesFiles : List Value → Bool
  | [] => false
  | patch :: before => if decides patch before then configFiles patch ≠ [] else leavesFiles before

/-- The files of the last document to decide the list, in the same order. -/
def lastFiles : List Value → List Value
  | [] => []
  | patch :: before => if decides patch before then configFiles patch else lastFiles before

theorem leavesFiles_eq (documents : List Value) : leavesFiles documents = decide (lastFiles documents ≠ []) := by
  induction documents with
  | nil => rfl
  | cons patch before ih =>
    rw [leavesFiles, lastFiles]
    split
    · rfl
    · exact ih

theorem mergeAll_replaced {documents : List Value} {last : Value} (keyed : ∀ document ∈ documents, Keyed document)
    (replaced : replaces last documents.reverse) : mergeAll (documents ++ [last]) = last := by
  rw [mergeAll_concat]
  cases documents using List.reverseRecOn with
  | nil => rfl
  | append_singleton older previous =>
    rw [List.reverse_concat, replaces, Bool.or_eq_true] at replaced
    simp [mergeDocument, isDeletion_mergeAll (keyed previous (by simp)).distinct, replaced]

theorem mergeAll_merged {documents : List Value} {last : Value} (keyed : ∀ document ∈ documents, Keyed document)
    (merged : replaces last documents.reverse = false) :
    mergeAll (documents ++ [last]) = merge (mergeAll documents) last := by
  rw [mergeAll_concat]
  cases documents using List.reverseRecOn with
  | nil => cases merged
  | append_singleton older previous =>
    rw [List.reverse_concat, replaces, Bool.or_eq_false_iff] at merged
    simp [mergeDocument, isDeletion_mergeAll (keyed previous (by simp)).distinct, merged]

theorem configFiles_missing {document : Value} (absent : (document.get "configFiles").isSome = false) :
    configFiles document = [] := by
  rw [Option.isSome_eq_false_iff, Option.isNone_iff_eq_none] at absent
  simp [configFiles, absent]

/-- What a document without the key inherits: all the files of a merge, and of a lone
document those of a bare mapping. -/
theorem configFiles_bare_mergeAll {older : List Value} {previous : Value} (keyed : ∀ document ∈ older, Keyed document)
    (own : Keyed previous) :
    configFiles (bare (mergeAll (older ++ [previous]))) =
      if decide (bare previous ≠ previous) && replaces previous older.reverse then []
      else configFiles (mergeAll (older ++ [previous])) := by
  cases alone : replaces previous older.reverse with
  | true =>
    rw [mergeAll_replaced keyed alone]
    rcases bare_cases previous with same | empty
    · simp [same]
    · by_cases same : bare previous = previous
      · simp [same]
      · rw [empty] at same ⊢
        simp [same, configFiles, Value.get, Value.asMapping]
  | false =>
    rw [mergeAll_merged keyed alone, bare_merge own]
    simp

theorem configFiles_concat {documents : List Value} {last : Value} (keyed : ∀ document ∈ documents, Keyed document)
    (own : Keyed last) :
    configFiles (mergeAll (documents ++ [last])) =
      if decides last documents.reverse then configFiles last else configFiles (mergeAll documents) := by
  cases documents using List.reverseRecOn with
  | nil => rfl
  | append_singleton older previous =>
    cases replaced : replaces last (older ++ [previous]).reverse with
    | true =>
      rw [mergeAll_replaced keyed replaced]
      rw [List.reverse_concat] at replaced ⊢
      simp [decides, replaced]
    | false =>
      rw [mergeAll_merged keyed replaced, configFiles_merge _ _ own]
      rw [List.reverse_concat] at replaced ⊢
      rw [configFiles_bare_mergeAll (fun document member => keyed document (by simp [member])) (keyed previous (by simp)),
        decides, replaced, Bool.false_or]
      cases given : (last.get "configFiles").isSome with
      | true => simp
      | false => simp [configFiles_missing given]

/-- The merge of all the documents has the files of the last document to decide the list. -/
theorem configFiles_mergeAll_eq {documents : List Value} (keyed : ∀ document ∈ documents, Keyed document) :
    configFiles (mergeAll documents) = lastFiles documents.reverse := by
  induction documents using List.reverseRecOn with
  | nil => rfl
  | append_singleton documents last ih =>
    have before : ∀ document ∈ documents, Keyed document := fun document member => keyed document (by simp [member])
    rw [configFiles_concat before (keyed last (by simp)), List.reverse_concat, lastFiles, ih before]

theorem configFiles_mergeAll {documents : List Value} (keyed : ∀ document ∈ documents, Keyed document) :
    configFiles (mergeAll documents) ≠ [] ↔ leavesFiles documents.reverse := by
  rw [configFiles_mergeAll_eq keyed, leavesFiles_eq, decide_eq_true_eq]

end Slipmesh.Taloscfg
