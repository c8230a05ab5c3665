import Mathlib.Data.List.Dedup
import Slipmesh.Library.Runs
import Slipmesh.Proofs.RulesetScan

/-! What a ruleset's layout has to be for `apply` to be repeatable: the scan then
finds the declared tables and no others. -/

namespace Slipmesh.Nftables
open Library Text

/-- What `apply` deletes are the tables that the ruleset declares. -/
def Layout.Scanned (layout : Layout) : Prop :=
  ∀ texts, texts ∈ declaredTables layout.text ↔ ∃ table ∈ layout.tables, table.texts = texts

/-- The layouts that the scan reads rightly: each declared table has a header that
begins its line in the form of the scan, or is named by a line of a body; no header that
begins its line is torn; a line of a body names no other table. -/
structure Layout.Legible (layout : Layout) : Prop where
  found : ∀ table ∈ layout.tables,
    (∃ spot ∈ layout.placed, spot.block.table = table ∧ Indented spot.front ∧ spot.block.Spaced ∧ spot.block.Whole) ∨
      ∃ spot ∈ layout.placed, spot.Stray table.texts
  untorn : ∀ spot ∈ layout.placed, Indented spot.front → spot.block.Spaced → ¬ spot.Torn
  quiet : ∀ spot ∈ layout.placed, ∀ texts, spot.Stray texts → ∃ table ∈ layout.tables, table.texts = texts

theorem Family.text_injective {first second : Family} (same : first.text = second.text) : first = second := by
  cases first <;> cases second <;> first | rfl | exact absurd same (by decide)

theorem Name.text_injective {first second : Name} (same : first.text = second.text) : first = second := by
  cases first
  cases second
  congr

theorem Table.texts_injective {first second : Table} (same : first.texts = second.texts) : first = second := by
  obtain ⟨family, name⟩ := Prod.mk.inj same
  cases first
  cases second
  congr
  · exact Family.text_injective family
  · exact Name.text_injective name

namespace Layout
variable (layout : Layout)

theorem table_mem {spot : Placed} (member : spot ∈ layout.placed) : spot.block.table ∈ layout.tables := by
  rw [tables, ← blocks_placed layout.start layout.blocks, List.map_map]
  exact List.mem_map_of_mem member

theorem legible_of_scanned (scan : layout.Scanned) : layout.Legible where
  found := by
    intro table declared
    obtain ⟨spot, member, ⟨indented, opens⟩ | stray⟩ := layout.mem_declaredTables.mp ((scan _).mpr ⟨table, declared, rfl⟩)
    · obtain ⟨spaced, whole | ⟨-, marked⟩⟩ := spot.torn_or opens
      · have same := (spot.opens_of_whole spaced whole).mp opens
        exact .inl ⟨spot, member, (Table.texts_injective same).symm, indented, spaced, whole⟩
      · exact absurd marked table.not_marked
    · exact .inr ⟨spot, member, stray⟩
  untorn := by
    intro spot member indented spaced torn
    obtain ⟨texts, opens, marked⟩ := spot.opens_of_torn spaced torn
    obtain ⟨table, -, rfl⟩ := (scan texts).mp (layout.mem_declaredTables.mpr ⟨spot, member, .inl ⟨indented, opens⟩⟩)
    exact table.not_marked marked
  quiet := by
    intro spot member texts stray
    exact (scan texts).mp (layout.mem_declaredTables.mpr ⟨spot, member, .inr stray⟩)

theorem scanned_of_legible (legible : layout.Legible) : layout.Scanned := by
  intro texts
  rw [layout.mem_declaredTables]
  constructor
  · intro given
    obtain ⟨spot, member, ⟨indented, opens⟩ | stray⟩ := given
    · obtain ⟨spaced, whole | ⟨torn, -⟩⟩ := spot.torn_or opens
      · have same := (spot.opens_of_whole spaced whole).mp opens
        exact ⟨spot.block.table, layout.table_mem member, same.symm⟩
      · exact absurd torn (legible.untorn spot member indented spaced)
    · exact legible.quiet spot member texts stray
  · intro given
    obtain ⟨table, declared, rfl⟩ := given
    rcases legible.found table declared with ⟨spot, member, same, indented, spaced, whole⟩ | ⟨spot, member, stray⟩
    · exact ⟨spot, member, .inl ⟨indented, (spot.opens_of_whole spaced whole).mpr (by rw [same])⟩⟩
    · exact ⟨spot, member, .inr stray⟩

end Layout

/-! ### What `nft list tables` prints is read back -/

def row (table : Table) : List Char := tableWord ++ ' ' :: (table.family.text.toList ++ ' ' :: table.name.text.toList)

theorem hasHeader_row (table : Table) : HasHeader (row table) table.texts := by
  refine ⟨List.prefix_append (tableWord ++ [' ']) _, [], ?_⟩
  rw [row, words_of_table, words_append_cons (by decide), words_word table.family.toList_ne_nil table.family.solid,
    words_word table.name.toList_ne_nil table.name.solid]
  rfl

theorem trimChars_concat {c : Char} (blank : isWhitespace c = true) (line : List Char) :
    trimChars (line ++ [c]) = trimChars line := by
  rw [trimChars, trimChars, List.dropWhile_append]
  split
  next empty =>
    rw [List.isEmpty_iff.mp empty]
    simp [blank]
  next => rw [List.reverse_append, List.reverse_singleton, List.singleton_append, List.dropWhile_cons_of_pos blank]

theorem trimChars_row (table : Table) : trimChars (row table) = row table := by
  obtain ⟨start, last, shape⟩ : ∃ start last, table.name.text.toList = start ++ [last] :=
    ⟨_, _, (List.dropLast_append_getLast table.name.toList_ne_nil).symm⟩
  have solid := table.name.solid
  simp only [shape, List.all_append, List.all_cons, Bool.and_eq_true, Bool.not_eq_true', List.all_nil] at solid
  have front : (row table).dropWhile isWhitespace = row table := rfl
  have whole : row table = (tableWord ++ ' ' :: (table.family.text.toList ++ ' ' :: start)) ++ [last] := by simp [row, shape]
  rw [trimChars, front, whole, List.reverse_append, List.reverse_singleton, List.singleton_append,
    List.dropWhile_cons_of_neg (by simp [solid.2.1]), List.reverse_cons, List.reverse_reverse]

theorem newline_not_mem_row (table : Table) : '\n' ∉ row table := by
  have family := newline_not_mem_of_solid table.family.solid
  have name := newline_not_mem_of_solid table.name.solid
  simp [row, tableWord, family, name]

theorem splitOn_listing (tables : List Table) : (listing tables).toList.splitOn '\n' = tables.map row ++ [[]] := by
  induction tables with
  | nil => rfl
  | cons table tables ih =>
    have shape : (listing (table :: tables)).toList = row table ++ '\n' :: (listing tables).toList := by
      simp [listing, row, tableWord]
    rw [shape, List.splitOn_append_cons_self_of_not_mem (newline_not_mem_row table), ih]
    rfl

theorem existing_of_listed {tables : List Table} {table : Table} (listed : table ∈ tables) :
    table.texts ∈ existingTables (listing tables) := by
  have read (line : String) : existingTable line = some table.texts ↔ HasHeader (trimChars line.toList) table.texts := by
    rw [← familyAndName_iff]
    rfl
  have full : ¬ HasHeader (trimChars []) table.texts := fun header => header.full rfl
  simp only [existingTables, List.mem_filterMap, read]
  rw [exists_line_iff (fun line => HasHeader (trimChars line) table.texts) full, splitOn_listing]
  · refine ⟨row table, List.mem_append_left _ (List.mem_map_of_mem listed), ?_⟩
    rw [trimChars_row]
    exact hasHeader_row table
  · intro line
    rw [trimChars_concat (by decide)]

/-! ### Apply and watch -/

section Applied
variable {κ : Type} (nft : Nft κ) (held : κ → Table → List (List Char)) (layout : Layout)

/-- After an apply that took the kernel from `before` to `after`: it deleted the
declared tables and no others, so that these hold the ruleset once; they are all found,
another apply changes no table, and no event makes the watchdog act. -/
structure Settled (before after : κ) : Prop where
  deleted : layout.Scanned
  once : ∀ table, held after table = if table ∈ layout.tables then layout.bodies table else held before table
  present : allPresent nft layout.text after = .ok true
  again : ∀ later, apply nft layout.text after = (.ok (), later) → held later = held after
  still : ∀ events : List MonitorEvent, events.foldl (watchdog nft layout.text) after = after

def Settles : Prop := ∀ before after, apply nft layout.text before = (.ok (), after) → Settled nft held layout before after

variable {nft held layout}

theorem loaded_ok {ending : Ending} : loaded ending = .ok () ↔ ∃ status, ending = .exited true status := by
  cases ending with
  | exited success status => cases success <;> simp [loaded]
  | _ => simp [loaded]

theorem mem_tables {table : Table} : table ∈ layout.tables ↔ layout.bodies table ≠ [] := by
  simp [Layout.tables, Layout.bodies, List.filter_eq_nil_iff]

theorem held_cleared (documented : nft.Documented held layout) (listed : List (String × String))
    (known : ∀ texts ∈ listed, ∃ table : Table, table.texts = texts) (kernel : κ) (table : Table) :
    held (listed.foldl (fun kernel texts => nft.deleteTable texts.1 texts.2 kernel) kernel) table =
      if table.texts ∈ listed then [] else held kernel table := by
  induction listed generalizing kernel with
  | nil => rfl
  | cons texts listed ih =>
    obtain ⟨⟨other, rfl⟩, later⟩ := List.forall_mem_cons.mp known
    have deleted : held (nft.deleteTable other.texts.1 other.texts.2 kernel) = _ := documented.deletes other kernel
    rw [List.foldl_cons, ih later, deleted]
    by_cases same : table = other
    · subst same
      simp
    · have apart : table.texts ≠ other.texts := fun texts => same (Table.texts_injective texts)
      simp [same, apart]

theorem held_applied (documented : nft.Documented held layout) (scan : layout.Scanned)
    {before after : κ} (applied : apply nft layout.text before = (.ok (), after)) (table : Table) :
    held after table = if table ∈ layout.tables then layout.bodies table else held before table := by
  obtain ⟨ended, rfl⟩ := Prod.mk.inj applied
  obtain ⟨status, success⟩ := loaded_ok.mp ended
  have known (texts : String × String) (listed : texts ∈ declaredTables layout.text) : ∃ table : Table, table.texts = texts := by
    obtain ⟨table, -, same⟩ := (scan texts).mp listed
    exact ⟨table, same⟩
  have declared : table.texts ∈ declaredTables layout.text ↔ table ∈ layout.tables := by
    rw [scan table.texts]
    constructor
    · intro given
      obtain ⟨other, member, same⟩ := given
      exact Table.texts_injective same ▸ member
    · intro member
      exact ⟨table, member, rfl⟩
  rw [documented.loads _ status _ (Prod.ext success rfl), held_cleared documented _ known]
  simp only [declared]
  split
  next => rfl
  next absent =>
    have none : layout.bodies table = [] := by
      by_contra some
      exact absent (mem_tables.mpr some)
    rw [none, List.append_nil]

theorem present_of_held (documented : nft.Documented held layout) (scan : layout.Scanned)
    {kernel : κ} (holds : ∀ table ∈ layout.tables, held kernel table ≠ []) : allPresent nft layout.text kernel = .ok true := by
  obtain ⟨tables, -, exist, status, listed⟩ := documented.lists kernel
  simp only [allPresent, listed]
  split
  next => rfl
  next =>
    simp only [Except.ok.injEq, List.all_eq_true, decide_eq_true_eq]
    intro texts wanted
    obtain ⟨table, declared, rfl⟩ := (scan texts).mp wanted
    exact existing_of_listed ((exist table).mpr (holds table declared))

theorem still_of_present {kernel : κ} (present : allPresent nft layout.text kernel = .ok true) (events : List MonitorEvent) :
    events.foldl (watchdog nft layout.text) kernel = kernel := by
  refine run_invariant (fun state => state = kernel) ?_ events rfl
  intro state event same
  subst same
  cases event with
  | line text => simp [watchdog, present]
  | exited => rfl
  | unreadable => rfl

theorem settled_of_legible (documented : nft.Documented held layout) (legible : layout.Legible) :
    Settles nft held layout := by
  intro before after applied
  have scan := layout.scanned_of_legible legible
  have once := held_applied documented scan applied
  have present : allPresent nft layout.text after = .ok true := by
    apply present_of_held documented scan
    intro table declared
    rw [once, if_pos declared]
    exact mem_tables.mp declared
  refine ⟨scan, once, present, ?_, still_of_present present⟩
  intro later applied
  funext table
  rw [held_applied documented scan applied, once]
  split <;> rfl

/-- A ruleset that `nft` accepts can be applied again and again, and is left alone,
exactly where its layout is legible to the scan. -/
theorem settles_iff_legible (documented : nft.Documented held layout)
    (accepted : ∃ before, (apply nft layout.text before).1 = .ok ()) : Settles nft held layout ↔ layout.Legible := by
  constructor
  · intro settles
    obtain ⟨before, success⟩ := accepted
    exact layout.legible_of_scanned (settles before _ (Prod.ext success rfl)).deleted
  · exact settled_of_legible documented

end Applied

/-! ### An `nft` that keeps what it is given -/

/-- The bodies in the order in which they were loaded, each with its table. -/
abbrev Ledger := List (Table × List Char)

def Ledger.held (kernel : Ledger) (table : Table) : List (List Char) := (kernel.filter (·.1 = table)).map (·.2)

def ledgerNft (layout : Layout) : Nft Ledger where
  deleteTable family name kernel := kernel.filter (·.1.texts ≠ (family, name))
  load ruleset kernel :=
    if ruleset = layout.text then
      (.exited true "exit status: 0", kernel ++ layout.blocks.map fun block => (block.table, block.body))
    else (.exited false "exit status: 1", kernel)
  listTables kernel := (.exited true "exit status: 0", listing (kernel.map (·.1)).dedup)

theorem ledgerNft_documented (layout : Layout) : (ledgerNft layout).Documented Ledger.held layout where
  deletes := by
    intro table kernel
    have kept (entry : Table × List Char) : entry.1.texts ≠ table.texts ↔ entry.1 ≠ table :=
      not_congr ⟨Table.texts_injective, congrArg Table.texts⟩
    have filtered : (ledgerNft layout).deleteTable table.family.text table.name.text kernel = kernel.filter (·.1 ≠ table) :=
      List.filter_congr fun entry _ => decide_eq_decide.mpr (kept entry)
    funext other
    rw [filtered, Ledger.held, List.filter_filter]
    by_cases same : other = table
    · subst same
      simp
    · rw [Function.update_of_ne same, Ledger.held]
      apply congrArg (List.map _)
      apply List.filter_congr
      intro entry _
      by_cases there : entry.1 = other
      · simp [there, same]
      · simp [there]
  loads := by
    intro kernel status after ran table
    simp only [ledgerNft, if_true] at ran
    obtain ⟨-, rfl⟩ := Prod.mk.inj ran
    simp [Ledger.held, Layout.bodies, List.filter_map, Function.comp_def]
  lists := by
    intro kernel
    refine ⟨_, List.nodup_dedup _, ?_, _, rfl⟩
    intro table
    simp [Ledger.held, List.filter_eq_nil_iff]

/-- The form that the scan is written for: every header begins its line, with its family and a space
before each of its parts, and no body has a line of that form. -/
theorem Layout.legible_of_plain {layout : Layout}
    (plain : ∀ spot ∈ layout.placed, Indented spot.front ∧ spot.block.Spaced ∧ spot.block.Whole)
    (quiet : ∀ spot ∈ layout.placed, ∀ texts, ¬ spot.Stray texts) : layout.Legible where
  found := by
    intro table declared
    obtain ⟨block, member, rfl⟩ := List.mem_map.mp declared
    rw [← blocks_placed layout.start layout.blocks] at member
    obtain ⟨spot, placed, rfl⟩ := List.mem_map.mp member
    exact .inl ⟨spot, placed, rfl, plain spot placed⟩
  untorn := by
    intro spot member _ _ torn
    exact spot.torn_not_whole torn (plain spot member).2.2
  quiet := by
    intro spot member texts stray
    exact absurd stray (quiet spot member texts)

/-- A header with a space before each of its parts. -/
def spacedBlock (family : Option Family) (name : Name) (body : String) (closes : closes 0 .code body.toList = true) : Block where
  afterTable := [' ']
  family := family.map (·, [' '])
  name
  beforeBrace := [' ']
  body := body.toList
  after := ['\n']
  table_blank := by decide
  family_blank := by
    intro given member
    obtain ⟨family, -, rfl⟩ := Option.map_eq_some_iff.mp member
    exact ⟨List.cons_ne_nil _ _, rfl⟩
  brace_blank := by decide
  body_closes := closes
  after_gap := by decide

/-- The ruleset of the test. -/
def talosTables : Layout where
  start := []
  blocks := [
    spacedBlock (some .inet) ⟨"talos_filter", by decide, by decide, by decide⟩ "\n    chain forward \x7b \x7d\n" (by decide),
    spacedBlock (some .ip) ⟨"talos_nat", by decide, by decide, by decide⟩ "\n    chain postrouting \x7b \x7d\n" (by decide)]
  start_gap := by decide

theorem talosTables_legible : talosTables.Legible := by
  apply Layout.legible_of_plain
  · have first : Indented [] := ⟨[], List.mem_cons_self .., rfl⟩
    have next {family name body closes} : Indented (spacedBlock family name body closes).text :=
      (Block.indented_text _).mpr ⟨[], List.mem_cons_self .., rfl⟩
    have line : '\n' ∉ [' '] := by decide
    have whole {family name body closes} : (spacedBlock (some family) name body closes).Spaced ∧
        (spacedBlock (some family) name body closes).Whole :=
      ⟨⟨rfl, line⟩, ⟨(family, [' ']), rfl, line⟩, List.cons_ne_nil _ _⟩
    intro spot member
    rcases List.mem_cons.mp member with rfl | member
    · exact ⟨first, whole⟩
    · obtain rfl := List.mem_singleton.mp member
      exact ⟨next, whole⟩
  · have none : ∀ spot ∈ talosTables.placed, ∀ line ∈ openings '\n' spot.block.body,
        declaredTable (String.ofList (firstLine '\n' (line ++ '\x7d' :: (spot.block.after ++ spot.later)))) = none := by decide
    intro spot member texts stray
    obtain ⟨line, opening, opens⟩ := stray
    have named := declaredTable_iff.mpr opens
    rw [none spot member line opening] at named
    cases named

theorem talosTables_settles : Settles (ledgerNft talosTables) Ledger.held talosTables :=
  (settles_iff_legible (ledgerNft_documented talosTables) ⟨[], rfl⟩).mpr talosTables_legible

/-- The family left out. -/
def bareTable : Layout where
  start := []
  blocks := [spacedBlock none ⟨"talos", by decide, by decide, by decide⟩ "\n" (by decide)]
  start_gap := by decide

/-- The brace is read as the table's name: the table is never deleted and never found,
and each event loads the rules once more. -/
theorem bare_table_stacks : (ledgerNft bareTable).Documented Ledger.held bareTable ∧
    apply (ledgerNft bareTable) bareTable.text [] = (.ok (), bareTable.blocks.map fun block => (block.table, block.body)) ∧
    (∀ table ∈ bareTable.tables, Ledger.held ([MonitorEvent.line "", .line ""].foldl (watchdog (ledgerNft bareTable) bareTable.text)
      (bareTable.blocks.map fun block => (block.table, block.body))) table = ["\n".toList, "\n".toList, "\n".toList]) ∧
    ¬ Settles (ledgerNft bareTable) Ledger.held bareTable := by
  have applied : apply (ledgerNft bareTable) bareTable.text [] =
      (.ok (), bareTable.blocks.map fun block => (block.table, block.body)) := rfl
  refine ⟨ledgerNft_documented bareTable, applied, by decide, ?_⟩
  intro settles
  have present := (settles _ _ applied).present
  have missing : allPresent (ledgerNft bareTable) bareTable.text (bareTable.blocks.map fun block => (block.table, block.body)) =
      .ok false := rfl
  rw [missing] at present
  cases present

end Slipmesh.Nftables
