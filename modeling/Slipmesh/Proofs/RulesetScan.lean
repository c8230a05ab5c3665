import Mathlib.Data.List.Infix
import Slipmesh.Nftables.Grammar

/-! Which lines of a ruleset read as the header of a table, block by block. -/

namespace Slipmesh.Nftables
open Library Text

/-- The line begins with `table ` and has at least two words more. -/
def HasHeader (line : List Char) (texts : String × String) : Prop :=
  tableWord ++ [' '] <+: line ∧ ∃ more, Library.words isWhitespace line = tableWord :: texts.1.toList :: texts.2.toList :: more

/-! ### One line -/

theorem isPrefixOf?_iff {start list rest : List Char} : start.isPrefixOf? list = some rest ↔ list = start ++ rest := by
  induction start generalizing list with
  | nil => simp [List.isPrefixOf?]
  | cons first start ih =>
    cases list with
    | nil => simp [List.isPrefixOf?]
    | cons head list =>
      by_cases same : first = head
      · simp [List.isPrefixOf?, same, ih]
      · simp [List.isPrefixOf?, same, Ne.symm same]

theorem stripPrefix_iff {start text : String} {rest : List Char} :
    Text.stripPrefix start text = some (String.ofList rest) ↔ text.toList = start.toList ++ rest := by
  simp [Text.stripPrefix, ← isPrefixOf?_iff, String.ofList_inj]

theorem words_of_table (rest : List Char) :
    Library.words isWhitespace (tableWord ++ ' ' :: rest) = tableWord :: Library.words isWhitespace rest :=
  words_append_cons (by decide) tableWord rest

theorem familyAndName_iff {line : List Char} {texts : String × String} :
    familyAndName (String.ofList line) = some texts ↔ HasHeader line texts := by
  have start (rest : List Char) : "table ".toList ++ rest = tableWord ++ ' ' :: rest := rfl
  constructor
  · intro found
    simp only [familyAndName, Option.bind_eq_bind, Option.bind_eq_some_iff, Text.words] at found
    obtain ⟨rest, strip, family, first, name, second, same⟩ := found
    rw [← rest.ofList_toList, stripPrefix_iff, String.toList_ofList, start] at strip
    refine ⟨⟨rest.toList, by rw [strip, List.append_assoc]; rfl⟩, ?_⟩
    rw [strip, words_of_table]
    generalize Library.words isWhitespace rest.toList = parts at first second
    rcases parts with _ | ⟨one, _ | ⟨two, more⟩⟩
    · simp at first
    · simp at second
    · obtain rfl := Option.some.inj first
      obtain rfl := Option.some.inj second
      obtain rfl := Option.some.inj same
      exact ⟨more, by simp⟩
  · intro given
    obtain ⟨⟨rest, shape⟩, more, listed⟩ := given
    rw [List.append_assoc, List.singleton_append] at shape
    have strip : Text.stripPrefix "table " (String.ofList line) = some (String.ofList rest) := by
      rw [stripPrefix_iff, String.toList_ofList, start, shape]
    rw [← shape, words_of_table, List.cons.injEq] at listed
    simp [familyAndName, strip, Text.words, listed.2]

theorem declaredTable_iff {line : List Char} {texts : String × String} :
    declaredTable (String.ofList line) = some texts ↔ HasHeader (line.dropWhile isWhitespace) texts := by
  rw [declaredTable, Text.trimStart, String.toList_ofList, String.toList_ofList, ← familyAndName_iff]
  split
  next comment =>
    rw [familyAndName_iff]
    constructor
    · intro found
      cases found
    · intro given
      obtain ⟨⟨rest, shape⟩, -⟩ := given
      rw [← shape] at comment
      cases comment
  next => rfl

theorem HasHeader.full {line : List Char} {texts : String × String} (header : HasHeader line texts) : line ≠ [] := by
  rintro rfl
  obtain ⟨-, more, listed⟩ := header
  cases listed

/-- The carriage return before a line feed changes nothing. -/
theorem hasHeader_concat {line : List Char} {texts : String × String} :
    HasHeader ((line ++ ['\r']).dropWhile isWhitespace) texts ↔ HasHeader (line.dropWhile isWhitespace) texts := by
  have blank : isWhitespace '\r' = true := by decide
  have same : Library.words isWhitespace (line ++ ['\r']) = Library.words isWhitespace line := by
    rw [words_append_cons blank, words_nil, List.append_nil]
  simp only [HasHeader, words_dropWhile, same]
  refine and_congr_left fun _ => ?_
  rw [List.dropWhile_append]
  split
  next empty =>
    rw [List.isEmpty_iff.mp empty]
    simp [blank]
  next =>
    rw [List.prefix_concat_iff]
    refine or_iff_right fun same => ?_
    have last := congrArg List.getLast? same
    simp at last

/-- A property that no empty line has, and that the carriage return before a line
feed does not change, is found on the same lines where the text is cut at line feeds only. -/
theorem exists_line_iff (good : List Char → Prop) (full : ¬ good []) (bare : ∀ line, good (line ++ ['\r']) ↔ good line)
    (text : String) : (∃ line ∈ Text.lines text, good line.toList) ↔ ∃ part ∈ text.toList.splitOn '\n', good part := by
  obtain ⟨ended, last, parts⟩ : ∃ ended last, text.toList.splitOn '\n' = ended ++ [last] :=
    ⟨_, _, (List.dropLast_append_getLast (List.splitOn_ne_nil _ _)).symm⟩
  have cut (line : List Char) : good (if line.getLast? = some '\r' then line.dropLast else line) ↔ good line := by
    split
    next marked => rw [← bare, List.dropLast_append_getLast? _ marked]
    next => rfl
  rw [Text.lines, parts, List.dropLast_concat, List.getLast?_concat]
  constructor
  · intro given
    obtain ⟨line, listed, holds⟩ := given
    obtain ⟨part, member, rfl⟩ := List.mem_map.mp listed
    rw [String.toList_ofList] at holds
    rcases List.mem_append.mp member with member | member
    · obtain ⟨whole, inside, rfl⟩ := List.mem_map.mp member
      exact ⟨whole, List.mem_append_left _ inside, (cut whole).mp holds⟩
    · have same := Option.mem_toList.mp member
      obtain ⟨same, -⟩ := Option.filter_eq_some_iff.mp same
      obtain rfl := Option.some.inj same
      exact ⟨last, by simp, holds⟩
  · intro given
    obtain ⟨part, member, holds⟩ := given
    rcases List.mem_append.mp member with member | member
    · refine ⟨_, List.mem_map_of_mem (List.mem_append_left _ (List.mem_map_of_mem member)), ?_⟩
      rw [String.toList_ofList]
      exact (cut part).mpr holds
    · obtain rfl := List.mem_singleton.mp member
      have some : part ≠ [] := fun none => full (none ▸ holds)
      refine ⟨String.ofList part, List.mem_map_of_mem (List.mem_append_right _ ?_), ?_⟩
      · simp [some]
      · rwa [String.toList_ofList]

/-- The line that a place of the text begins reads as the header of a table. -/
def Opens (start : List Char) (texts : String × String) : Prop :=
  HasHeader ((firstLine '\n' start).dropWhile isWhitespace) texts

theorem mem_declaredTables {text : String} {texts : String × String} :
    texts ∈ declaredTables text ↔ ∃ start ∈ text.toList :: openings '\n' text.toList, Opens start texts := by
  have read (line : String) : declaredTable line = some texts ↔ HasHeader (line.toList.dropWhile isWhitespace) texts := by
    rw [← declaredTable_iff, String.ofList_toList]
  have full : ¬ HasHeader ([].dropWhile isWhitespace) texts := fun header => header.full rfl
  simp only [declaredTables, List.mem_filterMap, read]
  rw [exists_line_iff (fun line => HasHeader (line.dropWhile isWhitespace) texts) full (fun _ => hasHeader_concat), splitOn_eq]
  simp only [List.mem_map, exists_exists_and_eq_and]
  rfl

/-! ### What the line of a place reads as -/

/-- White space within a line. -/
def isInline (c : Char) : Bool := isWhitespace c && c ≠ '\n'

theorem newline_not_mem_of_solid {word : List Char} (solid : word.all (!isWhitespace ·) = true) : '\n' ∉ word := by
  intro member
  have blank := List.all_eq_true.mp solid _ member
  revert blank
  decide

namespace Opens

variable {start rest gap word : List Char} {texts : String × String}

theorem line_full (opens : Opens start texts) : firstLine '\n' start ≠ [] := by
  intro none
  rw [Opens, none] at opens
  exact opens.full rfl

theorem not_nil : ¬ Opens [] texts := fun opens => opens.line_full rfl

theorem not_newline : ¬ Opens ('\n' :: rest) texts := fun opens => opens.line_full (firstLine_self rest)

theorem inline_iff (fits : gap.all isInline = true) : Opens (gap ++ rest) texts ↔ Opens rest texts := by
  have blank (c : Char) (member : c ∈ gap) : isWhitespace c = true ∧ c ≠ '\n' := by
    simpa [isInline] using List.all_eq_true.mp fits c member
  have here : '\n' ∉ gap := fun member => (blank _ member).2 rfl
  rw [Opens, firstLine_of_not_mem here, List.dropWhile_append_of_pos fun c member => (blank c member).1]
  rfl

/-- The word that a line begins with. -/
theorem word_eq (full : word ≠ []) (solid : word.all (!isWhitespace ·) = true) (opens : Opens (word ++ rest) texts) :
    word ++ (firstLine '\n' rest).takeWhile (!isWhitespace ·) = tableWord := by
  obtain ⟨-, more, listed⟩ := opens
  rw [words_dropWhile, firstLine_of_not_mem (newline_not_mem_of_solid solid), words_word_append full solid] at listed
  exact (List.cons.inj listed).1

theorem eq_t {c : Char} (solid : isWhitespace c = false) (opens : Opens (c :: rest) texts) : c = 't' := by
  have same := @word_eq rest [c] texts (by simp) (by simp [solid]) opens
  exact (List.cons.inj same).1

theorem gap_iff (fits : isGap .code gap = true) : Opens (gap ++ rest) texts ↔ gap.all isInline = true ∧ Opens rest texts := by
  have never {c : Char} {more : List Char} (solid : isWhitespace c = false) (other : c ≠ 't') : ¬ Opens (c :: more) texts :=
    fun opens => other (opens.eq_t solid)
  induction gap with
  | nil => simp
  | cons c gap ih =>
    rw [isGap] at fits
    split at fits
    next hash =>
      subst hash
      exact iff_of_false (never (by decide) (by decide)) (by simp [isInline, show isWhitespace '#' = false by decide])
    next =>
      obtain ⟨first, later⟩ := Bool.and_eq_true_iff.mp fits
      by_cases blank : isInline c = true
      · have skip : Opens ([c] ++ (gap ++ rest)) texts ↔ Opens (gap ++ rest) texts := inline_iff (by simp [blank])
        have rest_of := skip.trans (ih later)
        simpa [blank] using rest_of
      · refine iff_of_false ?_ (by simp [blank])
        by_cases space : isWhitespace c = true
        · have newline : c = '\n' := by simpa [isInline, space] using blank
          exact newline ▸ not_newline
        · have semicolon : c = ';' := by simpa [space] using first
          exact semicolon ▸ never (by decide) (by decide)

end Opens

theorem isGap_of_blank {gap : List Char} (blank : gap.all isWhitespace = true) : isGap .code gap = true := by
  induction gap with
  | nil => rfl
  | cons c gap ih =>
    obtain ⟨first, later⟩ := Bool.and_eq_true_iff.mp blank
    have other : c ≠ '#' := by
      rintro rfl
      revert first
      decide
    simp [isGap, other, first, ih later]

theorem isGap_opening {lexing : Lexing} {gap start : List Char} (fits : isGap lexing gap = true)
    (opening : start ∈ openings '\n' gap) : isGap .code start = true := by
  induction gap generalizing lexing with
  | nil => cases opening
  | cons c gap ih =>
    have later : ∃ next, isGap next gap = true ∧ (c = '\n' → next = .code) := by
      cases lexing with
      | code =>
        rw [isGap] at fits
        split at fits
        next hash => exact ⟨_, fits, fun newline => by simp [hash] at newline⟩
        next => exact ⟨.code, (Bool.and_eq_true_iff.mp fits).2, fun _ => rfl⟩
      | quoted => cases fits
      | comment => exact ⟨_, fits, fun newline => by simp [newline]⟩
    obtain ⟨next, later, begins⟩ := later
    unfold openings at opening
    split at opening
    next newline =>
      rcases List.mem_cons.mp opening with rfl | inside
      · exact begins newline ▸ later
      · exact ih later inside
    next => exact ih later opening

/-! ### The words of a header -/

theorem isNameChar_solid {c : Char} (fits : isNameChar c = true) : isWhitespace c = false ∧ c ≠ '\x7b' := by
  have bounds : 45 ≤ c.toNat ∧ c.toNat ≤ 122 := by
    simp only [isNameChar, Bool.or_eq_true, Bool.and_eq_true, decide_eq_true_eq, Char.le_def, UInt32.le_iff_toNat_le,
      List.mem_cons, List.not_mem_nil, or_false] at fits
    change ((97 ≤ c.toNat ∧ c.toNat ≤ 122 ∨ 65 ≤ c.toNat ∧ c.toNat ≤ 90) ∨ 48 ≤ c.toNat ∧ c.toNat ≤ 57) ∨ _ at fits
    rcases fits with letter | rfl | rfl | rfl | rfl
    · omega
    all_goals decide
  constructor
  · simp only [isWhitespace, decide_eq_false_iff_not]
    omega
  · rintro rfl
    revert bounds
    decide

namespace Name
variable (name : Name)

theorem solid : name.text.toList.all (!isWhitespace ·) = true := by
  apply List.all_eq_true.mpr
  intro c member
  simp [(isNameChar_solid (List.all_eq_true.mp name.chars c member)).1]

theorem no_brace : '\x7b' ∉ name.text.toList :=
  fun member => (isNameChar_solid (List.all_eq_true.mp name.chars _ member)).2 rfl

theorem toList_ne_nil : name.text.toList ≠ [] := fun none => name.full (String.toList_eq_nil_iff.mp none)

theorem ne_table : name.text ≠ "table" := fun same => name.free (by simp [same])

end Name

theorem Family.solid (family : Family) : family.text.toList.all (!isWhitespace ·) = true := by cases family <;> decide

theorem Family.no_brace (family : Family) : '\x7b' ∉ family.text.toList := by cases family <;> decide

theorem Family.toList_ne_nil (family : Family) : family.text.toList ≠ [] := by cases family <;> decide

/-- White space ends a word. -/
theorem takeWhile_gap {gap : List Char} (full : gap ≠ []) (blank : gap.all isWhitespace = true) (rest : List Char) :
    (firstLine '\n' (gap ++ rest)).takeWhile (!isWhitespace ·) = [] := by
  cases gap with
  | nil => exact absurd rfl full
  | cons c gap =>
    have first : isWhitespace c = true := (Bool.and_eq_true_iff.mp blank).1
    by_cases newline : c = '\n'
    · rw [newline, List.cons_append, firstLine_self]
      rfl
    · rw [List.cons_append, firstLine_cons_ne newline]
      simp [first]

/-- A brace does not. -/
theorem takeWhile_brace (rest : List Char) : (firstLine '\n' ('\x7b' :: rest)).takeWhile (!isWhitespace ·) =
    '\x7b' :: (firstLine '\n' rest).takeWhile (!isWhitespace ·) := by
  rw [firstLine_cons_ne (by decide)]
  exact List.takeWhile_cons_of_pos (by decide)

theorem dropWhile_brace (rest : List Char) : (firstLine '\n' ('\x7b' :: rest)).dropWhile (!isWhitespace ·) =
    (firstLine '\n' rest).dropWhile (!isWhitespace ·) := by
  rw [firstLine_cons_ne (by decide)]
  exact List.dropWhile_cons_of_pos (by decide)

namespace Opens
variable {texts : String × String} {more : List Char}

theorem not_family (family : Family) : ¬ Opens (family.text.toList ++ more) texts := by
  intro opens
  have same := opens.word_eq family.toList_ne_nil family.solid
  cases family <;> cases same

theorem not_brace : ¬ Opens ('\x7b' :: more) texts := fun opens => absurd (opens.eq_t (by decide)) (by decide)

theorem not_name (name : Name) {gap : List Char} (blank : gap.all isWhitespace = true) :
    ¬ Opens (name.text.toList ++ (gap ++ '\x7b' :: more)) texts := by
  intro opens
  have same := opens.word_eq name.toList_ne_nil name.solid
  by_cases none : gap = []
  · rw [none, List.nil_append, takeWhile_brace] at same
    have brace : '\x7b' ∈ tableWord := same ▸ List.mem_append_right _ (List.mem_cons_self ..)
    revert brace
    decide
  · rw [takeWhile_gap none blank, List.append_nil] at same
    exact name.ne_table (String.toList_injective same)

end Opens

/-! ### The lines that begin in a block -/

/-- Only white space stands on the line before what follows. -/
def Indented (front : List Char) : Prop := ∃ indent ∈ front :: openings '\n' front, indent.all isInline = true

theorem indented_concat {front gap : List Char} {c : Char} (solid : isWhitespace c = false) :
    Indented (front ++ c :: gap) ↔ ∃ indent ∈ openings '\n' gap, indent.all isInline = true := by
  have other : c ≠ '\n' := by
    rintro rfl
    revert solid
    decide
  have stops (line : List Char) : ¬ (line ++ c :: gap).all isInline = true := by simp [isInline, solid]
  have skip : openings '\n' (c :: gap) = openings '\n' gap := by simp [openings, other]
  simp only [Indented, openings_append, skip]
  constructor
  · intro given
    obtain ⟨indent, member, inline⟩ := given
    rcases List.mem_cons.mp member with rfl | member
    · exact absurd inline (stops front)
    · rcases List.mem_append.mp member with member | member
      · obtain ⟨line, -, rfl⟩ := List.mem_map.mp member
        exact absurd inline (stops line)
      · exact ⟨indent, member, inline⟩
  · intro given
    obtain ⟨indent, member, inline⟩ := given
    exact ⟨indent, List.mem_cons_of_mem _ (List.mem_append_right _ member), inline⟩

/-- Some line after the first reads as the header of a table. -/
def Starts (text : List Char) (texts : String × String) : Prop := ∃ start ∈ openings '\n' text, Opens start texts

namespace Starts
variable {front rest gap word : List Char} {texts : String × String}

theorem append_iff : Starts (front ++ rest) texts ↔
    (∃ line ∈ openings '\n' front, Opens (line ++ rest) texts) ∨ Starts rest texts := by
  simp only [Starts, openings_append, List.mem_append, List.mem_map, or_and_right, exists_or, exists_exists_and_eq_and]

theorem word_iff (solid : word.all (!isWhitespace ·) = true) : Starts (word ++ rest) texts ↔ Starts rest texts := by
  rw [append_iff, openings_of_not_mem _ (newline_not_mem_of_solid solid)]
  simp

theorem cons_iff {c : Char} (solid : isWhitespace c = false) : Starts (c :: rest) texts ↔ Starts rest texts :=
  @word_iff rest [c] texts (by simp [solid])

theorem blank_iff (blank : gap.all isWhitespace = true) (never : ¬ Opens rest texts) :
    Starts (gap ++ rest) texts ↔ Starts rest texts := by
  rw [append_iff]
  refine or_iff_right ?_
  intro given
  obtain ⟨line, opening, opens⟩ := given
  exact never ((Opens.gap_iff (isGap_opening (isGap_of_blank blank) opening)).mp opens).2

theorem gap_iff (fits : isGap .code gap = true) : Starts (gap ++ rest) texts ↔
    ((∃ indent ∈ openings '\n' gap, indent.all isInline = true) ∧ Opens rest texts) ∨ Starts rest texts := by
  rw [append_iff]
  refine or_congr_left ?_
  constructor
  · intro given
    obtain ⟨line, opening, opens⟩ := given
    obtain ⟨inline, opens⟩ := (Opens.gap_iff (isGap_opening fits opening)).mp opens
    exact ⟨⟨line, opening, inline⟩, opens⟩
  · intro given
    obtain ⟨⟨line, opening, inline⟩, opens⟩ := given
    exact ⟨line, opening, (Opens.inline_iff inline).mpr opens⟩

end Starts

namespace Block
variable (block : Block) (rest : List Char) {texts : String × String}

theorem named_append : block.named ++ rest = block.name.text.toList ++ (block.beforeBrace ++ '\x7b' ::
    (block.body ++ '\x7d' :: (block.after ++ rest))) := by simp [named, braced]

theorem not_opens_named : ¬ Opens (block.named ++ rest) texts := by
  rw [named_append]
  exact Opens.not_name block.name block.brace_blank

theorem indented_text : Indented block.text ↔ ∃ indent ∈ openings '\n' block.after, indent.all isInline = true := by
  have shape : block.text = (tableWord ++ (block.afterTable ++ (block.familyText ++ (block.name.text.toList ++
      (block.beforeBrace ++ '\x7b' :: block.body))))) ++ '\x7d' :: block.after := by simp [text, named, braced]
  rw [shape, indented_concat (by decide)]

theorem starts_named : Starts (block.named ++ rest) texts ↔
    (∃ line ∈ openings '\n' block.body, Opens (line ++ '\x7d' :: (block.after ++ rest)) texts) ∨
      (Indented block.text ∧ Opens rest texts) ∨ Starts rest texts := by
  rw [named_append, Starts.word_iff block.name.solid, Starts.blank_iff block.brace_blank Opens.not_brace,
    Starts.cons_iff (by decide), Starts.append_iff, Starts.cons_iff (by decide), Starts.gap_iff block.after_gap, indented_text]

/-- No line that begins in a header reads as a header. -/
theorem starts_family : (¬ Opens (block.familyText ++ (block.named ++ rest)) texts) ∧
    (Starts (block.familyText ++ (block.named ++ rest)) texts ↔ Starts (block.named ++ rest) texts) := by
  unfold familyText
  cases given : block.family with
  | none => exact ⟨block.not_opens_named rest, Iff.rfl⟩
  | some given' =>
    simp only [Option.elim_some, List.append_assoc]
    refine ⟨Opens.not_family _, ?_⟩
    rw [Starts.word_iff given'.1.solid, Starts.blank_iff (block.family_blank _ given).2 (block.not_opens_named rest)]

theorem starts_text : Starts (block.text ++ rest) texts ↔
    (∃ line ∈ openings '\n' block.body, Opens (line ++ '\x7d' :: (block.after ++ rest)) texts) ∨
      (Indented block.text ∧ Opens rest texts) ∨ Starts rest texts := by
  obtain ⟨never, family⟩ := @starts_family block rest texts
  rw [← starts_named, ← family, text, List.append_assoc, List.append_assoc, List.append_assoc, Starts.word_iff (by decide),
    Starts.blank_iff block.table_blank.2 never]

end Block

/-! ### The line that a block begins -/

theorem words_gap_line {gap : List Char} (blank : gap.all isWhitespace = true) (rest : List Char) :
    Library.words isWhitespace (firstLine '\n' (gap ++ rest)) =
      if '\n' ∈ gap then [] else Library.words isWhitespace (firstLine '\n' rest) := by
  split
  next here =>
    rw [firstLine_of_mem here]
    apply (words_eq_nil_iff _).mpr
    exact List.all_eq_true.mpr fun c member => List.all_eq_true.mp blank c (List.takeWhile_sublist _ |>.subset member)
  next absent => rw [firstLine_of_not_mem absent, words_blank blank]

theorem words_word_line {word : List Char} (full : word ≠ []) (solid : word.all (!isWhitespace ·) = true) (rest : List Char) :
    Library.words isWhitespace (firstLine '\n' (word ++ rest)) =
      (word ++ (firstLine '\n' rest).takeWhile (!isWhitespace ·)) ::
        Library.words isWhitespace ((firstLine '\n' rest).dropWhile (!isWhitespace ·)) := by
  rw [firstLine_of_not_mem (newline_not_mem_of_solid solid), words_word_append full solid]

theorem words_word_gap {word gap : List Char} (full : word ≠ []) (solid : word.all (!isWhitespace ·) = true)
    (apart : gap ≠ []) (blank : gap.all isWhitespace = true) (rest : List Char) :
    Library.words isWhitespace (firstLine '\n' (word ++ (gap ++ rest))) =
      word :: if '\n' ∈ gap then [] else Library.words isWhitespace (firstLine '\n' rest) := by
  have ends := takeWhile_gap apart blank rest
  have whole := List.takeWhile_append_dropWhile (p := (!isWhitespace ·)) (l := firstLine '\n' (gap ++ rest))
  rw [ends, List.nil_append] at whole
  rw [words_word_line full solid, ends, whole, List.append_nil, words_gap_line blank]

/-- A block with the text around it. -/
structure Placed where
  front : List Char
  block : Block
  later : List Char

/-- `table` and a space, and what follows on the same line. -/
def Block.Spaced (block : Block) : Prop := block.afterTable.head? = some ' ' ∧ '\n' ∉ block.afterTable

/-- The family is given, on the line of the name, and the brace does not touch the name. -/
def Block.Whole (block : Block) : Prop := (∃ given ∈ block.family, '\n' ∉ given.2) ∧ block.beforeBrace ≠ []

/-- The two words that follow on the line are not the family and the name: the brace
is one of them, or goes with one. -/
def Placed.Torn (spot : Placed) : Prop :=
  (∃ given ∈ spot.block.family, '\n' ∉ given.2 ∧ spot.block.beforeBrace = []) ∨
    (spot.block.family = none ∧ spot.block.beforeBrace ≠ [] ∧ '\n' ∉ spot.block.beforeBrace) ∨
    (spot.block.family = none ∧ spot.block.beforeBrace = [] ∧
      ((firstLine '\n' (spot.block.braced ++ spot.later)).dropWhile (!isWhitespace ·)).any (!isWhitespace ·) = true)

def Marked (texts : String × String) : Prop := '\x7b' ∈ texts.1.toList ∨ '\x7b' ∈ texts.2.toList

theorem Table.not_marked (table : Table) : ¬ Marked table.texts :=
  fun marked => marked.elim table.family.no_brace table.name.no_brace

namespace Block
variable (block : Block) (rest : List Char)

theorem line_of_table {texts : String × String} (tail : List Char) :
    Opens (tableWord ++ (block.afterTable ++ tail)) texts ↔ block.Spaced ∧
      ∃ more, Library.words isWhitespace (firstLine '\n' tail) = texts.1.toList :: texts.2.toList :: more := by
  have line : (firstLine '\n' (tableWord ++ (block.afterTable ++ tail))).dropWhile isWhitespace =
      tableWord ++ firstLine '\n' (block.afterTable ++ tail) := by
    rw [firstLine_of_not_mem (by decide)]
    rfl
  rw [Opens, line, HasHeader, List.prefix_append_right_inj, Spaced]
  obtain ⟨apart, blank⟩ := block.table_blank
  cases shape : block.afterTable with
  | nil => exact absurd shape apart
  | cons c gap =>
    obtain ⟨first, others⟩ := Bool.and_eq_true_iff.mp (shape ▸ blank)
    by_cases newline : c = '\n'
    · rw [newline, List.cons_append, firstLine_self]
      simp
    · rw [List.cons_append, firstLine_cons_ne newline, List.cons_prefix_cons, words_append_cons first, words_gap_line others]
      have word : Library.words isWhitespace tableWord = [tableWord] := words_word (by decide) (by decide)
      rw [word]
      by_cases here : '\n' ∈ gap
      · simp [here]
      · simp [here, Ne.symm newline, eq_comm]

/-- The words of the line from the name on. -/
theorem named_words : ∃ glued, Library.words isWhitespace (firstLine '\n' (block.named ++ rest)) =
    if block.beforeBrace = [] then (block.name.text.toList ++ '\x7b' :: glued) ::
      Library.words isWhitespace ((firstLine '\n' (block.braced ++ rest)).dropWhile (!isWhitespace ·))
    else block.name.text.toList :: if '\n' ∈ block.beforeBrace then []
      else ('\x7b' :: glued) :: Library.words isWhitespace ((firstLine '\n' (block.braced ++ rest)).dropWhile (!isWhitespace ·)) := by
  have shape : block.named ++ rest = block.name.text.toList ++ (block.beforeBrace ++ (block.braced ++ rest)) := by
    rw [named, List.append_assoc, List.append_assoc]
  have brace : block.braced ++ rest = ['\x7b'] ++ (block.body ++ ('\x7d' :: block.after) ++ rest) := rfl
  refine ⟨(firstLine '\n' (block.body ++ ('\x7d' :: block.after) ++ rest)).takeWhile (!isWhitespace ·), ?_⟩
  rw [shape]
  split
  next touching =>
    rw [touching, List.nil_append, words_word_line block.name.toList_ne_nil block.name.solid, brace, List.singleton_append,
      takeWhile_brace]
  next free =>
    rw [words_word_gap block.name.toList_ne_nil block.name.solid free block.brace_blank, brace,
      words_word_line (by simp) (by decide), List.singleton_append, List.singleton_append, dropWhile_brace]

end Block

namespace Placed
variable (spot : Placed)

/-- The words after `table`, where they stand on its line. -/
def said : List (List Char) :=
  Library.words isWhitespace (firstLine '\n' (spot.block.familyText ++ (spot.block.named ++ spot.later)))

/-- The line goes on with two words of which one holds the brace. -/
def Misread : Prop := ∃ first second more, spot.said = first :: second :: more ∧ ('\x7b' ∈ first ∨ '\x7b' ∈ second)

/-- Without a family the name is taken for it. -/
theorem said_of_bare (bare : spot.block.family = none) :
    (spot.Torn ∧ spot.Misread) ∨ (¬ spot.Torn ∧ spot.said.length < 2) := by
  obtain ⟨glued, said⟩ := spot.block.named_words spot.later
  have whole : spot.said = Library.words isWhitespace (firstLine '\n' (spot.block.named ++ spot.later)) := by
    simp [Placed.said, Block.familyText, bare]
  rw [← whole] at said
  split at said
  next touching =>
    generalize cut : (firstLine '\n' (spot.block.braced ++ spot.later)).dropWhile (!isWhitespace ·) = tail at said
    have torn : spot.Torn ↔ tail.any (!isWhitespace ·) = true := by simp [Torn, bare, touching, cut]
    cases shape : Library.words isWhitespace tail with
    | nil =>
      right
      have blank := (words_eq_nil_iff _).mp shape
      refine ⟨?_, by simp [said, shape]⟩
      rw [torn, List.any_eq_true]
      intro given
      obtain ⟨c, member, solid⟩ := given
      simp [List.all_eq_true.mp blank c member] at solid
    | cons second more =>
      left
      refine ⟨torn.mpr ?_, _, second, more, said.trans (by rw [shape]), .inl (by simp)⟩
      by_contra none
      have blank : tail.all isWhitespace = true := by simpa using none
      rw [(words_eq_nil_iff _).mpr blank] at shape
      cases shape
  next free =>
    split at said
    next newline =>
      right
      simp [said, Torn, bare, free, newline]
    next absent =>
      left
      exact ⟨.inr (.inl ⟨bare, free, absent⟩), _, _, _, said, .inr (List.mem_cons_self ..)⟩

theorem said_of_family {given : Family × List Char} (family : spot.block.family = some given) :
    (spot.block.Whole ∧ ∃ more, spot.said = given.1.text.toList :: spot.block.name.text.toList :: more) ∨
      (spot.Torn ∧ spot.Misread) ∨ (¬ spot.block.Whole ∧ ¬ spot.Torn ∧ spot.said.length < 2) := by
  obtain ⟨glued, named⟩ := spot.block.named_words spot.later
  obtain ⟨apart, blank⟩ := spot.block.family_blank given family
  have said : spot.said = given.1.text.toList ::
      if '\n' ∈ given.2 then [] else Library.words isWhitespace (firstLine '\n' (spot.block.named ++ spot.later)) := by
    rw [← words_word_gap given.1.toList_ne_nil given.1.solid apart blank]
    simp [Placed.said, Block.familyText, family]
  split at said
  next newline =>
    right; right
    simp [said, Block.Whole, Torn, family, newline]
  next absent =>
    split at named
    next touching =>
      right; left
      refine ⟨.inl ⟨given, family, absent, touching⟩, _, _, _, said.trans (by rw [named]), .inr (by simp)⟩
    next free =>
      left
      exact ⟨⟨⟨given, family, absent⟩, free⟩, _, said.trans (by rw [named])⟩

theorem opens_iff {texts : String × String} : Opens (spot.block.text ++ spot.later) texts ↔
    spot.block.Spaced ∧ ∃ more, spot.said = texts.1.toList :: texts.2.toList :: more := by
  have shape : spot.block.text ++ spot.later = tableWord ++ (spot.block.afterTable ++
      (spot.block.familyText ++ (spot.block.named ++ spot.later))) := by simp [Block.text]
  rw [shape, Block.line_of_table, said]

theorem torn_not_whole (torn : spot.Torn) : ¬ spot.block.Whole := by
  intro whole
  obtain ⟨⟨given, family, -⟩, apart⟩ := whole
  rcases torn with ⟨-, -, -, touching⟩ | ⟨bare, -⟩ | ⟨bare, -⟩
  · exact apart touching
  all_goals simp [bare] at family

theorem misread_of_torn (torn : spot.Torn) : spot.Misread := by
  cases family : spot.block.family with
  | none =>
    rcases spot.said_of_bare family with ⟨-, misread⟩ | ⟨not, -⟩
    · exact misread
    · exact absurd torn not
  | some given =>
    rcases spot.said_of_family family with ⟨whole, -⟩ | ⟨-, misread⟩ | ⟨-, not, -⟩
    · exact absurd whole (spot.torn_not_whole torn)
    · exact misread
    · exact absurd torn not

theorem opens_of_whole {texts : String × String} (spaced : spot.block.Spaced) (whole : spot.block.Whole) :
    Opens (spot.block.text ++ spot.later) texts ↔ texts = spot.block.table.texts := by
  obtain ⟨⟨given, family, line⟩, apart⟩ := whole
  have table : spot.block.table.texts = (given.1.text, spot.block.name.text) := by
    simp [Block.table, Table.texts, Option.mem_def.mp family]
  rw [opens_iff, table]
  rcases spot.said_of_family family with ⟨-, more, said⟩ | ⟨torn, -⟩ | ⟨not, -⟩
  · simp [said, spaced, Prod.ext_iff, String.toList_inj, eq_comm]
  · exact absurd ⟨⟨given, family, line⟩, apart⟩ (spot.torn_not_whole torn)
  · exact absurd ⟨⟨given, family, line⟩, apart⟩ not

theorem torn_or {texts : String × String} (opens : Opens (spot.block.text ++ spot.later) texts) :
    spot.block.Spaced ∧ (spot.block.Whole ∨ spot.Torn ∧ Marked texts) := by
  obtain ⟨spaced, more, said⟩ := spot.opens_iff.mp opens
  refine ⟨spaced, ?_⟩
  have marked (misread : spot.Misread) : Marked texts := by
    obtain ⟨first, second, others, same, brace⟩ := misread
    obtain ⟨one, two⟩ := List.cons.inj (said.symm.trans same)
    obtain ⟨two, -⟩ := List.cons.inj two
    rwa [Marked, one, two]
  have short (few : spot.said.length < 2) : False := by
    rw [said, List.length_cons, List.length_cons] at few
    omega
  cases family : spot.block.family with
  | none =>
    rcases spot.said_of_bare family with ⟨torn, misread⟩ | ⟨-, few⟩
    · exact .inr ⟨torn, marked misread⟩
    · exact (short few).elim
  | some given =>
    rcases spot.said_of_family family with ⟨whole, -⟩ | ⟨torn, misread⟩ | ⟨-, -, few⟩
    · exact .inl whole
    · exact .inr ⟨torn, marked misread⟩
    · exact (short few).elim

/-- A torn header does name a table, which no ruleset declares. -/
theorem opens_of_torn (spaced : spot.block.Spaced) (torn : spot.Torn) :
    ∃ texts, Opens (spot.block.text ++ spot.later) texts ∧ Marked texts := by
  obtain ⟨first, second, more, said, brace⟩ := spot.misread_of_torn torn
  refine ⟨(String.ofList first, String.ofList second), spot.opens_iff.mpr ⟨spaced, more, ?_⟩, ?_⟩
  · simpa using said
  · simpa [Marked] using brace

/-- A line that begins in the body reads as the header of a table. -/
def Stray (texts : String × String) : Prop :=
  ∃ line ∈ openings '\n' spot.block.body, Opens (line ++ '\x7d' :: (spot.block.after ++ spot.later)) texts

end Placed

/-! ### The lines of a ruleset -/

def placed (front : List Char) : List Block → List Placed
  | [] => []
  | block :: later => ⟨front, block, blocksText later⟩ :: placed block.text later

def Layout.placed (layout : Layout) : List Placed := Nftables.placed layout.start layout.blocks

theorem blocks_placed (front : List Char) (blocks : List Block) : (placed front blocks).map (·.block) = blocks := by
  induction blocks generalizing front with
  | nil => rfl
  | cons block later ih => rw [placed, List.map_cons, ih]

/-- By induction on the blocks: the line on which a block ends is the one that the next may begin. -/
theorem starts_blocks (front : List Char) (blocks : List Block) {texts : String × String} :
    (Indented front ∧ Opens (blocksText blocks) texts) ∨ Starts (blocksText blocks) texts ↔
      ∃ spot ∈ placed front blocks, (Indented spot.front ∧ Opens (spot.block.text ++ spot.later) texts) ∨ spot.Stray texts := by
  induction blocks generalizing front with
  | nil => simp [blocksText, placed, Opens.not_nil, Starts, openings]
  | cons block later ih =>
    have shape : blocksText (block :: later) = block.text ++ blocksText later := List.flatMap_cons ..
    rw [shape, block.starts_text, ih block.text, placed, List.exists_mem_cons_iff, or_assoc]
    rfl

theorem Layout.mem_declaredTables (layout : Layout) {texts : String × String} : texts ∈ declaredTables layout.text ↔
    ∃ spot ∈ layout.placed, (Indented spot.front ∧ Opens (spot.block.text ++ spot.later) texts) ∨ spot.Stray texts := by
  rw [Nftables.mem_declaredTables, Layout.text, String.toList_ofList, List.exists_mem_cons_iff, Opens.gap_iff layout.start_gap]
  have starts := @Starts.gap_iff (blocksText layout.blocks) layout.start texts layout.start_gap
  rw [Starts] at starts
  rw [starts, Layout.placed, ← starts_blocks, Indented, List.exists_mem_cons_iff, ← or_assoc, or_and_right]

end Slipmesh.Nftables
