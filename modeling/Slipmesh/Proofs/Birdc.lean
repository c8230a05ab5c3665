import Slipmesh.Library.Guard
import Slipmesh.Router.Birdc

/-! BIRD's replies are read back as they were framed, and no bytes make the reading panic. -/

namespace Slipmesh.Router.Birdc
open Library Net

/-! ### Any line -/

theorem isAsciiDigit_small {b : UInt8} (digit : isAsciiDigit b = true) : b.toNat < 0x80 := by
  simp only [isAsciiDigit, Bool.and_eq_true, decide_eq_true_eq] at digit
  omega

/-- The halves of a cut after bytes of one character each. -/
theorem slice_ok {front : List UInt8} (small : ∀ b ∈ front, b.toNat < 0x80) {line : List Char} {bytes : List UInt8}
    (shape : Utf8.encode line = front ++ bytes) : ∃ halves, slice front.length line = .ok halves := by
  obtain ⟨after, cuts, _⟩ := Utf8.cut_small small shape
  rw [slice, cuts]
  exact ⟨_, rfl⟩

theorem lineCode_ok (line : List Char) : ∃ code, lineCode line = .ok code := by
  simp only [lineCode]
  split
  · rename_i digits
    obtain ⟨long, digits⟩ := digits
    have front : ((Utf8.encode line).take 4).length = 4 := by
      rw [List.length_take]
      omega
    obtain ⟨halves, cuts⟩ := slice_ok (fun b member => isAsciiDigit_small (List.all_eq_true.mp digits b member))
      (List.take_append_drop 4 (Utf8.encode line)).symm
    rw [front] at cuts
    rw [cuts]
    exact ⟨_, rfl⟩
  · exact ⟨none, rfl⟩

theorem lineCode_some {line : List Char} {code : Nat} (found : lineCode line = .ok (some code)) :
    5 ≤ (Utf8.encode line).length ∧ ((Utf8.encode line).take 4).all isAsciiDigit := by
  simp only [lineCode] at found
  split at found
  · assumption
  · cases found

theorem coded_ok (separators : List UInt8) (line : List Char) : ∃ found, coded separators line = .ok found := by
  rw [coded]
  split
  · obtain ⟨code, read⟩ := lineCode_ok line
    rw [read]
    exact ⟨_, rfl⟩
  · exact ⟨false, rfl⟩

theorem coded_true {separators : List UInt8} {line : List Char} (found : coded separators line = .ok true) :
    (∃ separator ∈ separators, (Utf8.encode line)[4]? = some separator) ∧ ∃ code, lineCode line = .ok (some code) := by
  rw [coded] at found
  split at found
  · rename_i separated
    obtain ⟨code, read, isSome⟩ := bind_ok.mp found
    obtain ⟨value, rfl⟩ := Option.isSome_iff_exists.mp (Except.ok.inj isSome)
    refine ⟨?_, value, read⟩
    obtain ⟨separator, there, listed⟩ := (Option.any_eq_true _ _).mp separated
    exact ⟨separator, of_decide_eq_true listed, there⟩
  · cases found

theorem stripCodePrefix_ok (line : List Char) : ∃ text, stripCodePrefix line = .ok text := by
  rw [stripCodePrefix]
  obtain ⟨found, read⟩ := coded_ok [space, dash] line
  rw [read]
  cases found with
  | false => exact ⟨_, rfl⟩
  | true =>
    obtain ⟨⟨separator, listed, there⟩, code, coded⟩ := coded_true read
    obtain ⟨long, digits⟩ := lineCode_some coded
    have front : (Utf8.encode line).take 5 = (Utf8.encode line).take 4 ++ [separator] := by
      rw [List.take_add_one, there]
      rfl
    have length : ((Utf8.encode line).take 5).length = 5 := by
      rw [List.length_take]
      omega
    have small : ∀ b ∈ (Utf8.encode line).take 5, b.toNat < 0x80 := by
      intro b member
      rw [front] at member
      rcases List.mem_append.mp member with digit | last
      · exact isAsciiDigit_small (List.all_eq_true.mp digits b digit)
      · rw [List.mem_singleton.mp last]
        simp only [List.mem_cons, List.not_mem_nil, or_false] at listed
        rcases listed with rfl | rfl
        · decide
        · decide
    obtain ⟨halves, cuts⟩ := slice_ok small (List.take_append_drop 5 (Utf8.encode line)).symm
    rw [length] at cuts
    change ∃ text, (do return (← slice 5 line).2) = .ok text
    rw [cuts]
    exact ⟨_, rfl⟩

/-- A line always comes to something: a final line has a code of its own. -/
theorem takeLine_ok (text : List Char) (lastCode : Option Nat) (line : List Char) :
    ∃ turn, takeLine text lastCode line = .ok turn := by
  obtain ⟨code, read⟩ := lineCode_ok line
  obtain ⟨stripped, strips⟩ := stripCodePrefix_ok line
  obtain ⟨finalLine, ends⟩ := coded_ok [space] line
  rw [takeLine, read, isFinalLine, ends, strips]
  cases finalLine with
  | false => exact ⟨_, rfl⟩
  | true =>
    obtain ⟨value, own⟩ := (coded_true ends).2
    rw [read] at own
    cases own
    exact ⟨_, rfl⟩

theorem readUntil_fails {stream rest : Stream} {buffer : List UInt8} (read : readUntil stream = some (buffer, rest)) :
    rest.fails = stream.fails ∧ (buffer = [] → stream.fails = false) := by
  simp only [readUntil] at read
  split at read
  · split at read
    · cases read
    · rename_i ended
      cases read
      exact ⟨rfl, fun _ => Bool.not_eq_true _ ▸ ended⟩
  · cases read
    exact ⟨rfl, fun empty => by simp at empty⟩

theorem readUntil_none {stream : Stream} (read : readUntil stream = none) : stream.fails = true := by
  simp only [readUntil] at read
  split at read
  · split at read
    · assumption
    · cases read
  · cases read

/-- A reply that does not come is the socket's doing. -/
theorem readReply_error {text : List Char} {lastCode : Option Nat} {stream : Stream} {failure : Failure}
    (stops : readReply text lastCode stream = .error failure) : failure = if stream.fails then .read else .closed := by
  fun_induction readReply text lastCode stream with
  | case1 text lastCode stream read =>
    cases stops
    rw [readUntil_none read]
    rfl
  | case2 text lastCode stream rest read =>
    cases stops
    rw [(readUntil_fails read).2 rfl]
    rfl
  | case3 text lastCode stream buffer rest read some failure' taken =>
    obtain ⟨turn, passed⟩ := takeLine_ok text lastCode (Utf8.fromUtf8Lossy buffer)
    rw [passed] at taken
    cases taken
  | case4 text lastCode stream buffer rest read some reply taken => cases stops
  | case5 text lastCode stream buffer rest read some text' lastCode' taken ih =>
    rw [ih stops, (readUntil_fails read).1]

theorem readReply_calm {text : List Char} {lastCode : Option Nat} {stream : Stream} {failure : Failure}
    (stops : readReply text lastCode stream = .error failure) : failure ≠ .panic ∧ failure ≠ .noReplyCode := by
  rw [readReply_error stops]
  split
  · exact ⟨by simp, by simp⟩
  · exact ⟨by simp, by simp⟩

/-! ### Framed lines -/

def decimals (code : Nat) : List Nat := [code / 1000, code / 100 % 10, code / 10 % 10, code % 10]

/-- A code in four digits. -/
def codeDigits (code : Nat) : List Char := (decimals code).map Nat.digitChar

/-- The lines of a reply without their newlines: the last one has a space after its code,
and one of the same code as the line before it has no code. -/
def frames : Option Nat → List (Nat × String) → List (List Char)
  | _, [] => []
  | _, [last] => [codeDigits last.1 ++ ' ' :: last.2.toList]
  | previous, line :: next :: lines =>
    (if previous = some line.1 then ' ' :: line.2.toList else codeDigits line.1 ++ '-' :: line.2.toList) ::
      frames (some line.1) (next :: lines)

/-- A reply's bytes. -/
def framed (lines : List (Nat × String)) : List UInt8 := (frames none lines).flatMap fun line => Utf8.encode (line ++ ['\n'])

/-- What a reply says. -/
def said (lines : List (Nat × String)) : List Char := lines.flatMap fun line => line.2.toList ++ ['\n']

theorem utf8EncodeChar_digit {d : Nat} (small : d < 10) : String.utf8EncodeChar d.digitChar = [UInt8.ofNat (0x30 + d)] := by
  interval_cases d <;> rfl

theorem isAsciiDigit_byte {d : Nat} (small : d < 10) : isAsciiDigit (UInt8.ofNat (0x30 + d)) = true := by
  interval_cases d <;> rfl

theorem encode_digits {digits : List Nat} (small : ∀ d ∈ digits, d < 10) :
    Utf8.encode (digits.map Nat.digitChar) = digits.map fun d => UInt8.ofNat (0x30 + d) := by
  induction digits with
  | nil => rfl
  | cons d digits ih =>
    rw [List.map_cons, Utf8.encode_cons, utf8EncodeChar_digit (small d (by simp)), ih fun d member => small d (by simp [member])]
    rfl

theorem decimals_small {code : Nat} (small : code < 10000) : ∀ d ∈ decimals code, d < 10 := by
  simp only [decimals, List.mem_cons, List.not_mem_nil, or_false, forall_eq_or_imp, forall_eq]
  omega

theorem numeral_codeDigits {code : Nat} (small : code < 10000) : numeral 10 (codeDigits code) = code := by
  have value {d : Nat} (digit : d < 10) : (digitValue 10 d.digitChar).getD 0 = d := by
    rw [digitValue_digitChar (by decide) digit]
    rfl
  simp only [numeral, codeDigits, decimals, List.map_cons, List.map_nil, List.foldl_cons, List.foldl_nil,
    value (show code / 1000 < 10 by omega), value (show code / 100 % 10 < 10 by omega),
    value (show code / 10 % 10 < 10 by omega), value (show code % 10 < 10 by omega)]
  omega

theorem parseU16_codeDigits {code : Nat} (small : code < 10000) : parseU16 (String.ofList (codeDigits code)) = some code := by
  have digits : ∀ c ∈ codeDigits code, isDigit 10 c = true := by
    intro c member
    obtain ⟨d, listed, rfl⟩ := List.mem_map.mp member
    exact isDigit_digitChar (by decide) (decimals_small small d listed)
  have ends : Ends 10 [] := fun c head => by cases head
  obtain ⟨taken, left⟩ := span_digits digits ends
  rw [List.append_nil] at taken left
  have read : readUnbounded 65535 (codeDigits code) = some (code, []) := by
    simp only [readUnbounded, readNumber, taken, left, numeral_codeDigits small]
    rw [if_neg (by simp [codeDigits, decimals]), if_neg (by simp), if_neg (by omega)]
  have unsigned (rest : List Char) : codeDigits code ≠ '+' :: rest := by
    intro same
    have plus := digits '+' (by rw [same]; exact List.mem_cons_self)
    exact absurd plus (by decide)
  simp only [parseU16, String.toList_ofList]
  split
  · rename_i value found
    rw [read] at found
    cases found
    rfl
  · rename_i other
    exact absurd read (other code)

section
variable {code : Nat} (small : code < 10000) {c : Char} {separator : UInt8} (one : String.utf8EncodeChar c = [separator])
include small one

theorem encode_coded (tail : List Char) : Utf8.encode (codeDigits code ++ c :: tail) =
    (decimals code).map (fun d => UInt8.ofNat (0x30 + d)) ++ separator :: Utf8.encode tail := by
  rw [Utf8.encode_append, codeDigits, encode_digits (decimals_small small), Utf8.encode_cons, one]
  rfl

theorem utf8Size_coded : ∀ d ∈ codeDigits code ++ [c], d.utf8Size = 1 := by
  intro d member
  rw [← String.length_utf8EncodeChar]
  rcases List.mem_append.mp member with digit | last
  · obtain ⟨n, listed, rfl⟩ := List.mem_map.mp digit
    rw [utf8EncodeChar_digit (decimals_small small n listed)]
    rfl
  · rw [List.mem_singleton.mp last, one]
    rfl

theorem lineCode_coded (tail : List Char) : lineCode (codeDigits code ++ c :: tail) = .ok (some code) := by
  have front : ((decimals code).map fun d => UInt8.ofNat (0x30 + d)).all isAsciiDigit := by
    rw [List.all_map, List.all_eq_true]
    exact fun d listed => isAsciiDigit_byte (decimals_small small d listed)
  have cuts := Utf8.cut_append (fun d member => utf8Size_coded small one d (List.mem_append_left _ member)) (c :: tail)
  simp only [lineCode]
  rw [encode_coded small one, if_pos ⟨by simp [decimals], front⟩, slice, show 4 = (codeDigits code).length from rfl, cuts]
  exact congrArg Except.ok (parseU16_codeDigits small)

theorem coded_coded (separators : List UInt8) (tail : List Char) :
    coded separators (codeDigits code ++ c :: tail) = .ok (decide (separator ∈ separators)) := by
  have there : (Utf8.encode (codeDigits code ++ c :: tail))[4]? = some separator := by
    rw [encode_coded small one]
    rfl
  rw [coded, there, Option.any_some, lineCode_coded small one]
  by_cases listed : separator ∈ separators
  · rw [decide_eq_true listed]
    rfl
  · rw [decide_eq_false listed]
    rfl

theorem stripCodePrefix_coded (listed : separator ∈ [space, dash]) (tail : List Char) :
    stripCodePrefix (codeDigits code ++ c :: tail) = .ok tail := by
  have cuts := Utf8.cut_append (utf8Size_coded small one) tail
  rw [List.append_assoc, List.singleton_append] at cuts
  rw [stripCodePrefix, coded_coded small one, decide_eq_true listed]
  change (do return (← slice 5 (codeDigits code ++ c :: tail)).2) = _
  rw [slice, show 5 = (codeDigits code ++ [c]).length from rfl, cuts]
  rfl

end

theorem takeLine_final {code : Nat} (small : code < 10000) (text : List Char) (lastCode : Option Nat) (tail : List Char) :
    takeLine text lastCode (codeDigits code ++ ' ' :: tail) = .ok (.done ⟨code, String.ofList (text ++ tail)⟩) := by
  have one : String.utf8EncodeChar ' ' = [space] := rfl
  rw [takeLine, lineCode_coded small one, isFinalLine, coded_coded small one, stripCodePrefix_coded small one (by decide)]
  rfl

theorem takeLine_changed {code : Nat} (small : code < 10000) (text : List Char) (lastCode : Option Nat) (tail : List Char) :
    takeLine text lastCode (codeDigits code ++ '-' :: tail) = .ok (.more (text ++ tail) (some code)) := by
  have one : String.utf8EncodeChar '-' = [dash] := rfl
  rw [takeLine, lineCode_coded small one, isFinalLine, coded_coded small one, stripCodePrefix_coded small one (by decide)]
  rfl

/-- A line that starts with a space has no code, whatever its text is. -/
theorem takeLine_same (text : List Char) (lastCode : Option Nat) (tail : List Char) :
    takeLine text lastCode (' ' :: tail) = .ok (.more (text ++ tail) lastCode) := by
  have bytes : Utf8.encode (' ' :: tail) = space :: Utf8.encode tail := rfl
  have unread : lineCode (' ' :: tail) = .ok none := by
    simp only [lineCode]
    rw [bytes, List.take_succ_cons, List.all_cons, if_neg fun given => absurd given.2 (by simp [isAsciiDigit, space])]
    rfl
  have uncoded (separators : List UInt8) : coded separators (' ' :: tail) = .ok false := by
    rw [coded, unread]
    split
    · rfl
    · rfl
  rw [takeLine, unread, isFinalLine, uncoded, stripCodePrefix, uncoded]
  rfl

/-! ### A whole reply -/

theorem newline_absent {line : List Char} (absent : '\n' ∉ line) : newline ∉ Utf8.encode line :=
  fun member => absent (Utf8.mem_encode (by decide) member)

theorem readUntil_line {line : List Char} (absent : '\n' ∉ line) (bytes : List UInt8) (fails : Bool) :
    readUntil ⟨Utf8.encode (line ++ ['\n']) ++ bytes, fails⟩ = some (Utf8.encode (line ++ ['\n']), ⟨bytes, fails⟩) := by
  have ended : Utf8.encode (line ++ ['\n']) = Utf8.encode line ++ [newline] := Utf8.encode_append _ _
  have others : ∀ b ∈ Utf8.encode line, decide (b ≠ newline) = true := by
    intro b member
    exact decide_eq_true fun same => newline_absent absent (same ▸ member)
  rw [ended, List.append_assoc, List.singleton_append]
  simp only [readUntil]
  rw [List.takeWhile_append_of_pos others, List.dropWhile_append_of_pos others, List.takeWhile_cons_of_neg (by simp),
    List.dropWhile_cons_of_neg (by simp), List.append_nil]

theorem encode_line_ne_nil (line : List Char) : Utf8.encode (line ++ ['\n']) ≠ [] := by
  rw [Utf8.encode_append]
  exact List.append_ne_nil_of_right_ne_nil _ (List.cons_ne_nil _ _)

/-- The loop after a line. -/
def afterTurn (rest : Stream) : Turn → Except Failure (Reply × Stream)
  | .done reply => .ok (reply, rest)
  | .more text lastCode => readReply text lastCode rest

theorem readReply_line {line text : List Char} {lastCode : Option Nat} {turn : Turn} (absent : '\n' ∉ line)
    (taken : takeLine text lastCode (line ++ ['\n']) = .ok turn) (bytes : List UInt8) (fails : Bool) :
    readReply text lastCode ⟨Utf8.encode (line ++ ['\n']) ++ bytes, fails⟩ = afterTurn ⟨bytes, fails⟩ turn := by
  rw [readReply]
  split
  · rename_i read
    rw [readUntil_line absent] at read
    cases read
  · rename_i buffer rest read
    rw [readUntil_line absent] at read
    cases read
    rw [dif_neg (encode_line_ne_nil line), Utf8.fromUtf8Lossy_encode, taken]
    cases turn with
    | done reply => rfl
    | more text lastCode => rfl

theorem newline_codeDigits {code : Nat} (small : code < 10000) : '\n' ∉ codeDigits code := by
  intro member
  obtain ⟨d, listed, same⟩ := List.mem_map.mp member
  have digit := decimals_small small d listed
  interval_cases d <;> cases same

/-- The lines of a reply are read to its last one, whatever came before them. -/
theorem readReply_frames {lines : List (Nat × String)} (nonempty : lines ≠ []) (codes : ∀ line ∈ lines, line.1 < 10000)
    (texts : ∀ line ∈ lines, '\n' ∉ line.2.toList) (previous lastCode : Option Nat) (text : List Char) (bytes : List UInt8)
    (fails : Bool) :
    readReply text lastCode ⟨(frames previous lines).flatMap (fun line => Utf8.encode (line ++ ['\n'])) ++ bytes, fails⟩ =
      .ok (⟨(lines.getLast nonempty).1, String.ofList (text ++ said lines)⟩, ⟨bytes, fails⟩) := by
  induction lines generalizing previous lastCode text with
  | nil => exact absurd rfl nonempty
  | cons line lines ih =>
    obtain ⟨code, words⟩ := line
    have small : code < 10000 := codes (code, words) (by simp)
    have absent : '\n' ∉ words.toList := texts (code, words) (by simp)
    have noDigit := newline_codeDigits small
    cases lines with
    | nil =>
      rw [frames, List.flatMap_cons, List.flatMap_nil, List.append_nil]
      have taken := takeLine_final small text lastCode (words.toList ++ ['\n'])
      have own : '\n' ∉ codeDigits code ++ ' ' :: words.toList := by simp [noDigit, absent]
      rw [readReply_line own (by rw [List.append_assoc]; exact taken)]
      simp [afterTurn, said]
    | cons next lines =>
      have later (lastCode : Option Nat) := ih (List.cons_ne_nil next lines)
        (fun line member => codes line (List.mem_cons_of_mem _ member))
        (fun line member => texts line (List.mem_cons_of_mem _ member)) (some code) lastCode (text ++ (words.toList ++ ['\n']))
      have whole : said ((code, words) :: next :: lines) = (words.toList ++ ['\n']) ++ said (next :: lines) := rfl
      rw [frames, List.flatMap_cons, List.append_assoc, whole, ← List.append_assoc text,
        List.getLast_cons (List.cons_ne_nil next lines)]
      split
      · have taken := takeLine_same text lastCode (words.toList ++ ['\n'])
        rw [readReply_line (by simpa using absent) taken]
        exact later lastCode
      · have taken := takeLine_changed small text lastCode (words.toList ++ ['\n'])
        have own : '\n' ∉ codeDigits code ++ '-' :: words.toList := by simp [noDigit, absent]
        rw [readReply_line own (by rw [List.append_assoc]; exact taken)]
        exact later (some code)

/-- A framed reply is read to its end and no further, and says what was framed. On any
bytes the reading neither panics nor ends in a reply without a code. -/
theorem readReply_framed :
    (∀ (lines : List (Nat × String)) (nonempty : lines ≠ []), (∀ line ∈ lines, line.1 < 10000) →
      (∀ line ∈ lines, '\n' ∉ line.2.toList) → ∀ (bytes : List UInt8) (fails : Bool),
        readReply [] none ⟨framed lines ++ bytes, fails⟩ =
          .ok (⟨(lines.getLast nonempty).1, String.ofList (said lines)⟩, ⟨bytes, fails⟩)) ∧
    ∀ (stream : Stream) (failure : Failure), readReply [] none stream = .error failure →
      failure ≠ .panic ∧ failure ≠ .noReplyCode := by
  constructor
  · intro lines nonempty codes texts bytes fails
    exact readReply_frames nonempty codes texts none none [] bytes fails
  · intro stream failure stops
    exact readReply_calm stops

/-- The text of the elided line starts with what could be a code. -/
theorem interfaces_framed : readReply [] none ⟨framed [(1002, "mesh"), (1002, "0003 up"), (0, "")] ++ [0x21], false⟩ =
    .ok (⟨0, String.ofList (said [(1002, "mesh"), (1002, "0003 up"), (0, "")])⟩, ⟨[0x21], false⟩) :=
  readReply_framed.1 [(1002, "mesh"), (1002, "0003 up"), (0, "")] (by simp) (by decide) (by decide) [0x21] false

theorem commandInner_calm {connection : Option Stream} {sent : Bool} {failure : Failure}
    (stops : commandInner connection sent = .error failure) : failure ≠ .panic ∧ failure ≠ .noReplyCode := by
  cases connection with
  | none =>
    cases stops
    exact ⟨by simp, by simp⟩
  | some stream =>
    rw [commandInner] at stops
    split at stops
    · cases stops
      exact ⟨by simp, by simp⟩
    split at stops
    · cases stops
      exact ⟨by simp, by simp⟩
    · rename_i buffer rest read some_bytes
      obtain ⟨found, ends⟩ := coded_ok [space] (Utf8.fromUtf8Lossy buffer)
      simp only [isFinalLine, ends] at stops
      change (if found then if sent then readReply [] none rest else throw .send
        else throw (.unexpectedGreeting (String.ofList (Utf8.fromUtf8Lossy buffer)))) = _ at stops
      split at stops
      · split at stops
        · exact readReply_calm stops
        · cases stops
          exact ⟨by simp, by simp⟩
      · cases stops
        exact ⟨by simp, by simp⟩

/-- A greeting of one line is passed over. -/
theorem commandInner_framed {greeting : Nat × String} {lines : List (Nat × String)} (nonempty : lines ≠ [])
    (codes : ∀ line ∈ greeting :: lines, line.1 < 10000) (texts : ∀ line ∈ greeting :: lines, '\n' ∉ line.2.toList)
    (bytes : List UInt8) (fails : Bool) :
    commandInner (some ⟨framed [greeting] ++ (framed lines ++ bytes), fails⟩) true =
      .ok (⟨(lines.getLast nonempty).1, String.ofList (said lines)⟩, ⟨bytes, fails⟩) := by
  have small := codes greeting (by simp)
  have absent : '\n' ∉ codeDigits greeting.1 ++ ' ' :: greeting.2.toList := by
    simp [newline_codeDigits small, texts greeting (by simp)]
  have first : framed [greeting] = Utf8.encode ((codeDigits greeting.1 ++ ' ' :: greeting.2.toList) ++ ['\n']) := by
    rw [framed, frames, List.flatMap_cons, List.flatMap_nil, List.append_nil]
  have one : String.utf8EncodeChar ' ' = [space] := rfl
  have ends : isFinalLine ((codeDigits greeting.1 ++ ' ' :: greeting.2.toList) ++ ['\n']) = .ok true := by
    rw [List.append_assoc]
    exact coded_coded small one [space] (greeting.2.toList ++ ['\n'])
  rw [commandInner, first, readUntil_line absent]
  simp only [encode_line_ne_nil, if_false, Utf8.fromUtf8Lossy_encode, ends]
  exact readReply_frames nonempty (fun line member => codes line (List.mem_cons_of_mem _ member))
    (fun line member => texts line (List.mem_cons_of_mem _ member)) none none [] bytes fails

end Slipmesh.Router.Birdc
