import LojbanTree.CommandLine.Lines

/-!
# Lines of a text

Lines are read from bytes, while one thinks of them as parts of a text.
`CommandLine.splitLines` cuts units of any kind, be they bytes or characters,
and `CommandLine.decode_lines` says that it makes no difference which: the lines
of the bytes of a text are the bytes of its lines, because no byte that ends a
line is part of another character.
-/

namespace LojbanTree

namespace CommandLine

/-! ## Lines of units -/

section

variable {unit : Type} [DecidableEq unit] (feed carriage : unit)

/-- A line without the return at its end, if it has one. -/
def withoutReturn (line : List unit) : List unit :=
  if line.getLast? = some carriage then line.dropLast else line

/--
What feeds end, without the returns in front of them, and what is behind the last
feed.
-/
def splitLines (units : List unit) : List (List unit) :=
  let pieces := units.splitOn feed
  pieces.dropLast.map (withoutReturn carriage) ++
    (pieces.getLast?.filter (· ≠ [])).toList

/-- A statement about all units may be proved line by line. -/
theorem lineInduction {motive : List unit → Prop}
    (last : ∀ line, feed ∉ line → motive line)
    (ended : ∀ line rest, feed ∉ line → motive rest →
      motive (line ++ feed :: rest))
    (units : List unit) : motive units := by
  by_cases more : feed ∈ units
  · obtain ⟨line, rest, parts, noFeed⟩ := List.eq_append_cons_of_mem more
    have shorter : rest.length < units.length := by
      simp only [parts, List.length_append, List.length_cons]
      omega
    rw [parts]
    exact ended line rest noFeed (lineInduction last ended rest)
  · exact last units more
termination_by units.length

variable {feed}

theorem splitLines_append_feed {line : List unit} (noFeed : feed ∉ line)
    (rest : List unit) :
    splitLines feed carriage (line ++ feed :: rest) =
      withoutReturn carriage line :: splitLines feed carriage rest := by
  have others := List.splitOn_ne_nil feed rest
  have isLast := List.getLast?_eq_some_getLast others
  simp [splitLines, List.splitOn_append_cons_self_of_not_mem noFeed,
    List.dropLast_cons_of_ne_nil others, List.getLast?_cons, isLast]

theorem splitLines_of_not_mem {line : List unit} (noFeed : feed ∉ line) :
    splitLines feed carriage line = if line = [] then [] else [line] := by
  by_cases nothing : line = [] <;>
    simp [splitLines, List.splitOn_eq_singleton noFeed, nothing]

end

/-! ## Lines of bytes -/

theorem finishLine_eq (backwards : List UInt8) :
    finishLine backwards = withoutReturn carriageReturn backwards.reverse := by
  cases backwards with
  | nil => rfl
  | cons last rest => simp [finishLine, withoutReturn]

theorem linesFrom_append_feed {line : List UInt8} (noFeed : lineFeed ∉ line)
    (backwards rest : List UInt8) :
    linesFrom backwards (line ++ lineFeed :: rest) =
      finishLine (line.reverse ++ backwards) :: linesFrom [] rest := by
  induction line generalizing backwards with
  | nil => simp [linesFrom]
  | cons byte line inLine =>
      rw [List.mem_cons, not_or] at noFeed
      have goesOn : byte ≠ lineFeed := Ne.symm noFeed.1
      simp [linesFrom, goesOn, inLine noFeed.2]

theorem linesFrom_of_not_mem {line : List UInt8} (noFeed : lineFeed ∉ line)
    (backwards : List UInt8) :
    linesFrom backwards line =
      if line.reverse ++ backwards = [] then []
      else [backwards.reverse ++ line] := by
  induction line generalizing backwards with
  | nil => simp [linesFrom]
  | cons byte line inLine =>
      rw [List.mem_cons, not_or] at noFeed
      have goesOn : byte ≠ lineFeed := Ne.symm noFeed.1
      simp [linesFrom, goesOn, inLine noFeed.2]

/-- Bytes are cut at line feeds, and a return in front of one goes with it. -/
theorem lines_eq_splitLines (bytes : List UInt8) :
    lines bytes = splitLines lineFeed carriageReturn bytes := by
  induction bytes using lineInduction lineFeed with
  | last line noFeed =>
      simp [lines, linesFrom_of_not_mem noFeed, splitLines_of_not_mem _ noFeed]
  | ended line rest noFeed inRest =>
      rw [splitLines_append_feed _ noFeed, ← inRest]
      simp [lines, linesFrom_append_feed noFeed, finishLine_eq]

/-! ## Bytes of characters -/

/-- The bytes of characters. -/
def encode (chars : List Char) : List UInt8 := chars.flatMap String.utf8EncodeChar

theorem utf8EncodeChar_of_lt {char : Char} (small : char.toNat < 128) :
    String.utf8EncodeChar char = [UInt8.ofNat char.toNat] := by
  have within : char.val.toNat ≤ 127 := Nat.le_of_lt_succ small
  rw [String.utf8EncodeChar, if_pos within]
  rfl

/-- Every byte of a longer character has its highest bit set. -/
theorem le_of_mem_utf8EncodeChar {char : Char} (large : 128 ≤ char.toNat)
    {byte : UInt8}
    (member : byte ∈ String.utf8EncodeChar char) : 128 ≤ byte.toNat := by
  have beyond : ¬ char.val.toNat ≤ 127 := Nat.not_le.mpr large
  rw [String.utf8EncodeChar, if_neg beyond] at member
  split at member
  case' isFalse => split at member
  all_goals
    simp only [List.mem_cons, List.not_mem_nil, or_false, ← UInt8.toNat_inj,
      UInt8.toNat_ofNat'] at member
    omega

/-- The byte of a character below U+0080 is part of no other character. -/
theorem eq_of_mem_utf8EncodeChar {mark char : Char} (ascii : mark.toNat < 128)
    (member : UInt8.ofNat mark.toNat ∈ String.utf8EncodeChar char) :
    char = mark := by
  have code : (UInt8.ofNat mark.toNat).toNat = mark.toNat := by
    rw [UInt8.toNat_ofNat']
    omega
  by_cases small : char.toNat < 128
  · rw [utf8EncodeChar_of_lt small, List.mem_singleton, ← UInt8.toNat_inj, code,
      UInt8.toNat_ofNat'] at member
    have same : char.toNat = mark.toNat := by omega
    rw [← Char.ofNat_toNat char, same, Char.ofNat_toNat]
  · have high := le_of_mem_utf8EncodeChar (Nat.not_lt.mp small) member
    omega

/-- The byte of a line feed is in the encoding of that character alone. -/
theorem feed_mem_encode_iff (chars : List Char) :
    lineFeed ∈ encode chars ↔ '\n' ∈ chars := by
  rw [encode, List.mem_flatMap]
  constructor
  · rintro ⟨char, isChar, member⟩
    have same : char = '\n' := eq_of_mem_utf8EncodeChar (by decide) member
    exact same ▸ isChar
  · intro isChar
    exact ⟨'\n', isChar, by decide⟩

theorem encode_append (left right : List Char) :
    encode (left ++ right) = encode left ++ encode right := by
  simp [encode]

theorem encode_eq_nil_iff (chars : List Char) :
    encode chars = [] ↔ chars = [] := by
  cases chars <;> simp [encode]

theorem withoutReturn_encode (line : List Char) :
    withoutReturn carriageReturn (encode line) =
      encode (withoutReturn '\r' line) := by
  rcases List.eq_nil_or_concat line with rfl | ⟨line, last, rfl⟩
  · rfl
  rw [List.concat_eq_append, encode_append]
  by_cases isReturn : last = '\r'
  · have byte : encode ['\r'] = [carriageReturn] := by decide
    simp [withoutReturn, isReturn, byte]
  · have noByte :
        (encode line ++ encode [last]).getLast? ≠ some carriageReturn := by
      rw [List.getLast?_append]
      intro atEnd
      rcases Option.or_eq_some_iff.mp atEnd with inLast | ⟨noLast, _⟩
      · have member : carriageReturn ∈ String.utf8EncodeChar last := by
          simpa [encode] using List.mem_of_getLast? inLast
        exact isReturn (eq_of_mem_utf8EncodeChar (by decide) member)
      · simp [encode_eq_nil_iff] at noLast
    have noReturn : (line ++ [last]).getLast? ≠ some '\r' := by
      simpa using isReturn
    rw [withoutReturn, withoutReturn, if_neg noByte, if_neg noReturn,
      encode_append]

/--
Lines are the same in characters and in bytes.  No other character has the byte of
a line feed in its encoding, so that both are cut at the same places.
-/
theorem splitLines_encode (chars : List Char) :
    splitLines lineFeed carriageReturn (encode chars) =
      (splitLines '\n' '\r' chars).map encode := by
  induction chars using lineInduction '\n' with
  | last line noFeed =>
      have noByte : lineFeed ∉ encode line :=
        mt (feed_mem_encode_iff line).mp noFeed
      rw [splitLines_of_not_mem _ noByte, splitLines_of_not_mem _ noFeed]
      simp only [encode_eq_nil_iff]
      split <;> rfl
  | ended line rest noFeed inRest =>
      have noByte : lineFeed ∉ encode line :=
        mt (feed_mem_encode_iff line).mp noFeed
      have parts :
          encode (line ++ '\n' :: rest) = encode line ++ lineFeed :: encode rest :=
        encode_append line ('\n' :: rest)
      rw [parts, splitLines_append_feed _ noByte, splitLines_append_feed _ noFeed,
        List.map_cons, withoutReturn_encode, inRest]

theorem fromUTF8?_toByteArray (text : String) :
    String.fromUTF8? text.toByteArray = some text := by
  rw [String.fromUTF8?, dif_pos text.isValidUTF8]
  rfl

theorem decode?_encode (chars : List Char) :
    decode? (encode chars) = some (String.ofList chars) := by
  have bytes :
      (⟨(encode chars).toArray⟩ : ByteArray) =
        (String.ofList chars).toByteArray := by
    apply ByteArray.ext
    apply Array.toList_inj.mp
    rw [String.toByteArray_ofList, List.utf8Encode, List.toList_data_toByteArray]
    rfl
  rw [decode?, bytes, fromUTF8?_toByteArray]

theorem toList_loop_eq (bytes : ByteArray) (place : Nat) (before : List UInt8) :
    ByteArray.toList.loop bytes place before =
      before.reverse ++ bytes.data.toList.drop place := by
  fun_induction ByteArray.toList.loop bytes place before with
  | case1 place before inside inRest =>
      have isPlace : place < bytes.data.toList.length := by simpa using inside
      rw [inRest, List.drop_eq_getElem_cons isPlace]
      simp [ByteArray.get!, inside]
  | case2 place before outside =>
      rw [List.drop_eq_nil_of_le (by simpa using Nat.le_of_not_lt outside),
        List.append_nil]

/-- The bytes of a text are those of its characters, one after another. -/
theorem toList_eq_encode {bytes : ByteArray} {text : String}
    (decoded : String.fromUTF8? bytes = some text) :
    bytes.toList = encode text.toList := by
  unfold String.fromUTF8? at decoded
  split at decoded
  case isFalse => simp at decoded
  case isTrue valid =>
    rw [Option.some.injEq] at decoded
    have bytes_eq : bytes = text.toList.utf8Encode := by
      rw [String.utf8Encode_toList, ← decoded]
      rfl
    rw [ByteArray.toList, toList_loop_eq, bytes_eq, List.utf8Encode,
      List.toList_data_toByteArray]
    rfl

/-- The lines of a text. -/
def textLines (text : String) : List String :=
  (splitLines '\n' '\r' text.toList).map String.ofList

/-- The lines of the bytes of a text are decoded to the lines of that text. -/
theorem decode_lines {bytes : ByteArray} {text : String}
    (decoded : String.fromUTF8? bytes = some text) :
    (lines bytes.toList).map decode? = (textLines text).map some := by
  rw [toList_eq_encode decoded, lines_eq_splitLines, splitLines_encode, textLines]
  simp [decode?_encode]

/-! ## Lines that were written -/

/-- Texts with the end of a line behind each. -/
def framed (texts : List String) : String := String.join (texts.map (· ++ "\n"))

@[simp]
theorem framed_nil : framed [] = "" := rfl

@[simp]
theorem framed_cons (text : String) (rest : List String) :
    framed (text :: rest) = text ++ "\n" ++ framed rest := by
  simp [framed]

/-- Texts of one line each are read back as they were written. -/
theorem textLines_framed {texts : List String}
    (single : ∀ text ∈ texts, '\n' ∉ text.toList ∧ '\r' ∉ text.toList) :
    textLines (framed texts) = texts := by
  induction texts with
  | nil => rfl
  | cons text rest inRest =>
      obtain ⟨⟨noFeed, noReturn⟩, others⟩ := List.forall_mem_cons.mp single
      have written :
          (framed (text :: rest)).toList =
            text.toList ++ '\n' :: (framed rest).toList := by
        simp
      have whole : withoutReturn '\r' text.toList = text.toList := by
        have atEnd : text.toList.getLast? ≠ some '\r' := fun last =>
          noReturn (List.mem_of_getLast? last)
        rw [withoutReturn, if_neg atEnd]
      have readRest := inRest others
      rw [textLines] at readRest
      rw [textLines, written, splitLines_append_feed _ noFeed, List.map_cons,
        whole, readRest, String.ofList_toList]

end CommandLine

end LojbanTree
