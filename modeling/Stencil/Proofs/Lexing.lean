import Stencil.Token.Lexer

/-!
# The tokens of a text

The lexer skips blanks and line ends, takes a mark by itself and a word as far as
it goes. This file says so of a text that starts with one of these, and then of
texts that are put together: `Reads` says that the tokens of a text exist and have
a property, in which the places of the tokens play no part.
-/

namespace Stencil.Lexer

/-! ### Characters and bytes -/

theorem bytesOf_append (first second : String) :
    bytesOf (first ++ second) = bytesOf first ++ bytesOf second := by
  simp [bytesOf]

theorem utf8Encode_of_ascii {characters : List Char}
    (ascii : ∀ character ∈ characters, character.toNat < 128) :
    characters.flatMap String.utf8EncodeChar = characters.map byteOf := by
  induction characters with
  | nil => rfl
  | cons character characters ih =>
      rw [List.forall_mem_cons] at ascii
      have small : character.val.toNat ≤ 127 := Nat.le_of_lt_succ ascii.1
      rw [List.flatMap_cons, List.map_cons, ih ascii.2, String.utf8EncodeChar, if_pos small]
      rfl

theorem bytesOf_ofList {characters : List Char}
    (ascii : ∀ character ∈ characters, character.toNat < 128) :
    bytesOf (String.ofList characters) = characters.map byteOf := by
  simp only [bytesOf, String.toUTF8, String.toByteArray_ofList, List.utf8Encode,
    List.data_toByteArray, utf8Encode_of_ascii ascii]

theorem toNat_byteOf {character : Char} (ascii : character.toNat < 128) :
    (byteOf character).toNat = character.toNat := by
  rw [byteOf, Nat.toUInt8, UInt8.toNat_ofNat']
  exact Nat.mod_eq_of_lt (by omega)

theorem toNat_ofUInt8 (byte : UInt8) : (Char.ofUInt8 byte).toNat = byte.toNat :=
  UInt8.toNat_toUInt32 byte

theorem textOf_map_byteOf {characters : List Char}
    (ascii : ∀ character ∈ characters, character.toNat < 128) :
    textOf (characters.map byteOf) = String.ofList characters := by
  have decoded : (characters.map byteOf).map Char.ofUInt8 = characters.map id := by
    rw [List.map_map]
    apply List.map_congr_left
    intro character characterMem
    apply Char.toNat_inj.mp
    exact (toNat_ofUInt8 _).trans (toNat_byteOf (ascii character characterMem))
  rw [textOf, decoded, List.map_id]

theorem bytesOf_textOf {bytes : List UInt8} (ascii : ∀ byte ∈ bytes, byte.toNat < 128) :
    bytesOf (textOf bytes) = bytes := by
  have characters : ∀ character ∈ bytes.map Char.ofUInt8, character.toNat < 128 := by
    rw [List.forall_mem_map]
    intro byte mem
    rw [toNat_ofUInt8]
    exact ascii byte mem
  rw [textOf, bytesOf_ofList characters, List.map_map]
  apply List.map_id''
  intro byte
  rw [Function.comp_apply, byteOf, toNat_ofUInt8]
  exact UInt8.ofNat_toNat

theorem bytesOf_injective {first second : String} (same : bytesOf first = bytesOf second) :
    first = second := by
  apply String.toByteArray_inj.mp
  apply ByteArray.ext
  exact Array.toList_inj.mp same

/-- A character of words and numbers. -/
def IsWordCharacter (character : Char) : Prop :=
  character.toNat < 128 ∧ isWordByte (byteOf character) = true

instance (character : Char) : Decidable (IsWordCharacter character) :=
  inferInstanceAs (Decidable (_ ∧ _))

theorem visible_of_word {character : Char} (inside : IsWordCharacter character) :
    32 < character.toNat ∧ character.toNat < 127 := by
  rcases inside with ⟨ascii, inside⟩
  simp only [isWordByte, isLetter, isDigit, Bool.or_eq_true, Bool.and_eq_true, beq_iff_eq,
    decide_eq_true_eq, UInt8.le_iff_toNat_le, UInt8.reduceToNat, ← UInt8.toNat_inj,
    toNat_byteOf ascii] at inside
  omega

/-! ### One step of the lexer -/

/-- No word goes on in the bytes. -/
def Boundary (bytes : List UInt8) : Prop :=
  ∀ byte, bytes.head? = some byte → isWordByte byte = false

theorem tokensFrom_newline (position : Position) (rest : List UInt8) :
    tokensFrom position (newline :: rest) = tokensFrom position.nextLine rest := by
  rw [tokensFrom, if_pos rfl]

theorem tokensFrom_blank {byte : UInt8} (blank : isBlank byte = true) (position : Position)
    (rest : List UInt8) :
    tokensFrom position (byte :: rest) = tokensFrom (position.advance 1) rest := by
  have notNewline : byte ≠ newline := by
    rintro rfl
    simp [isBlank, newline] at blank
  rw [tokensFrom, if_neg notNewline, if_pos blank]

theorem not_separator_of_isWordByte {byte : UInt8} (inside : isWordByte byte = true) :
    byte ≠ newline ∧ isBlank byte = false ∧ ∀ rest, startsComment byte rest = false := by
  have different : ∀ other : UInt8, isWordByte other = false → (byte == other) = false := by
    intro other outside
    rw [beq_eq_false_iff_ne]
    rintro rfl
    simp [inside] at outside
  refine ⟨?_, ?_, ?_⟩
  · exact beq_eq_false_iff_ne.mp (different newline (by decide))
  · simp only [isBlank, different 32 (by decide), different 9 (by decide), different 13 (by decide),
      Bool.or_self]
  · intro rest
    simp only [startsComment, different hash (by decide), different slash (by decide),
      Bool.false_and, Bool.or_self]

theorem takeWhile_word {word rest : List UInt8} (inside : ∀ byte ∈ word, isWordByte byte = true)
    (boundary : Boundary rest) :
    (word ++ rest).takeWhile isWordByte = word ∧ (word ++ rest).dropWhile isWordByte = rest := by
  rw [List.takeWhile_append_of_pos inside, List.dropWhile_append_of_pos inside]
  cases rest with
  | nil => simp
  | cons byte rest => simp [boundary byte rfl]

theorem tokensFrom_word {first : UInt8} {word rest : List UInt8}
    (inside : ∀ byte ∈ first :: word, isWordByte byte = true) (boundary : Boundary rest)
    (position : Position) :
    tokensFrom position (first :: (word ++ rest)) =
      (tokensFrom (position.advance (word.length + 1)) rest).map
        ({ kind := wordClass first, text := textOf (first :: word), position } :: ·) := by
  rw [List.forall_mem_cons] at inside
  rcases not_separator_of_isWordByte inside.1 with ⟨notNewline, notBlank, noComment⟩
  rcases takeWhile_word inside.2 boundary with ⟨word_eq, rest_eq⟩
  rw [tokensFrom, if_neg notNewline, if_neg (by simp [notBlank]), if_neg (by simp [noComment]),
    if_pos inside.1]
  simp only [word_eq, rest_eq, List.length_cons]

theorem tokensFrom_mark (mark : Mark) (position : Position) (rest : List UInt8) :
    tokensFrom position (byteOf mark.character :: rest) =
      (tokensFrom (position.advance 1) rest).map
        ({ kind := .mark, text := mark.text, position } :: ·) := by
  have marked : isMark (byteOf mark.character) = true ∧
      textOf [byteOf mark.character] = mark.text := by
    cases mark <;> decide
  have unlike : byteOf mark.character ≠ newline ∧ isBlank (byteOf mark.character) = false ∧
      byteOf mark.character ≠ hash ∧ byteOf mark.character ≠ slash ∧
      isWordByte (byteOf mark.character) = false := by
    cases mark <;> decide
  rcases unlike with ⟨notNewline, notBlank, notHash, notSlash, notWord⟩
  have noComment : startsComment (byteOf mark.character) rest = false := by
    simp [startsComment, notHash, notSlash]
  rw [tokensFrom, if_neg notNewline, if_neg (by simp [notBlank]), if_neg (by simp [noComment]),
    if_neg (by simp [notWord]), if_pos marked.1, marked.2]

/-! ### Texts put together -/

/-- The bytes have tokens wherever they stand, and the tokens have the property. -/
def Reads (bytes : List UInt8) (property : List Token → Prop) : Prop :=
  ∀ position, ∃ tokens, tokensFrom position bytes = .ok tokens ∧ property tokens

/-- The tokens fall into a first part and a rest with these properties. -/
def Then (first rest : List Token → Prop) (tokens : List Token) : Prop :=
  ∃ before after, tokens = before ++ after ∧ first before ∧ rest after

/-- The tokens are a single one with the property. -/
def One (property : Token → Prop) (tokens : List Token) : Prop :=
  ∃ token, tokens = [token] ∧ property token

namespace Reads

variable {bytes rest : List UInt8} {property later : List Token → Prop}

theorem mono (reads : Reads bytes property) (implies : ∀ tokens, property tokens → later tokens) :
    Reads bytes later := by
  intro position
  rcases reads position with ⟨tokens, read, holds⟩
  exact ⟨tokens, read, implies tokens holds⟩

theorem mono_first {first : List Token → Prop} (reads : Reads bytes (Then first later))
    (implies : ∀ tokens, first tokens → property tokens) : Reads bytes (Then property later) := by
  refine reads.mono ?_
  rintro _ ⟨before, after, rfl, holds, afterHolds⟩
  exact ⟨before, after, rfl, implies before holds, afterHolds⟩

theorem empty : Reads [] (· = []) := by
  intro position
  exact ⟨[], by rw [tokensFrom], rfl⟩

theorem newline (reads : Reads rest later) : Reads (newline :: rest) later := by
  intro position
  rw [tokensFrom_newline]
  exact reads position.nextLine

theorem blank {byte : UInt8} (blank : isBlank byte = true) (reads : Reads rest later) :
    Reads (byte :: rest) later := by
  intro position
  rw [tokensFrom_blank blank]
  exact reads (position.advance 1)

theorem mark (mark : Mark) (reads : Reads rest later) :
    Reads (byteOf mark.character :: rest) (Then (One fun token => token.isMark mark) later) := by
  intro position
  rcases reads (position.advance 1) with ⟨tokens, read, holds⟩
  let token : Token := { kind := .mark, text := mark.text, position }
  refine ⟨token :: tokens, ?_, [token], tokens, rfl, ⟨token, rfl, ?_⟩, holds⟩
  · rw [tokensFrom_mark, read]
    rfl
  · simp [token, Token.isMark]

theorem word {first : UInt8} {word : List UInt8}
    (inside : ∀ byte ∈ first :: word, isWordByte byte = true) (boundary : Boundary rest)
    (reads : Reads rest later) :
    Reads (first :: word ++ rest) (Then (One fun token =>
      token.kind = wordClass first ∧ token.text = textOf (first :: word)) later) := by
  intro position
  rcases reads (position.advance (word.length + 1)) with ⟨tokens, read, holds⟩
  let token : Token := { kind := wordClass first, text := textOf (first :: word), position }
  refine ⟨token :: tokens, ?_, [token], tokens, rfl, ⟨token, rfl, rfl, rfl⟩, holds⟩
  rw [List.cons_append, tokensFrom_word inside boundary, read]
  rfl

theorem wordText {first : Char} {characters : List Char}
    (inside : ∀ character ∈ first :: characters, IsWordCharacter character)
    (boundary : Boundary rest) (reads : Reads rest later) :
    Reads (bytesOf (String.ofList (first :: characters)) ++ rest) (Then (One fun token =>
      token.kind = wordClass (byteOf first) ∧
        token.text = String.ofList (first :: characters)) later) := by
  have ascii : ∀ character ∈ first :: characters, character.toNat < 128 :=
    fun character characterMem => (inside character characterMem).1
  have wordBytes : ∀ byte ∈ byteOf first :: characters.map byteOf, isWordByte byte = true := by
    rw [← List.map_cons, List.forall_mem_map]
    exact fun character characterMem => (inside character characterMem).2
  have read := word wordBytes boundary reads
  rw [← List.map_cons, textOf_map_byteOf ascii] at read
  rw [bytesOf_ofList ascii]
  exact read

end Reads

end Stencil.Lexer
