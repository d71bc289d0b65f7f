import Mathlib.Algebra.Group.Nat.Defs
import Stencil.Bytes.LittleEndian

/-!
# Fields of a code buffer

The four bytes of a word determine it. A field is four bytes of a buffer with
something before and something after it, and storing a word in a field replaces
exactly these bytes. Offsets are 64-bit integers, so this is said of buffers
whose size is one; no longer buffer can be addressed.
-/

namespace Stencil.LittleEndian

/-- Each bit of a word comes from one of the four bytes. -/
theorem getLsbD_word (first second third fourth : UInt8) (bit : Nat) :
    (word first second third fourth).toBitVec.getLsbD bit =
      if bit < 8 then first.toBitVec.getLsbD bit
      else if bit < 16 then second.toBitVec.getLsbD (bit - 8)
      else if bit < 24 then third.toBitVec.getLsbD (bit - 16)
      else fourth.toBitVec.getLsbD (bit - 24) := by
  have eight : (UInt32.toBitVec 8 % 32#32).toNat = 8 := rfl
  have sixteen : (UInt32.toBitVec 16 % 32#32).toNat = 16 := rfl
  have twentyFour : (UInt32.toBitVec 24 % 32#32).toNat = 24 := rfl
  simp only [word, UInt32.toBitVec_or, UInt32.toBitVec_shiftLeft, UInt8.toBitVec_toUInt32,
    BitVec.getLsbD_or, BitVec.getLsbD_setWidth, BitVec.shiftLeft_eq', BitVec.getLsbD_shiftLeft]
  grind

theorem getLsbD_toUInt8_shiftRight (value count : UInt32) (bit : Nat) (small : count.toNat < 32) :
    (value >>> count).toUInt8.toBitVec.getLsbD bit =
      (decide (bit < 8) && value.toBitVec.getLsbD (count.toNat + bit)) := by
  have amount : (count.toBitVec % 32#32).toNat = count.toNat := by
    rw [BitVec.toNat_umod]
    exact Nat.mod_eq_of_lt small
  simp only [UInt32.toBitVec_toUInt8, UInt32.toBitVec_shiftRight, BitVec.getLsbD_setWidth,
    BitVec.ushiftRight_eq', BitVec.getLsbD_ushiftRight]
  grind

theorem word_bytes (value : UInt32) :
    word value.toUInt8 (value >>> 8).toUInt8 (value >>> 16).toUInt8 (value >>> 24).toUInt8 =
      value := by
  apply UInt32.toBitVec_inj.mp
  apply BitVec.eq_of_getLsbD_eq
  intro bit bit_lt
  rw [getLsbD_word, getLsbD_toUInt8_shiftRight _ _ _ (by decide),
    getLsbD_toUInt8_shiftRight _ _ _ (by decide), getLsbD_toUInt8_shiftRight _ _ _ (by decide),
    UInt32.toBitVec_toUInt8, BitVec.getLsbD_setWidth]
  grind

theorem bytes_word (first second third fourth : UInt8) :
    bytes (word first second third fourth) = [first, second, third, fourth] := by
  simp only [bytes, List.cons.injEq, and_true]
  refine ⟨?_, ?_, ?_, ?_⟩
  all_goals
    apply UInt8.toBitVec_inj.mp
    apply BitVec.eq_of_getLsbD_eq
    intro bit bit_lt
  · rw [UInt32.toBitVec_toUInt8, BitVec.getLsbD_setWidth, getLsbD_word]
    grind
  · rw [getLsbD_toUInt8_shiftRight _ _ _ (by decide), getLsbD_word]
    grind
  · rw [getLsbD_toUInt8_shiftRight _ _ _ (by decide), getLsbD_word]
    grind
  · rw [getLsbD_toUInt8_shiftRight _ _ _ (by decide), getLsbD_word]
    grind

/-- The bytes of a word are its digits in base 256. -/
theorem bytes_eq_digits (value : UInt32) :
    bytes value = (List.range width).map fun place => UInt8.ofNat (value.toNat / 256 ^ place) := by
  have shifted : ∀ count : UInt32, count.toNat < 32 →
      (value >>> count).toUInt8 = UInt8.ofNat (value.toNat / 2 ^ count.toNat) := by
    intro count small
    apply UInt8.toNat_inj.mp
    rw [UInt32.toNat_toUInt8, UInt32.toNat_shiftRight, UInt8.toNat_ofNat',
      Nat.mod_eq_of_lt small, Nat.shiftRight_eq_div_pow]
  have first : value.toUInt8 = UInt8.ofNat (value.toNat / 256 ^ 0) := by
    simp
  have second := shifted 8 (by decide)
  have third := shifted 16 (by decide)
  have fourth := shifted 24 (by decide)
  rw [bytes, first, second, third, fourth]
  rfl

/-- A field at `offset` lies inside a buffer of `size` bytes. -/
def Fits (size : Nat) (offset : Int64) : Prop :=
  0 ≤ offset.toInt ∧ offset.toInt + width ≤ size

instance (size : Nat) (offset : Int64) : Decidable (Fits size offset) :=
  inferInstanceAs (Decidable (_ ∧ _))

/-- The field at an offset covers the byte with an index. -/
def Covers (offset : Int64) (index : Nat) : Prop :=
  offset.toInt ≤ index ∧ (index : Int) < offset.toInt + width

instance (offset : Int64) (index : Nat) : Decidable (Covers offset index) :=
  inferInstanceAs (Decidable (_ ∧ _))

/-- The fields at two offsets share no byte. -/
def Apart (first second : Int64) : Prop :=
  first.toInt + width ≤ second.toInt ∨ second.toInt + width ≤ first.toInt

/-- A field fits at an offset exactly if the buffer falls into parts around it. -/
theorem fits_iff_split (buffer : List UInt8) (offset : Int64) :
    Fits buffer.length offset ↔
      ∃ before field after, buffer = before ++ field ++ after ∧
        offset.toInt = before.length ∧ field.length = width := by
  constructor
  · rintro ⟨nonnegative, inside⟩
    let start := offset.toInt.toNat
    have start_eq : offset.toInt = start := by omega
    refine ⟨buffer.take start, (buffer.drop start).take width, (buffer.drop start).drop width, ?_⟩
    refine ⟨?_, ?_, ?_⟩
    · rw [List.append_assoc, List.take_append_drop, List.take_append_drop]
    · rw [List.length_take]
      omega
    · rw [List.length_take, List.length_drop]
      omega
  · rintro ⟨before, field, after, rfl, start_eq, whole⟩
    simp only [Fits, List.length_append]
    omega

theorem suffix?_eq_some_iff (buffer : List UInt8) (offset : Int64) (rest : List UInt8) :
    suffix? buffer offset = some rest ↔
      ∃ before, buffer = before ++ rest ∧ offset.toInt = before.length := by
  rw [suffix?, Option.ite_none_right_eq_some, Option.some.injEq]
  constructor
  · rintro ⟨⟨nonnegative, inside⟩, rfl⟩
    refine ⟨buffer.take offset.toInt.toNat, (List.take_append_drop _ _).symm, ?_⟩
    rw [List.length_take]
    omega
  · rintro ⟨before, rfl, start_eq⟩
    rw [start_eq, Int.toNat_natCast, List.drop_left, List.length_append]
    exact ⟨by omega, rfl⟩

section Split

variable {before field after : List UInt8} {offset : Int64}
  (start_eq : offset.toInt = before.length)

include start_eq

theorem suffix?_split : suffix? (before ++ field ++ after) offset = some (field ++ after) := by
  rw [suffix?_eq_some_iff]
  exact ⟨before, List.append_assoc .., start_eq⟩

theorem read?_split (value : UInt32) :
    read? (before ++ bytes value ++ after) offset = some value := by
  rw [read?, suffix?_split start_eq]
  exact congrArg some (word_bytes value)

/-- Storing a word in a field replaces the bytes of the field and nothing else. -/
theorem write?_split (whole : field.length = width) (value : UInt32) :
    write? (before ++ field ++ after) offset value = some (before ++ bytes value ++ after) := by
  have lead : (before ++ field ++ after).take offset.toInt.toNat = before := by
    rw [start_eq, Int.toNat_natCast, List.append_assoc, List.take_left]
  rw [write?, suffix?_split start_eq, lead]
  match field, whole with
  | [_, _, _, _], _ => rfl

end Split

theorem read?_eq_some_iff_split (buffer : List UInt8) (offset : Int64) (value : UInt32) :
    read? buffer offset = some value ↔
      ∃ before after, buffer = before ++ bytes value ++ after ∧ offset.toInt = before.length := by
  constructor
  · intro read
    rw [read?] at read
    split at read
    · rename_i first second third fourth after found
      rcases (suffix?_eq_some_iff buffer offset _).mp found with ⟨before, rfl, start_eq⟩
      rw [Option.some.injEq] at read
      refine ⟨before, after, ?_, start_eq⟩
      rw [← read, bytes_word, List.append_assoc]
      rfl
    · cases read
  · rintro ⟨before, after, rfl, start_eq⟩
    exact read?_split start_eq value

theorem split_of_write? {buffer written : List UInt8} {offset : Int64} {value : UInt32}
    (wrote : write? buffer offset value = some written) :
    ∃ before field after, buffer = before ++ field ++ after ∧ offset.toInt = before.length ∧
      field.length = width ∧ written = before ++ bytes value ++ after := by
  have found : ∃ before field after, buffer = before ++ field ++ after ∧
      offset.toInt = before.length ∧ field.length = width := by
    rw [write?] at wrote
    split at wrote
    · rename_i first second third fourth after found
      rcases (suffix?_eq_some_iff buffer offset _).mp found with ⟨before, rfl, start_eq⟩
      exact ⟨before, [first, second, third, fourth], after, by simp, start_eq, rfl⟩
    · cases wrote
  rcases found with ⟨before, field, after, rfl, start_eq, whole⟩
  rw [write?_split start_eq whole, Option.some.injEq] at wrote
  exact ⟨before, field, after, rfl, start_eq, whole, wrote.symm⟩

/-! ### Which accesses fail -/

theorem read?_of_fits {buffer : List UInt8} {offset : Int64} (fits : Fits buffer.length offset) :
    ∃ value, read? buffer offset = some value := by
  rcases (fits_iff_split buffer offset).mp fits with ⟨before, field, after, rfl, start_eq, whole⟩
  match field, whole with
  | [first, second, third, fourth], _ =>
      rw [← bytes_word first second third fourth]
      exact ⟨_, read?_split start_eq _⟩

theorem write?_of_fits {buffer : List UInt8} {offset : Int64} (fits : Fits buffer.length offset)
    (value : UInt32) :
    ∃ written, write? buffer offset value = some written ∧ written.length = buffer.length := by
  rcases (fits_iff_split buffer offset).mp fits with
    ⟨before, field, after, rfl, start_eq, whole⟩
  refine ⟨before ++ bytes value ++ after, write?_split start_eq whole value, ?_⟩
  simp only [List.length_append, length_bytes, whole]

theorem fits_of_read? {buffer : List UInt8} {offset : Int64} {value : UInt32}
    (read : read? buffer offset = some value) : Fits buffer.length offset := by
  rcases (read?_eq_some_iff_split buffer offset value).mp read with ⟨before, after, rfl, start_eq⟩
  rw [fits_iff_split]
  exact ⟨before, bytes value, after, rfl, start_eq, length_bytes value⟩

theorem fits_of_write? {buffer written : List UInt8} {offset : Int64} {value : UInt32}
    (wrote : write? buffer offset value = some written) : Fits buffer.length offset := by
  rcases split_of_write? wrote with ⟨before, field, after, rfl, start_eq, whole, _⟩
  rw [fits_iff_split]
  exact ⟨before, field, after, rfl, start_eq, whole⟩

theorem read?_eq_none_iff (buffer : List UInt8) (offset : Int64) :
    read? buffer offset = none ↔ ¬Fits buffer.length offset := by
  constructor
  · intro failed fits
    rcases read?_of_fits fits with ⟨value, read⟩
    cases failed.symm.trans read
  · intro misfit
    rw [Option.eq_none_iff_forall_ne_some]
    intro value read
    exact misfit (fits_of_read? read)

theorem write?_eq_none_iff (buffer : List UInt8) (offset : Int64) (value : UInt32) :
    write? buffer offset value = none ↔ ¬Fits buffer.length offset := by
  constructor
  · intro failed fits
    rcases write?_of_fits fits value with ⟨written, wrote, _⟩
    cases failed.symm.trans wrote
  · intro misfit
    rw [Option.eq_none_iff_forall_ne_some]
    intro written wrote
    exact misfit (fits_of_write? wrote)

/-! ### What accesses leave alone -/

theorem getElem?_of_read? {buffer : List UInt8} {offset : Int64} {value : UInt32} {index : Nat}
    (read : read? buffer offset = some value) (covered : Covers offset index) :
    buffer[index]? = (bytes value)[index - offset.toInt.toNat]? := by
  rcases (read?_eq_some_iff_split buffer offset value).mp read with ⟨before, after, rfl, start_eq⟩
  rcases covered with ⟨starts, ends⟩
  have size : (before ++ bytes value).length = before.length + width := by
    rw [List.length_append, length_bytes]
  rw [List.getElem?_append_left (by omega), List.getElem?_append_right (by omega), start_eq,
    Int.toNat_natCast]

theorem length_write? {buffer written : List UInt8} {offset : Int64} {value : UInt32}
    (wrote : write? buffer offset value = some written) : written.length = buffer.length := by
  rcases split_of_write? wrote with ⟨before, field, after, rfl, _, whole, rfl⟩
  simp only [List.length_append, length_bytes, whole]

theorem read?_write? {buffer written : List UInt8} {offset : Int64} {value : UInt32}
    (wrote : write? buffer offset value = some written) : read? written offset = some value := by
  rcases split_of_write? wrote with ⟨before, field, after, rfl, start_eq, _, rfl⟩
  exact read?_split start_eq value

/-- Storing a word changes no byte outside its field. -/
theorem getElem?_write? {buffer written : List UInt8} {offset : Int64} {value : UInt32}
    {index : Nat} (wrote : write? buffer offset value = some written)
    (outside : ¬Covers offset index) : written[index]? = buffer[index]? := by
  rcases split_of_write? wrote with ⟨before, field, after, rfl, start_eq, whole, rfl⟩
  rw [Covers, start_eq] at outside
  by_cases ahead : index < before.length
  · rw [List.append_assoc, List.append_assoc, List.getElem?_append_left ahead,
      List.getElem?_append_left ahead]
  · have skipped : ∀ lead : List UInt8, lead.length = before.length + width →
        (lead ++ after)[index]? = after[index - (before.length + width)]? := by
      intro lead size
      rw [List.getElem?_append_right (by omega), size]
    rw [skipped (before ++ field) (by rw [List.length_append, whole]),
      skipped (before ++ bytes value) (by rw [List.length_append, length_bytes])]

theorem bytes_injective {first second : UInt32} (same : bytes first = bytes second) :
    first = second := by
  have words := word_bytes first
  simp only [bytes, List.cons.injEq, and_true] at same
  rw [same.1, same.2.1, same.2.2.1, same.2.2.2, word_bytes] at words
  exact words.symm

/-- What is read depends on the bytes of the field only. -/
theorem read?_congr {first second : List UInt8} {offset : Int64}
    (length_eq : first.length = second.length)
    (same : ∀ index, Covers offset index → first[index]? = second[index]?) :
    read? first offset = read? second offset := by
  by_cases fits : Fits first.length offset
  · have fitsSecond : Fits second.length offset := by
      rwa [← length_eq]
    rcases read?_of_fits fits with ⟨value, read⟩
    rcases read?_of_fits fitsSecond with ⟨other, readSecond⟩
    have bytes_eq : bytes value = bytes other := by
      apply List.ext_getElem?
      intro place
      by_cases inside : place < width
      · have covered : Covers offset (offset.toInt.toNat + place) := by
          have nonnegative := fits.1
          simp only [Covers]
          omega
        have heldFirst := getElem?_of_read? read covered
        have heldSecond := getElem?_of_read? readSecond covered
        rw [Nat.add_sub_cancel_left] at heldFirst heldSecond
        rw [← heldFirst, ← heldSecond]
        exact same _ covered
      · rw [List.getElem?_eq_none (by rw [length_bytes]; omega),
          List.getElem?_eq_none (by rw [length_bytes]; omega)]
    rw [read, readSecond, bytes_injective bytes_eq]
  · have misfitSecond : ¬Fits second.length offset := by
      rwa [← length_eq]
    rw [(read?_eq_none_iff first offset).mpr fits,
      (read?_eq_none_iff second offset).mpr misfitSecond]

/-- Storing a word changes no field that lies apart from it. -/
theorem read?_write?_apart {buffer written : List UInt8} {offset other : Int64} {value : UInt32}
    (wrote : write? buffer offset value = some written)
    (apart : Apart offset other) :
    read? written other = read? buffer other := by
  apply read?_congr (length_write? wrote)
  intro index covered
  apply getElem?_write? wrote
  simp only [Apart, Covers] at apart covered ⊢
  omega

theorem write?_field (before : List UInt8) {field : List UInt8} (after : List UInt8)
    (value : UInt32) (whole : field.length = width)
    (bounded : (before ++ field ++ after).length < 2 ^ 63) :
    write? (before ++ field ++ after) (Int64.ofNat before.length) value =
      some (before ++ bytes value ++ after) := by
  apply write?_split _ whole
  apply Int64.toInt_ofNat_of_lt
  simp only [List.length_append] at bounded
  omega

end Stencil.LittleEndian
