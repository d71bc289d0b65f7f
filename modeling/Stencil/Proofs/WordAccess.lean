import Stencil.Proofs.LittleEndian
import Stencil.Template

/-!
# Access to words

A word can be read and written at an offset exactly if its four bytes lie in the buffer.
Taking the part of the buffer from the offset on is not enough for this: up to three bytes
may be left there, or none. An access that fails leaves the buffer as it was, and the
others obey the laws of a memory: what was written is read, writing what was read changes
nothing, and writes to different places do not see each other.
-/

namespace Stencil

namespace LittleEndian

variable {buffer written : List UInt8} {offset : Int64} {value : UInt32}

theorem take_drop_of_write? (wrote : write? buffer offset value = some written) :
    (written.drop offset.toInt.toNat).take width = bytes value := by
  rcases split_of_write? wrote with ⟨before, field, after, rfl, start_eq, _, rfl⟩
  rw [start_eq, Int.toNat_natCast, List.append_assoc, List.drop_left, ← length_bytes value,
    List.take_left]

theorem write?_of_read? (read : read? buffer offset = some value) :
    write? buffer offset value = some buffer := by
  rcases (read?_eq_some_iff_split buffer offset value).mp read with ⟨before, after, rfl, start_eq⟩
  exact write?_split start_eq (length_bytes value) value

theorem getElem?_write?_covered {index : Nat} (wrote : write? buffer offset value = some written)
    (covered : Covers offset index) :
    written[index]? = (bytes value)[index - offset.toInt.toNat]? :=
  getElem?_of_read? (read?_write? wrote) covered

theorem not_covers_of_apart {other : Int64} {index : Nat} (apart : Apart offset other)
    (covered : Covers offset index) : ¬Covers other index := by
  unfold Apart at apart
  unfold Covers at covered ⊢
  omega

/-- Words that share no byte can be written in either order. -/
theorem write?_comm {other : Int64} {word : UInt32} {after both again : List UInt8}
    (apart : Apart offset other) (wrote : write? buffer offset value = some written)
    (wroteBoth : write? written other word = some both)
    (wroteOther : write? buffer other word = some after)
    (wroteAgain : write? after offset value = some again) : both = again := by
  apply List.ext_getElem?
  intro index
  by_cases covered : Covers offset index
  · have outside := not_covers_of_apart apart covered
    rw [getElem?_write? wroteBoth outside, getElem?_write?_covered wrote covered,
      getElem?_write?_covered wroteAgain covered]
  · rw [getElem?_write? wroteAgain covered]
    by_cases coveredByOther : Covers other index
    · rw [getElem?_write?_covered wroteBoth coveredByOther,
        getElem?_write?_covered wroteOther coveredByOther]
    · rw [getElem?_write? wroteBoth coveredByOther, getElem?_write? wrote covered,
        getElem?_write? wroteOther coveredByOther]

theorem exists_both_written {other : Int64} (apart : Apart offset other)
    (wrote : write? buffer offset value = some written) (fits : Fits buffer.length other)
    (word : UInt32) :
    ∃ after both, write? buffer other word = some after ∧ write? written other word = some both ∧
      write? after offset value = some both := by
  have fitsWritten : Fits written.length other := by
    rwa [length_write? wrote]
  rcases write?_of_fits fits word with ⟨after, wroteOther, length_eq⟩
  rcases write?_of_fits fitsWritten word with ⟨both, wroteBoth, _⟩
  have fitsAfter : Fits after.length offset := by
    rw [length_eq]
    exact fits_of_write? wrote
  rcases write?_of_fits fitsAfter value with ⟨again, wroteAgain, _⟩
  refine ⟨after, both, wroteOther, wroteBoth, ?_⟩
  rw [write?_comm apart wrote wroteBoth wroteOther wroteAgain]
  exact wroteAgain

end LittleEndian

namespace Template

theorem store_of_write? {buffer written : List UInt8} {slot : Int64} {value : Int32}
    (wrote : LittleEndian.write? buffer slot value.toUInt32 = some written)
    (fields : List (Int64 × Int32)) :
    store buffer ((slot, value) :: fields) = store written fields := by
  rw [store, wrote]

theorem store_of_not_fits {buffer : List UInt8} {slot : Int64}
    (misfit : ¬LittleEndian.Fits buffer.length slot) (value : Int32)
    (fields : List (Int64 × Int32)) :
    store buffer ((slot, value) :: fields) = { code := buffer, complete := false } := by
  have failed := (LittleEndian.write?_eq_none_iff buffer slot value.toUInt32).mpr misfit
  rw [store, failed]

end Template

open LittleEndian in
/--
Reading and writing a word fail exactly if the offset is negative or less than four bytes follow
it, and nothing is stored then. Otherwise the word that was written is read, and writing the word
that is held changes nothing. The four bytes hold the digits of the word in base 256, the lowest
one first, no other byte and not the length change, and two writes that are four or more bytes
apart can change places.
-/
theorem word_access_is_exact (buffer : List UInt8) (offset : Int64) (value : UInt32) :
    let inside := fun place : Int64 =>
      0 ≤ place.toInt ∧ place.toInt ≤ (buffer.length : Int) - 4
    (read? buffer offset = none ↔ ¬inside offset) ∧
    (write? buffer offset value = none ↔ ¬inside offset) ∧
    (¬inside offset → ∀ fields, Template.store buffer ((offset, value.toInt32) :: fields) =
      { code := buffer, complete := false }) ∧
    (inside offset → ∃ held written,
      read? buffer offset = some held ∧ write? buffer offset value = some written ∧
      (∀ fields, Template.store buffer ((offset, value.toInt32) :: fields) =
        Template.store written fields) ∧
      read? written offset = some value ∧ write? buffer offset held = some buffer ∧
      (written.drop offset.toInt.toNat).take 4 = bytes value ∧
      bytes value = (List.range 4).map (fun place => UInt8.ofNat (value.toNat / 256 ^ place)) ∧
      (∀ index : Nat, (index : Int) < offset.toInt ∨ offset.toInt + 4 ≤ index →
        written[index]? = buffer[index]?) ∧
      written.length = buffer.length ∧
      ∀ other word, inside other →
        offset.toInt + 4 ≤ other.toInt ∨ other.toInt + 4 ≤ offset.toInt →
        ∃ after both, write? buffer other word = some after ∧
          write? written other word = some both ∧ write? after offset value = some both) := by
  intro inside
  have inside_iff : ∀ place, inside place ↔ Fits buffer.length place := by
    intro place
    simp only [inside, Fits, width]
    omega
  have same : value.toInt32.toUInt32 = value := by simp
  simp only [inside_iff]
  refine ⟨read?_eq_none_iff buffer offset, write?_eq_none_iff buffer offset value, ?_, ?_⟩
  · intro misfit fields
    exact Template.store_of_not_fits misfit _ fields
  · intro fits
    rcases read?_of_fits fits with ⟨held, read⟩
    rcases write?_of_fits fits value with ⟨written, wrote, length_eq⟩
    refine ⟨held, written, read, wrote, ?_, read?_write? wrote, write?_of_read? read,
      take_drop_of_write? wrote, bytes_eq_digits value, ?_, length_eq, ?_⟩
    · intro fields
      apply Template.store_of_write?
      rw [same]
      exact wrote
    · intro index outside
      apply getElem?_write? wrote
      simp only [Covers, width]
      omega
    · intro other word fitsOther apart
      exact exists_both_written apart wrote fitsOther word

/-- The last field of nine bytes can be written; one byte further on, three bytes are left. -/
theorem word_access_is_exact_last_field :
    let buffer : List UInt8 := [0x90, 0x68, 1, 0, 0, 0, 0xFF, 0xFF, 0xFF]
    let written : List UInt8 := [0x90, 0x68, 1, 0, 0, 0x03, 0x00, 0xFE, 0x80]
    LittleEndian.write? buffer 5 0x80FE0003 = some written ∧
      LittleEndian.read? written 5 = some 0x80FE0003 ∧
      LittleEndian.write? buffer 5 0xFFFFFF00 = some buffer ∧
      (∃ after both, LittleEndian.write? buffer 1 7 = some after ∧
        LittleEndian.write? written 1 7 = some both ∧
        LittleEndian.write? after 5 0x80FE0003 = some both) ∧
      LittleEndian.suffix? buffer 6 = some [0xFF, 0xFF, 0xFF] ∧
      LittleEndian.read? buffer 6 = none ∧
      Template.store buffer [(6, 1), (0, 1)] = { code := buffer, complete := false } := by
  intro buffer written
  rcases word_access_is_exact buffer 5 0x80FE0003 with ⟨_, _, _, succeeds⟩
  rcases word_access_is_exact buffer 6 1 with ⟨readFails, _, storeFails, _⟩
  rcases succeeds (by decide) with
    ⟨held, _, read, wrote, _, readBack, restored, _, _, _, _, swaps⟩
  have held_eq : held = 0xFFFFFF00 := by
    have known : LittleEndian.read? buffer 5 = some 0xFFFFFF00 := by decide
    exact Option.some.inj (read.symm.trans known)
  have written_eq : LittleEndian.write? buffer 5 0x80FE0003 = some written := by decide
  rcases wrote.symm.trans written_eq with ⟨⟩
  rw [held_eq] at restored
  exact ⟨wrote, readBack, restored, swaps 1 7 (by decide) (by decide), by decide,
    readFails.mpr (by decide), storeFails (by decide) [(0, 1)]⟩

end Stencil
