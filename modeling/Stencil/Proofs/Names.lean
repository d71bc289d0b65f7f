import Mathlib.Tactic.IntervalCases
import Stencil.Mnemonic
import Stencil.Register

/-!
# Names of registers and operations

Looking up a name finds a register or an operation exactly if the name, in lower
case, is the text of that register or operation. No two of them share a text.
-/

namespace Stencil

namespace Register

theorem valid_iff_mem_all (register : Register) : register.Valid ↔ register ∈ all := by
  constructor
  · intro valid
    rcases register with ⟨number⟩
    have bound : number.toNat < 8 := by
      simpa [Valid, UInt8.lt_iff_toNat_lt] using valid
    have number_eq : number = UInt8.ofNat number.toNat := by simp
    rw [number_eq]
    interval_cases number.toNat <;> decide
  · intro mem
    revert register
    decide

theorem ofName?_eq_some_iff (name : String) (register : Register) :
    ofName? name = some register ↔
      register.Valid ∧ LowerCase.text name = register.text := by
  constructor
  · intro found
    rcases Option.map_eq_some_iff.mp found with ⟨index, indexed, rfl⟩
    rw [List.idxOf?_eq_some_iff] at indexed
    rcases indexed with ⟨index_lt, name_eq, _⟩
    rw [← name_eq]
    have table : ∀ index (index_lt : index < 8), (⟨UInt8.ofNat index⟩ : Register).Valid ∧
        names[index] = (⟨UInt8.ofNat index⟩ : Register).text := by
      decide
    exact table index index_lt
  · rintro ⟨valid, name_eq⟩
    rw [valid_iff_mem_all] at valid
    have table : ∀ register ∈ all, (names.idxOf? register.text).map
        (fun index => (⟨UInt8.ofNat index⟩ : Register)) = some register := by
      decide
    rw [ofName?, name_eq]
    exact table register valid

end Register

namespace Mnemonic

theorem ofName?_eq_some_iff (name : String) (mnemonic : Mnemonic) :
    ofName? name = some mnemonic ↔ mnemonic ∈ all ∧ LowerCase.text name = mnemonic.text := by
  constructor
  · intro found
    have text_eq : mnemonic.text = LowerCase.text name := by
      simpa using List.find?_some found
    exact ⟨List.mem_of_find?_eq_some found, text_eq.symm⟩
  · rintro ⟨known, name_eq⟩
    have table : ∀ mnemonic ∈ all,
        all.find? (fun other => other.text = mnemonic.text) = some mnemonic := by
      decide
    rw [ofName?, name_eq]
    exact table mnemonic known

/-! The operations of each form. -/

theorem mem_plain_iff (mnemonic : Mnemonic) :
    mnemonic ∈ [ret, nop] ↔ mnemonic ∈ all ∧ mnemonic.form = .plain := by
  cases mnemonic <;> simp [all, form]

theorem mem_destination_iff (mnemonic : Mnemonic) :
    mnemonic ∈ [pop] ↔ mnemonic ∈ all ∧ mnemonic.form = .destination := by
  cases mnemonic <;> simp [all, form]

theorem mem_source_iff (mnemonic : Mnemonic) :
    mnemonic ∈ [push, call, jmp] ↔ mnemonic ∈ all ∧ mnemonic.form = .source := by
  cases mnemonic <;> simp [all, form]

theorem mem_destinationAndSource_iff (mnemonic : Mnemonic) :
    mnemonic ∈ [mov, add, sub, shl, shr] ↔
      mnemonic ∈ all ∧ mnemonic.form = .destinationAndSource := by
  cases mnemonic <;> simp [all, form]

end Mnemonic

end Stencil
