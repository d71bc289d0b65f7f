import Stencil.Proofs.Placement

/-!
# Laws of patching

A template is determined by its frame, that is, its slots and the bytes outside them, and
by what the slots hold. Patching keeps the frame, and slots that share no byte then hold
the values. So storing what the slots hold already changes nothing, and of two patches the
second one wins.
-/

namespace Stencil

namespace Template

/-- No slot covers the byte with the index. -/
def Outside (template : Template) (index : Nat) : Prop :=
  ∀ slot ∈ template.slots, ¬LittleEndian.Covers slot index

/-- The templates have the same slots and the same bytes outside them. -/
structure SameFrame (first second : Template) : Prop where
  slots_eq : first.slots = second.slots
  length_eq : first.code.length = second.code.length
  outside_eq : ∀ index, first.Outside index → first.code[index]? = second.code[index]?

namespace SameFrame

variable {first second third : Template}

theorem symm (frame : SameFrame first second) : SameFrame second first where
  slots_eq := frame.slots_eq.symm
  length_eq := frame.length_eq.symm
  outside_eq := by
    intro index outside
    rw [Outside, ← frame.slots_eq] at outside
    exact (frame.outside_eq index outside).symm

theorem trans (frame : SameFrame first second) (next : SameFrame second third) :
    SameFrame first third where
  slots_eq := frame.slots_eq.trans next.slots_eq
  length_eq := frame.length_eq.trans next.length_eq
  outside_eq := by
    intro index outside
    have outsideSecond : second.Outside index := by
      rw [Outside, ← frame.slots_eq]
      exact outside
    exact (frame.outside_eq index outside).trans (next.outside_eq index outsideSecond)

theorem separated (frame : SameFrame first second) (separated : first.Separated) :
    second.Separated where
  apart := by
    rw [← frame.slots_eq]
    exact separated.apart
  inside := by
    rw [← frame.slots_eq, ← frame.length_eq]
    exact separated.inside

end SameFrame

/-! ### A template is its frame and its values -/

theorem exists_common_word {read other : Int64 → Option UInt32} {slots : List Int64}
    {values : List Int32}
    (held : List.Forall₂ (fun slot (value : Int32) => read slot = some value.toUInt32) slots values)
    (heldAgain : List.Forall₂ (fun slot (value : Int32) => other slot = some value.toUInt32)
      slots values) :
    ∀ slot ∈ slots, ∃ word, read slot = some word ∧ other slot = some word := by
  induction held with
  | nil => simp
  | cons isHeld _ ih =>
      cases heldAgain with
      | cons isHeldAgain rest =>
          rw [List.forall_mem_cons]
          exact ⟨⟨_, isHeld, isHeldAgain⟩, ih rest⟩

theorem eq_of_sameFrame {first second : Template} (frame : SameFrame first second)
    {values : List Int32} (held : first.values? = some values)
    (heldAgain : second.values? = some values) : first = second := by
  rw [values?_eq_some_iff] at held heldAgain
  rw [← frame.slots_eq] at heldAgain
  have code_eq : first.code = second.code := by
    apply List.ext_getElem?
    intro index
    by_cases outside : first.Outside index
    · exact frame.outside_eq index outside
    · -- Both templates hold the same word in the slot that covers the byte.
      simp only [Outside, not_forall, not_not] at outside
      rcases outside with ⟨slot, slotMem, covered⟩
      rcases exists_common_word held heldAgain slot slotMem with ⟨word, read, readAgain⟩
      rw [LittleEndian.getElem?_of_read? read covered,
        LittleEndian.getElem?_of_read? readAgain covered]
  have slots_eq := frame.slots_eq
  cases first
  cases second
  congr

/-! ### Patching keeps the frame -/

theorem getElem?_store {code : List UInt8} {fields : List (Int64 × Int32)} {index : Nat}
    (outside : ∀ field ∈ fields, ¬LittleEndian.Covers field.1 index) :
    (store code fields).code[index]? = code[index]? := by
  induction fields generalizing code with
  | nil => rfl
  | cons field rest ih =>
      rw [List.forall_mem_cons] at outside
      rcases field with ⟨slot, value⟩
      cases wrote : LittleEndian.write? code slot value.toUInt32 with
      | none => simp [store, wrote]
      | some written =>
          rw [store, wrote]
          exact (ih outside.2).trans (LittleEndian.getElem?_write? wrote outside.1)

theorem sameFrame_applyInPlace (template : Template) (values : List Int32) :
    SameFrame template (template.applyInPlace values).1 where
  slots_eq := (slots_applyInPlace template values).symm
  length_eq := (length_applyInPlace template values).symm
  outside_eq := by
    intro index outside
    rw [applyInPlace]
    split
    · symm
      apply getElem?_store
      intro field fieldMem
      exact outside field.1 (List.of_mem_zip fieldMem).1
    · rfl

/-- What patching separated slots gives. -/
theorem exists_patched {template : Template} (separated : template.Separated)
    {values : List Int32} (counted : values.length = template.slots.length) :
    ∃ patched, template.applyInPlace values = (patched, none) ∧
      template.apply values = .ok patched ∧ template.SameFrame patched ∧
      patched.values? = some values := by
  have untroubled := applyInPlace_of_separated separated values
  rw [if_pos counted] at untroubled
  have overwritten : template.applyInPlace values = ((template.applyInPlace values).1, none) :=
    Prod.ext rfl untroubled
  have applied : template.apply values = .ok (template.applyInPlace values).1 := by
    rw [apply, overwritten]
  exact ⟨_, overwritten, applied, sameFrame_applyInPlace template values,
    values?_of_apply separated applied⟩

theorem apply_values {template : Template} (separated : template.Separated) :
    ∃ held, template.values? = some held ∧ template.apply held = .ok template := by
  rcases values?_of_separated separated with ⟨held, read⟩
  have counted : held.length = template.slots.length :=
    ((values?_eq_some_iff template held).mp read).length_eq.symm
  rcases exists_patched separated counted with ⟨patched, _, applied, frame, heldAfter⟩
  refine ⟨held, read, ?_⟩
  rw [applied, eq_of_sameFrame frame read heldAfter]

theorem apply_apply {template patched : Template} {values others : List Int32}
    (separated : template.Separated) (applied : template.apply values = .ok patched)
    (counted : others.length = template.slots.length) :
    ∃ again, template.apply others = .ok again ∧ patched.apply others = .ok again := by
  have frame : template.SameFrame patched := by
    rw [apply_eq_ok applied]
    exact sameFrame_applyInPlace template values
  have countedAgain : others.length = patched.slots.length := by
    rw [← frame.slots_eq]
    exact counted
  rcases exists_patched separated counted with ⟨direct, _, directly, directFrame, directHeld⟩
  rcases exists_patched (frame.separated separated) countedAgain with
    ⟨later, _, afterwards, laterFrame, laterHeld⟩
  have same : direct = later :=
    eq_of_sameFrame (directFrame.symm.trans (frame.trans laterFrame)) directHeld laterHeld
  refine ⟨direct, directly, ?_⟩
  rw [same]
  exact afterwards

end Template

/--
Patching is a lawful way to set the slots of a template, provided that they share no byte
and lie inside the code, as they do in linked code unless a slot wraps around. Reading the
slots gives back what was stored, storing what is read changes nothing, and of two patches
the second one wins. The size of the code, the slots and every byte outside them stay.
Patching a copy, in place and for the code alone give the same. With a wrong number of
values all three fail for that reason, and nothing is changed.
-/
theorem patching_is_lawful (template : Template) :
    (∀ encodings, Template.link encodings = .ok template → template.Addressable →
      (∀ encoding ∈ encodings, ∀ slot, encoding.slot = some slot → slot.toInt + 4 < 2 ^ 63) →
      template.Separated) ∧
    (template.Separated →
      (∃ held, template.values? = some held ∧ template.apply held = .ok template) ∧
      ∀ values others, values.length = template.slots.length →
        others.length = template.slots.length →
        ∃ patched, template.apply values = .ok patched ∧
          patched.values? = some values ∧
          (∃ again, template.apply others = .ok again ∧ patched.apply others = .ok again) ∧
          patched.code.length = template.code.length ∧ patched.slots = template.slots ∧
          (∀ index, (∀ slot ∈ template.slots, ¬LittleEndian.Covers slot index) →
            patched.code[index]? = template.code[index]?) ∧
          template.applyInPlace values = (patched, none) ∧
          template.patch values = .ok patched.code) ∧
    (∀ values, values.length ≠ template.slots.length →
      let refusal := PatchError.countMismatch values.length template.slots.length
      template.apply values = .error refusal ∧
        template.applyInPlace values = (template, some refusal) ∧
        template.patch values = .error refusal) := by
  refine ⟨?_, ?_, ?_⟩
  · intro encodings linked addressable unwrapped
    exact (Template.placed_of_linked linked addressable unwrapped).separated
  · intro separated
    refine ⟨Template.apply_values separated, ?_⟩
    intro values others counted countedOthers
    rcases Template.exists_patched separated counted with
      ⟨patched, overwritten, applied, frame, held⟩
    refine ⟨patched, applied, held, Template.apply_apply separated applied countedOthers,
      frame.length_eq.symm, frame.slots_eq.symm, ?_, overwritten, ?_⟩
    · intro index outside
      exact (frame.outside_eq index outside).symm
    · rw [Template.patch, applied]
      rfl
  · intro values different refusal
    have refused := template.apply_of_length_ne different
    refine ⟨refused, ?_, ?_⟩
    · rw [Template.applyInPlace, if_neg different]
    · rw [Template.patch, refused]
      rfl

/-- Three slots fill the code without a gap and take extreme values. -/
theorem patching_is_lawful_adjacent_slots :
    let encodings : List Encoding :=
      [{ bytes := [1, 0, 0, 0], slot := some 0 }, { bytes := [2, 0, 0, 0], slot := some 0 },
        { bytes := [255, 255, 255, 255], slot := some 0 }]
    let template : Template :=
      { code := [1, 0, 0, 0, 2, 0, 0, 0, 255, 255, 255, 255], slots := [0, 4, 8] }
    let patched : Template :=
      { code := [255, 255, 255, 127, 0, 0, 0, 128, 5, 0, 0, 0], slots := [0, 4, 8] }
    let values : List Int32 := [2147483647, -2147483648, 5]
    Template.link encodings = .ok template ∧ template.Separated ∧
      template.applyInPlace values = (patched, none) ∧ patched.values? = some values ∧
      (∃ held, template.values? = some held ∧ template.apply held = .ok template) ∧
      (∃ again, template.apply [0, 0, 0] = .ok again ∧ patched.apply [0, 0, 0] = .ok again) ∧
      template.patch [5] = .error (.countMismatch 1 3) := by
  intro encodings template patched values
  have linked : Template.link encodings = .ok template := rfl
  have separated : template.Separated := by
    apply (patching_is_lawful template).1 encodings linked
    · simp [Template.Addressable, template]
    · simp [encodings]
  rcases (patching_is_lawful template).2.1 separated with ⟨restores, stores⟩
  rcases stores values [0, 0, 0] rfl rfl with
    ⟨_, applied, held, replaced, _, _, _, overwritten, _⟩
  rcases applied.symm.trans (show template.apply values = .ok patched from rfl) with ⟨⟩
  exact ⟨linked, separated, overwritten, held, restores, replaced,
    ((patching_is_lawful template).2.2 [5] (by decide)).2.2⟩

end Stencil
