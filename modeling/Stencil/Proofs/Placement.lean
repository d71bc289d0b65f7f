import Stencil.Proofs.Linking
import Stencil.Proofs.LittleEndian

/-!
# Placed slots

The slots of a template are placed if they come in order, leave each other room for a
word and lie inside the code. Linking places slots that lie inside their own encodings,
which the encoder guarantees and the linker checks. Overwriting keeps the size of the
code and the slots, and so their placement; no access to placed slots leaves the code.
For what the slots hold their order does not matter: slots that lie inside the code and
share no byte hold what was stored in them.
-/

namespace Stencil.Template

/-- The slots come in order, a word or more apart, and lie inside the code. -/
structure Placed (template : Template) : Prop where
  apart : template.slots.Pairwise fun (first second : Int64) =>
    first.toInt + LittleEndian.width ≤ second.toInt
  inside : ∀ slot ∈ template.slots, LittleEndian.Fits template.code.length slot

/-- The slots share no byte and lie inside the code, in whatever order they come. -/
structure Separated (template : Template) : Prop where
  apart : template.slots.Pairwise LittleEndian.Apart
  inside : ∀ slot ∈ template.slots, LittleEndian.Fits template.code.length slot

/-- No access to the slots leaves the code. -/
structure Accessible (template : Template) : Prop where
  values : ∃ values, template.values? = some values
  apply : ∀ values, template.apply values ≠ .error .slotOutside
  applyInPlace : ∀ values, (template.applyInPlace values).2 ≠ some .slotOutside
  patch : ∀ values, template.patch values ≠ .error .slotOutside

theorem Placed.separated {template : Template} (placed : template.Placed) :
    template.Separated where
  apart := placed.apart.imp fun before => .inl before
  inside := placed.inside

/-! ### Templates that are made -/

theorem placed_empty : Placed {} where
  apart := .nil
  inside := by simp

theorem placed_of_seated {encodings : List Encoding} (seated : Seated encodings)
    (bounded : (codeOf encodings).length < 2 ^ 63) :
    Placed { code := codeOf encodings, slots := slotsFrom 0 encodings } where
  apart := slotsFrom_apart seated 0 (by omega)
  inside := by
    intro slot slotMem
    have bounds := bounds_of_mem_slotsFrom seated 0 (by omega) slot slotMem
    constructor
    · exact bounds.1
    · simpa using bounds.2

theorem placed_of_assembled {program : List Instruction} {template : Template}
    (assembled : assembleProgram program = .ok template) (addressable : template.Addressable) :
    template.Placed := by
  rcases (assembleProgram_eq_ok_iff program template).mp assembled with ⟨encodings, encodes, rfl⟩
  exact placed_of_seated (seated_of_encodes encodes) addressable

theorem placed_of_assemble {source : List UInt8} {template : Template}
    (assembled : assemble source = .ok template) (addressable : template.Addressable) :
    template.Placed := by
  rcases (assemble_eq_ok_iff source template).mp assembled with ⟨program, _, linked⟩
  exact placed_of_assembled linked addressable

theorem placed_of_linked {encodings : List Encoding} {template : Template}
    (linked : link encodings = .ok template) (addressable : template.Addressable)
    (unwrapped : ∀ encoding ∈ encodings, ∀ slot, encoding.slot = some slot →
      slot.toInt + 4 < 2 ^ 63) : template.Placed := by
  rcases (link_eq_ok_iff encodings template).mp linked with ⟨accepted, rfl⟩
  apply placed_of_seated _ addressable
  intro encoding encodingMem slot slotted
  rw [← acceptsSlot_iff_fits (length_bytes_lt addressable encodingMem)
    (unwrapped encoding encodingMem slot slotted)]
  exact accepted encoding encodingMem slot slotted

/-! ### Overwriting -/

theorem length_store (code : List UInt8) (fields : List (Int64 × Int32)) :
    (store code fields).code.length = code.length := by
  induction fields generalizing code with
  | nil => rfl
  | cons field rest ih =>
      rcases field with ⟨slot, value⟩
      cases wrote : LittleEndian.write? code slot value.toUInt32 with
      | none => simp [store, wrote]
      | some written =>
          rw [store, wrote]
          exact (ih written).trans (LittleEndian.length_write? wrote)

theorem complete_store {code : List UInt8} {fields : List (Int64 × Int32)}
    (inside : ∀ field ∈ fields, LittleEndian.Fits code.length field.1) :
    (store code fields).complete = true := by
  induction fields generalizing code with
  | nil => rfl
  | cons field rest ih =>
      rw [List.forall_mem_cons] at inside
      rcases field with ⟨slot, value⟩
      rcases LittleEndian.write?_of_fits inside.1 value.toUInt32 with ⟨written, wrote, length_eq⟩
      rw [store, wrote]
      apply ih
      intro field fieldMem
      rw [length_eq]
      exact inside.2 field fieldMem

theorem slots_applyInPlace (template : Template) (values : List Int32) :
    (template.applyInPlace values).1.slots = template.slots := by
  rw [applyInPlace]
  split <;> rfl

theorem length_applyInPlace (template : Template) (values : List Int32) :
    (template.applyInPlace values).1.code.length = template.code.length := by
  rw [applyInPlace]
  split
  · exact length_store _ _
  · rfl

theorem placed_applyInPlace {template : Template} (placed : template.Placed)
    (values : List Int32) : (template.applyInPlace values).1.Placed where
  apart := by
    rw [slots_applyInPlace]
    exact placed.apart
  inside := by
    rw [slots_applyInPlace, length_applyInPlace]
    exact placed.inside

theorem apply_eq_ok {template patched : Template} {values : List Int32}
    (applied : template.apply values = .ok patched) :
    patched = (template.applyInPlace values).1 := by
  rw [apply] at applied
  split at applied
  · rename_i overwritten
    rw [overwritten]
    simpa using applied.symm
  · simp at applied

theorem apply_of_length_ne (template : Template) {values : List Int32}
    (different : values.length ≠ template.slots.length) :
    template.apply values = .error (.countMismatch values.length template.slots.length) := by
  simp [apply, applyInPlace, different]

theorem apply_of_length_eq (template : Template) {values : List Int32}
    (same : values.length = template.slots.length) :
    template.apply values = .error .slotOutside ∨
      ∃ patched, template.apply values = .ok patched := by
  cases complete : (store template.code (template.slots.zip values)).complete with
  | true => exact .inr (by simp [apply, applyInPlace, same, complete])
  | false => exact .inl (by simp [apply, applyInPlace, same, complete])

theorem length_of_apply {template patched : Template} {values : List Int32}
    (applied : template.apply values = .ok patched) :
    values.length = template.slots.length := by
  by_contra different
  rw [apply_of_length_ne template different] at applied
  cases applied

/-! ### Access to separated slots -/

/-- Overwriting separated slots fails only if there are too many or too few values. -/
theorem applyInPlace_of_separated {template : Template} (separated : template.Separated)
    (values : List Int32) :
    (template.applyInPlace values).2 =
      if values.length = template.slots.length then none
      else some (.countMismatch values.length template.slots.length) := by
  rw [applyInPlace]
  split
  · have complete : (store template.code (template.slots.zip values)).complete = true := by
      apply complete_store
      intro field fieldMem
      exact separated.inside field.1 (List.of_mem_zip fieldMem).1
    simp [complete]
  · rfl

/-- The values of a template are what its slots hold, in order. -/
theorem values?_eq_some_iff (template : Template) (values : List Int32) :
    template.values? = some values ↔
      List.Forall₂ (fun slot (value : Int32) =>
        LittleEndian.read? template.code slot = some value.toUInt32) template.slots values := by
  rw [values?]
  induction template.slots generalizing values with
  | nil => simp [eq_comm]
  | cons slot rest ih =>
      cases read : LittleEndian.read? template.code slot with
      | none => simp [List.mapM_cons, read, List.forall₂_cons_left_iff]
      | some word =>
          simp only [List.mapM_cons, read, List.forall₂_cons_left_iff, ← ih, Option.map_some,
            Option.bind_eq_bind, Option.bind_some, Option.bind_eq_some_iff, Option.pure_def,
            Option.some.injEq]
          constructor
          · rintro ⟨later, restRead, rfl⟩
            exact ⟨word.toInt32, later, by simp, restRead, rfl⟩
          · rintro ⟨value, later, rfl, restRead, rfl⟩
            exact ⟨later, restRead, by simp⟩

theorem fits_of_values? {template : Template} {values : List Int32}
    (held : template.values? = some values) :
    ∀ slot ∈ template.slots, LittleEndian.Fits template.code.length slot := by
  rw [values?_eq_some_iff] at held
  generalize template.slots = slots at held
  induction held with
  | nil => simp
  | cons read _ ih =>
      rw [List.forall_mem_cons]
      exact ⟨LittleEndian.fits_of_read? read, ih⟩

theorem values?_of_separated {template : Template} (separated : template.Separated) :
    ∃ values, template.values? = some values := by
  simp only [values?_eq_some_iff]
  have readable := separated.inside
  revert readable
  induction template.slots with
  | nil => exact fun _ => ⟨[], .nil⟩
  | cons slot rest ih =>
      intro readable
      rw [List.forall_mem_cons] at readable
      rcases LittleEndian.read?_of_fits readable.1 with ⟨word, read⟩
      rcases ih readable.2 with ⟨values, restRead⟩
      exact ⟨word.toInt32 :: values, .cons (by rw [read, UInt32.toUInt32_toInt32]) restRead⟩

theorem read?_store_apart {code : List UInt8} {fields : List (Int64 × Int32)} {slot : Int64}
    (apart : ∀ field ∈ fields, LittleEndian.Apart field.1 slot) :
    LittleEndian.read? (store code fields).code slot = LittleEndian.read? code slot := by
  induction fields generalizing code with
  | nil => rfl
  | cons field rest ih =>
      rw [List.forall_mem_cons] at apart
      rcases field with ⟨other, value⟩
      cases wrote : LittleEndian.write? code other value.toUInt32 with
      | none => simp [store, wrote]
      | some written =>
          rw [store, wrote]
          exact (ih apart.2).trans (LittleEndian.read?_write?_apart wrote apart.1)

/-- Slots that lie apart hold the values that were stored in them. -/
theorem read?_store {code : List UInt8} {slots : List Int64} {values : List Int32}
    (apart : slots.Pairwise LittleEndian.Apart)
    (inside : ∀ slot ∈ slots, LittleEndian.Fits code.length slot)
    (sameLength : values.length = slots.length) :
    List.Forall₂ (fun slot (value : Int32) =>
      LittleEndian.read? (store code (slots.zip values)).code slot = some value.toUInt32)
      slots values := by
  induction slots generalizing code values with
  | nil =>
      rw [List.length_nil, List.length_eq_zero_iff] at sameLength
      rw [sameLength]
      exact .nil
  | cons slot slots ih =>
      rcases values with _ | ⟨value, values⟩
      · simp at sameLength
      · rw [List.pairwise_cons] at apart
        rw [List.forall_mem_cons] at inside
        rcases LittleEndian.write?_of_fits inside.1 value.toUInt32 with ⟨written, wrote, length_eq⟩
        rw [List.zip_cons_cons, store, wrote]
        have later : ∀ field ∈ slots.zip values, LittleEndian.Apart field.1 slot := by
          intro field fieldMem
          exact (apart.1 field.1 (List.of_mem_zip fieldMem).1).symm
        refine .cons ?_ (ih apart.2 ?_ (by simpa using sameLength))
        · exact (read?_store_apart later).trans (LittleEndian.read?_write? wrote)
        · rw [length_eq]
          exact inside.2

/-- The slots of a patched template hold the values. -/
theorem values?_of_apply {template patched : Template} {values : List Int32}
    (separated : template.Separated) (applied : template.apply values = .ok patched) :
    patched.values? = some values := by
  have sameLength := length_of_apply applied
  have code_eq : (template.applyInPlace values).1.code =
      (store template.code (template.slots.zip values)).code := by
    rw [applyInPlace, if_pos sameLength]
  rw [values?_eq_some_iff, apply_eq_ok applied, slots_applyInPlace, code_eq]
  exact read?_store separated.apart separated.inside sameLength

theorem accessible_of_placed {template : Template} (placed : template.Placed) :
    template.Accessible := by
  have inPlace : ∀ values, (template.applyInPlace values).2 ≠ some .slotOutside := by
    intro values
    rw [applyInPlace_of_separated placed.separated]
    split <;> simp
  have copied : ∀ values, template.apply values ≠ .error .slotOutside := by
    intro values failed
    rw [apply] at failed
    split at failed
    · simp at failed
    · rename_i error overwritten
      apply inPlace values
      rw [overwritten]
      simpa using failed
  refine ⟨values?_of_separated placed.separated, copied, inPlace, ?_⟩
  intro values failed
  rw [patch, Outcome.map_eq_error_iff] at failed
  exact copied values failed

end Stencil.Template
