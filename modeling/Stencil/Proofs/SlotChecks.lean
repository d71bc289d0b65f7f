import Stencil.Proofs.Composition
import Stencil.Proofs.LittleEndian

/-!
# Which slots the linker refuses

A slot of an encoding fits if its four bytes lie inside the bytes of the encoding. The
linker is meant to refuse a list of encodings exactly if some slot does not fit, and to
report the first one. It computes the end of a slot in 64 bits, and the end of a slot
next to the largest offset is negative there: such a slot does not fit and still passes.
`linksExactly_iff_first_misfit_ends` says when the linker does what it is meant to do.
-/

namespace Stencil

namespace LittleEndian

/-- A field of a part of the buffer is a field of the buffer. -/
theorem read?_of_part {part before after : List UInt8} {offset absolute : Int64} {value : UInt32}
    (read : read? part offset = some value)
    (absolute_eq : absolute.toInt = before.length + offset.toInt) :
    read? (before ++ part ++ after) absolute = some value := by
  rw [read?_eq_some_iff_split] at read ⊢
  rcases read with ⟨lead, tail, rfl, offset_eq⟩
  refine ⟨before ++ lead, tail ++ after, by simp, ?_⟩
  rw [absolute_eq, offset_eq, List.length_append, Int.natCast_add]

end LittleEndian

namespace Template

/-- The slot of the encoding, if it has one, passes a check that also sees the number of bytes. -/
def SlotPasses (check : Nat → Int64 → Prop) (encoding : Encoding) : Prop :=
  ∀ slot, encoding.slot = some slot → check encoding.bytes.length slot

/-- The report is about the first encoding whose slot does not pass. -/
def FirstRefused (check : Nat → Int64 → Prop) (encodings : List Encoding)
    (misplaced : MisplacedSlot) : Prop :=
  ∃ before encoding after, encodings = before ++ encoding :: after ∧
    (∀ earlier ∈ before, SlotPasses check earlier) ∧
    encoding.slot = some misplaced.slot ∧ ¬check encoding.bytes.length misplaced.slot ∧
    misplaced.index = before.length ∧ misplaced.size = encoding.bytes.length

/-- The template consists of the encodings, with their slots in order. -/
structure Joins (encodings : List Encoding) (template : Template) : Prop where
  code_eq : template.code = encodings.flatMap Encoding.bytes
  count_eq : template.slots.length = encodings.countP (·.slot.isSome)
  slot_eq : ∀ before encoding after slot, encodings = before ++ encoding :: after →
    encoding.slot = some slot →
    ∃ (absolute : Int64) (word : UInt32),
      template.slots[before.countP (·.slot.isSome)]? = some absolute ∧
      absolute.toInt = (before.flatMap Encoding.bytes).length + slot.toInt ∧
      LittleEndian.read? encoding.bytes slot = some word ∧
      LittleEndian.read? template.code absolute = some word

/--
The linker refuses exactly the lists with a slot that does not fit, naming the first one by
its number, and joins the others.
-/
def LinksExactly (encodings : List Encoding) : Prop :=
  (∀ misplaced, link encodings = .error misplaced ↔
    FirstRefused LittleEndian.Fits encodings misplaced) ∧
  (∀ misplaced, link encodings = .error misplaced → misplaced.message =
    "assembler: instruction " ++ toString misplaced.index ++ " has slot " ++
      toString misplaced.slot.toInt ++ " outside its " ++ toString misplaced.size ++ " bytes") ∧
  (Seated encodings → ∃ template, link encodings = .ok template ∧ Joins encodings template)

/-! ### The first slot that a check refuses -/

section FirstRefused

variable {check : Nat → Int64 → Prop}

theorem firstRefused_cons_iff (first : Encoding) (rest : List Encoding)
    (misplaced : MisplacedSlot) :
    FirstRefused check (first :: rest) misplaced ↔
      (∃ slot, first.slot = some slot ∧ ¬check first.bytes.length slot ∧
        misplaced = { index := 0, slot, size := first.bytes.length }) ∨
      (SlotPasses check first ∧ ∃ later, FirstRefused check rest later ∧
        misplaced = { later with index := later.index + 1 }) := by
  rcases misplaced with ⟨index, slot, size⟩
  constructor
  · rintro ⟨before, encoding, after, split, passed, slotted, refused, rfl, rfl⟩
    cases before with
    | nil =>
        rw [List.nil_append, List.cons.injEq] at split
        rcases split with ⟨rfl, rfl⟩
        exact .inl ⟨slot, slotted, refused, rfl⟩
    | cons earlier before =>
        rw [List.cons_append, List.cons.injEq] at split
        rcases split with ⟨rfl, rfl⟩
        rw [List.forall_mem_cons] at passed
        right
        refine ⟨passed.1, ⟨before.length, slot, encoding.bytes.length⟩, ?_, rfl⟩
        exact ⟨before, encoding, after, rfl, passed.2, slotted, refused, rfl, rfl⟩
  · rintro (⟨_, slotted, refused, ⟨⟩⟩ | ⟨passes, later, isFirst, ⟨⟩⟩)
    · exact ⟨[], first, rest, rfl, by simp, slotted, refused, rfl, rfl⟩
    · rcases isFirst with
        ⟨before, encoding, after, rfl, passed, slotted, refused, index_eq, size_eq⟩
      refine ⟨first :: before, encoding, after, rfl, ?_, slotted, refused, ?_, size_eq⟩
      · rw [List.forall_mem_cons]
        exact ⟨passes, passed⟩
      · rw [List.length_cons, ← index_eq]

theorem exists_firstRefused {encodings : List Encoding} {encoding : Encoding}
    (mem : encoding ∈ encodings) (refused : ¬SlotPasses check encoding) :
    ∃ misplaced, FirstRefused check encodings misplaced := by
  induction encodings with
  | nil => simp at mem
  | cons first rest ih =>
      simp only [firstRefused_cons_iff]
      by_cases passes : SlotPasses check first
      · have later : encoding ∈ rest := by
          rcases List.mem_cons.mp mem with rfl | later
          · exact absurd passes refused
          · exact later
        rcases ih later with ⟨misplaced, isFirst⟩
        exact ⟨_, .inr ⟨passes, misplaced, isFirst, rfl⟩⟩
      · simp only [SlotPasses, not_forall] at passes
        rcases passes with ⟨slot, slotted, astray⟩
        exact ⟨_, .inl ⟨slot, slotted, astray, rfl⟩⟩

theorem FirstRefused.append {encodings : List Encoding} {misplaced : MisplacedSlot}
    (isFirst : FirstRefused check encodings misplaced) (later : List Encoding) :
    FirstRefused check (encodings ++ later) misplaced := by
  rcases isFirst with ⟨before, encoding, after, rfl, located⟩
  exact ⟨before, encoding, after ++ later, by simp, located⟩

end FirstRefused

/-! ### The check of the linker -/

/-- The check of the linker as a condition. -/
def Accepts (size : Nat) (slot : Int64) : Prop :=
  acceptsSlot size slot = true

theorem accepts_iff {size : Nat} {slot : Int64} (small : size < 2 ^ 63) :
    Accepts size slot ↔ LittleEndian.Fits size slot ∨ 2 ^ 63 ≤ slot.toInt + 4 := by
  by_cases unwrapped : slot.toInt + 4 < 2 ^ 63
  · rw [Accepts, acceptsSlot_iff_fits small unwrapped]
    constructor
    · exact .inl
    · rintro (fits | wrapped)
      · exact fits
      · omega
  · have upper := slot.toInt_lt
    have sum_eq : (slot + 4).toInt = slot.toInt + 4 - 2 ^ 64 := by
      have four : Int64.toInt 4 = 4 := rfl
      rw [Int64.toInt_add, four, Int.bmod_def]
      omega
    have zero : Int64.toInt 0 = 0 := rfl
    simp only [Accepts, acceptsSlot, Bool.and_eq_true, decide_eq_true_eq, Int64.le_iff_toInt_le,
      sum_eq, zero, Int64.toInt_ofNat_of_lt small]
    constructor
    · intro _
      right
      omega
    · omega

theorem linkFrom_cons_refused {encoding : Encoding} {slot : Int64}
    (slotted : encoding.slot = some slot) (refused : ¬Accepts encoding.bytes.length slot)
    (index offset : Nat) (rest : List Encoding) :
    linkFrom index offset (encoding :: rest) =
      .error { index, slot, size := encoding.bytes.length } := by
  rw [Accepts, Bool.not_eq_true] at refused
  simp [linkFrom, slotted, refused]

theorem linkFrom_cons_passed {encoding : Encoding} (passes : SlotPasses Accepts encoding)
    (index offset : Nat) (rest : List Encoding) :
    linkFrom index offset (encoding :: rest) =
      (linkFrom (index + 1) (offset + encoding.bytes.length) rest).map
        (prepend encoding.bytes (encoding.slot.map (Int64.ofNat offset + ·))) := by
  cases slotted : encoding.slot with
  | none => simp [linkFrom, slotted]
  | some slot =>
      have accepted : acceptsSlot encoding.bytes.length slot = true := passes slot slotted
      simp [linkFrom, slotted, accepted]

theorem linkFrom_eq_error_iff (index offset : Nat) (encodings : List Encoding)
    (misplaced : MisplacedSlot) :
    linkFrom index offset encodings = .error misplaced ↔
      ∃ later, FirstRefused Accepts encodings later ∧
        misplaced = { later with index := index + later.index } := by
  induction encodings generalizing index offset misplaced with
  | nil => simp [linkFrom, FirstRefused]
  | cons first rest ih =>
      simp only [firstRefused_cons_iff]
      by_cases passes : SlotPasses Accepts first
      · rw [linkFrom_cons_passed passes, Outcome.map_eq_error_iff, ih]
        constructor
        · rintro ⟨later, isFirst, rfl⟩
          refine ⟨_, .inr ⟨passes, later, isFirst, rfl⟩, ?_⟩
          simp only [Nat.add_assoc, Nat.add_comm 1]
        · rintro ⟨_, ⟨slot, slotted, refused, _⟩ | ⟨_, later, isFirst, rfl⟩, rfl⟩
          · exact absurd (passes slot slotted) refused
          · refine ⟨later, isFirst, ?_⟩
            simp only [Nat.add_assoc, Nat.add_comm 1]
      · simp only [SlotPasses, not_forall] at passes
        rcases passes with ⟨slot, slotted, refused⟩
        rw [linkFrom_cons_refused slotted refused, Except.error.injEq]
        constructor
        · rintro rfl
          exact ⟨_, .inl ⟨slot, slotted, refused, rfl⟩, rfl⟩
        · rintro ⟨_, ⟨other, otherSlotted, _, rfl⟩ | ⟨passes, _⟩, rfl⟩
          · rw [slotted, Option.some.injEq] at otherSlotted
            rw [otherSlotted, Nat.add_zero]
          · exact absurd (passes slot slotted) refused

theorem link_eq_error_iff (encodings : List Encoding) (misplaced : MisplacedSlot) :
    link encodings = .error misplaced ↔ FirstRefused Accepts encodings misplaced := by
  simp [link, linkFrom_eq_error_iff]

/-! ### Encodings that are joined -/

theorem length_slotsFrom (offset : Nat) (encodings : List Encoding) :
    (slotsFrom offset encodings).length = encodings.countP (·.slot.isSome) := by
  induction encodings generalizing offset with
  | nil => rfl
  | cons encoding rest ih =>
      rw [slotsFrom, List.length_append, ih, List.countP_cons]
      cases encoding.slot <;> simp [Nat.add_comm]

theorem joins_of_seated {encodings : List Encoding} (seated : Seated encodings)
    (bounded : (codeOf encodings).length < 2 ^ 63) :
    Joins encodings { code := codeOf encodings, slots := slotsFrom 0 encodings } where
  code_eq := rfl
  count_eq := length_slotsFrom 0 encodings
  slot_eq := by
    rintro before encoding after slot rfl slotted
    have fits := seated encoding (by simp) slot slotted
    have code_eq : codeOf (before ++ encoding :: after) =
        codeOf before ++ encoding.bytes ++ codeOf after := by
      rw [codeOf_append, codeOf_cons, List.append_assoc]
    rw [code_eq, List.length_append, List.length_append] at bounded
    have absolute_eq : (Int64.ofNat (codeOf before).length + slot).toInt =
        (codeOf before).length + slot.toInt := toInt_offset_add fits (by omega)
    rcases LittleEndian.read?_of_fits fits with ⟨word, read⟩
    refine ⟨_, word, ?_, absolute_eq, read, ?_⟩
    · rw [slotsFrom_append, List.getElem?_append_right (by rw [length_slotsFrom]),
        length_slotsFrom, slotsFrom, slotted]
      simp
    · rw [code_eq]
      exact LittleEndian.read?_of_part read absolute_eq

/-- Without a wrapped end in the first slot that does not fit, both checks refuse the same slot. -/
theorem firstRefused_accepts_iff {encodings : List Encoding}
    (bounded : (codeOf encodings).length < 2 ^ 63)
    (ends : ∀ misplaced, FirstRefused LittleEndian.Fits encodings misplaced →
      misplaced.slot.toInt + 4 < 2 ^ 63) (misplaced : MisplacedSlot) :
    FirstRefused Accepts encodings misplaced ↔
      FirstRefused LittleEndian.Fits encodings misplaced := by
  constructor
  · rintro ⟨before, encoding, after, rfl, passed, slotted, refused, index_eq, size_eq⟩
    refine ⟨before, encoding, after, rfl, ?_, slotted, ?_, index_eq, size_eq⟩
    · intro earlier earlierMem
      by_contra astray
      -- The first slot in front that does not fit would have been refused.
      rcases exists_firstRefused earlierMem astray with ⟨other, isFirst⟩
      have unwrapped := ends other (isFirst.append _)
      rcases isFirst with ⟨front, culprit, rest, rfl, _, otherSlotted, otherAstray, _⟩
      have culpritMem : culprit ∈ front ++ culprit :: rest := by simp
      have accepted := passed culprit culpritMem other.slot otherSlotted
      rw [accepts_iff (length_bytes_lt bounded (List.mem_append_left _ culpritMem))] at accepted
      rcases accepted with fits | wrapped
      · exact otherAstray fits
      · omega
    · intro fits
      apply refused
      rw [accepts_iff (length_bytes_lt bounded (by simp))]
      exact .inl fits
  · intro isFirst
    have unwrapped := ends misplaced isFirst
    rcases isFirst with ⟨before, encoding, after, rfl, seated, slotted, astray, index_eq, size_eq⟩
    refine ⟨before, encoding, after, rfl, ?_, slotted, ?_, index_eq, size_eq⟩
    · intro earlier earlierMem slot earlierSlotted
      rw [accepts_iff (length_bytes_lt bounded (List.mem_append_left _ earlierMem))]
      exact .inl (seated earlier earlierMem slot earlierSlotted)
    · rw [accepts_iff (length_bytes_lt bounded (by simp))]
      rintro (fits | wrapped)
      · exact astray fits
      · omega

end Template

/--
The linker does what it is meant to do exactly if the end of the first slot that does not fit,
should there be one, is a 64-bit integer: it then refuses precisely the lists with a slot that
does not lie inside its encoding, reports the first one, and otherwise joins the encodings,
so that each slot still holds the four bytes that it holds in its own encoding.
-/
theorem linksExactly_iff_first_misfit_ends {encodings : List Encoding}
    (bounded : (Template.codeOf encodings).length < 2 ^ 63) :
    Template.LinksExactly encodings ↔
      ∀ misplaced, Template.FirstRefused LittleEndian.Fits encodings misplaced →
        misplaced.slot.toInt + 4 < 2 ^ 63 := by
  constructor
  · rintro ⟨refuses, _⟩ misplaced misfit
    have failed := (refuses misplaced).mpr misfit
    rw [Template.link_eq_error_iff] at failed
    rcases failed with ⟨before, encoding, after, rfl, _, _, refused, _⟩
    by_contra wrapped
    apply refused
    rw [Template.accepts_iff (Template.length_bytes_lt bounded (by simp))]
    right
    omega
  · intro ends
    refine ⟨?_, fun _ _ => rfl, ?_⟩
    · intro misplaced
      rw [Template.link_eq_error_iff, Template.firstRefused_accepts_iff bounded ends]
    · intro seated
      refine ⟨_, ?_, Template.joins_of_seated seated bounded⟩
      rw [Template.link_eq_ok_iff]
      refine ⟨?_, rfl⟩
      intro encoding mem slot slotted
      exact Template.acceptsSlot_of_fits (Template.length_bytes_lt bounded mem)
        (seated encoding mem slot slotted)

/-- The second slot leaves room for three bytes only. -/
theorem linksExactly_iff_first_misfit_ends_short_room :
    let encodings : List Encoding :=
      [{ bytes := [0x68, 1, 0, 0, 0], slot := some 1 },
        { bytes := [0xE9, 0, 0, 0], slot := some 1 }]
    (Template.codeOf encodings).length < 2 ^ 63 ∧ Template.LinksExactly encodings ∧
      Template.link encodings = .error { index := 1, slot := 1, size := 4 } ∧
      MisplacedSlot.message { index := 1, slot := 1, size := 4 } =
        "assembler: instruction 1 has slot 1 outside its 4 bytes" := by
  intro encodings
  have bounded : (Template.codeOf encodings).length < 2 ^ 63 := by
    simp [encodings]
  refine ⟨bounded, ?_, rfl, by decide⟩
  rw [linksExactly_iff_first_misfit_ends bounded]
  rintro ⟨index, slot, size⟩ ⟨before, encoding, after, split, _, slotted, _⟩
  have mem : encoding ∈ encodings := by
    rw [split]
    simp
  simp only [encodings, List.mem_cons, List.not_mem_nil, or_false] at mem
  have isOne : slot = 1 := by
    rcases mem with rfl | rfl <;> exact (Option.some.inj slotted).symm
  rw [isOne]
  exact (by decide : Int64.toInt 1 + 4 < 2 ^ 63)

/-- The end of the slot wraps around, so the linker accepts a slot far outside its one byte. -/
theorem not_linksExactly_end_wraps :
    let encodings : List Encoding := [{ bytes := [0x90], slot := some 9223372036854775804 }]
    Template.link encodings = .ok { code := [0x90], slots := [9223372036854775804] } ∧
      Template.FirstRefused LittleEndian.Fits encodings ⟨0, 9223372036854775804, 1⟩ ∧
      ¬Template.LinksExactly encodings := by
  intro encodings
  have linked : Template.link encodings =
      .ok { code := [0x90], slots := [9223372036854775804] } := rfl
  have misfit : Template.FirstRefused LittleEndian.Fits encodings ⟨0, 9223372036854775804, 1⟩ :=
    ⟨[], _, [], rfl, by simp, rfl, by decide, rfl, rfl⟩
  refine ⟨linked, misfit, ?_⟩
  rintro ⟨refuses, _⟩
  have failed := (refuses _).mpr misfit
  rw [linked] at failed
  cases failed

end Stencil
