import Mathlib.Data.Finset.Card
import Mathlib.Order.Interval.Finset.Nat
import Stencil.Proofs.Dumps
import Stencil.Proofs.WordAccess

/-!
# Highlighted groups

The command fills a table of marks, slot by slot and byte by byte, before it prints a listing,
and highlights the groups whose bytes are marked. If the slots lie inside the code, these are the
bytes that the slots cover: a byte stays unmarked only if no slot covers it. Highlighting puts a
sequence in front of a group and one behind it and changes nothing else, so that deleting both
sequences everywhere gives the listing without highlights.
-/

namespace Stencil

namespace Listing

/-! ### The table of marks -/

theorem getD_setIfInBounds_iff (marks : Array Bool) (index place : Nat) :
    (marks.setIfInBounds index true).getD place false = true ↔
      marks.getD place false = true ∨ (place = index ∧ index < marks.size) := by
  rw [Array.getD_eq_getD_getElem?, Array.getD_eq_getD_getElem?, Array.getElem?_setIfInBounds]
  by_cases same : index = place
  · subst same
    by_cases inside : index < marks.size
    · simp [inside]
    · simp [inside]
  · simp [same, Ne.symm same]

theorem markFrom?_eq_some {marks marked : Array Bool} {index : Int} {count : Nat}
    (marked_eq : markFrom? marks index count = some marked) :
    marked.size = marks.size ∧ ∀ place : Nat, marked.getD place false = true ↔
      marks.getD place false = true ∨
        (place < marks.size ∧ index ≤ place ∧ (place : Int) < index + count) := by
  induction count generalizing marks index with
  | zero =>
      cases marked_eq
      refine ⟨rfl, fun place => ⟨.inl, ?_⟩⟩
      rintro (wasMarked | ⟨_, starts, ends⟩)
      · exact wasMarked
      · omega
  | succ count ih =>
      rw [markFrom?] at marked_eq
      split_ifs at marked_eq with before negative
      · rcases ih marked_eq with ⟨size_eq, marked_iff⟩
        rw [Array.size_setIfInBounds] at size_eq
        refine ⟨size_eq, fun place => ?_⟩
        rw [marked_iff, getD_setIfInBounds_iff, Array.size_setIfInBounds, or_assoc]
        apply or_congr_right
        omega
      · cases marked_eq
        refine ⟨rfl, fun place => ⟨.inl, ?_⟩⟩
        rintro (wasMarked | ⟨within, starts, ends⟩)
        · exact wasMarked
        · omega

/-- A byte is marked in the end if it was marked before or if some slot covers it. -/
theorem foldlM_markFrom?_eq_some {slots : List Int64} {marks marked : Array Bool}
    (marked_eq : slots.foldlM (fun marks slot => markFrom? marks slot.toInt LittleEndian.width)
      marks = some marked) (place : Nat) :
    marked.getD place false = true ↔
      marks.getD place false = true ∨ ∃ slot ∈ slots, place < marks.size ∧
        LittleEndian.Covers slot place := by
  induction slots generalizing marks with
  | nil =>
      cases marked_eq
      simp
  | cons slot slots ih =>
      rw [List.foldlM_cons, Option.bind_eq_bind, Option.bind_eq_some_iff] at marked_eq
      rcases marked_eq with ⟨first, first_eq, rest_eq⟩
      rcases markFrom?_eq_some first_eq with ⟨size_eq, first_iff⟩
      rw [ih rest_eq, first_iff, size_eq, or_assoc]
      simp only [List.mem_cons, exists_eq_or_imp, LittleEndian.Covers]

theorem getD_marks?_iff {template : Template} {marks : Array Bool}
    (marked : marks? template = some marks)
    (inside : ∀ slot ∈ template.slots, LittleEndian.Fits template.code.length slot) (index : Nat) :
    marks.getD index false = true ↔
      ∃ slot ∈ template.slots, LittleEndian.Covers slot index := by
  have unmarked : (Array.replicate template.code.length false).getD index false = false := by
    rw [Array.getD_eq_getD_getElem?, Array.getElem?_replicate]
    split <;> rfl
  rw [foldlM_markFrom?_eq_some marked, unmarked, Array.size_replicate]
  simp only [Bool.false_eq_true, false_or]
  apply exists_congr
  intro slot
  apply and_congr_right
  intro slotMem
  have fits := inside slot slotMem
  unfold LittleEndian.Fits at fits
  unfold LittleEndian.Covers
  omega

/-! ### The number of marks -/

/-- The bytes of a code of the given size that slots cover. -/
def coveredBytes (size : Nat) (slots : List Int64) : Finset Nat :=
  (Finset.range size).filter fun index =>
    slots.any fun slot => decide (LittleEndian.Covers slot index)

theorem mem_coveredBytes {size : Nat} {slots : List Int64} {index : Nat} :
    index ∈ coveredBytes size slots ↔
      index < size ∧ ∃ slot ∈ slots, LittleEndian.Covers slot index := by
  simp [coveredBytes]

theorem coveredBytes_singleton {size : Nat} {slot : Int64} (fits : LittleEndian.Fits size slot) :
    coveredBytes size [slot] =
      Finset.Ico slot.toInt.toNat (slot.toInt.toNat + LittleEndian.width) := by
  unfold LittleEndian.Fits at fits
  ext index
  simp only [mem_coveredBytes, List.mem_singleton, exists_eq_left, LittleEndian.Covers,
    Finset.mem_Ico]
  omega

theorem coveredBytes_cons (size : Nat) (slot : Int64) (slots : List Int64) :
    coveredBytes size (slot :: slots) = coveredBytes size [slot] ∪ coveredBytes size slots := by
  ext index
  simp only [Finset.mem_union, mem_coveredBytes, List.mem_cons, List.not_mem_nil, or_false,
    exists_eq_or_imp, exists_eq_left]
  exact and_or_left

theorem card_coveredBytes {size : Nat} {slots : List Int64}
    (apart : slots.Pairwise LittleEndian.Apart)
    (inside : ∀ slot ∈ slots, LittleEndian.Fits size slot) :
    (coveredBytes size slots).card = 4 * slots.length := by
  induction slots with
  | nil => simp [coveredBytes]
  | cons slot slots ih =>
      rw [List.pairwise_cons] at apart
      rw [List.forall_mem_cons] at inside
      have disjoint : Disjoint (coveredBytes size [slot]) (coveredBytes size slots) := by
        rw [Finset.disjoint_left]
        intro index covered coveredAgain
        simp only [mem_coveredBytes, List.mem_singleton, exists_eq_left] at covered coveredAgain
        rcases coveredAgain with ⟨_, other, otherMem, coveredByOther⟩
        exact LittleEndian.not_covers_of_apart (apart.1 other otherMem) covered.2 coveredByOther
      rw [coveredBytes_cons, Finset.card_union_of_disjoint disjoint, ih apart.2 inside.2,
        coveredBytes_singleton inside.1, Nat.card_Ico, LittleEndian.width, List.length_cons]
      omega

/-! ### Deleting the sequences -/

/-- The text without the given sequences; `skip` more characters belong to a deleted one. -/
def withoutFrom (sequences : List (List Char)) (skip : Nat) : List Char → List Char
  | [] => []
  | character :: rest =>
    match skip with
    | skip + 1 => withoutFrom sequences skip rest
    | 0 =>
      match sequences.find? (·.isPrefixOf (character :: rest)) with
      | some sequence => withoutFrom sequences (sequence.length - 1) rest
      | none => character :: withoutFrom sequences 0 rest

/-- The text without the sequences that highlight. -/
def unhighlighted (text : List Char) : List Char :=
  withoutFrom [highlightOn, highlightOff] 0 text

theorem isPrefixOf_of_ne_escape {character : Char} (other : escape ≠ character)
    (sequence text : List Char) :
    (escape :: sequence).isPrefixOf (character :: text) = false := by
  rw [List.isPrefixOf_cons_cons, beq_eq_false_iff_ne.mpr other, Bool.false_and]

theorem unhighlighted_append {text : List Char} (plain : escape ∉ text) (rest : List Char) :
    unhighlighted (text ++ rest) = text ++ unhighlighted rest := by
  induction text with
  | nil => rfl
  | cons character text ih =>
      rw [List.mem_cons, not_or] at plain
      have notFound : [highlightOn, highlightOff].find?
          (·.isPrefixOf (character :: (text ++ rest))) = none := by
        have on : highlightOn.isPrefixOf (character :: (text ++ rest)) = false :=
          isPrefixOf_of_ne_escape plain.1 _ _
        have off : highlightOff.isPrefixOf (character :: (text ++ rest)) = false :=
          isPrefixOf_of_ne_escape plain.1 _ _
        simp [on, off]
      rw [List.cons_append, unhighlighted, withoutFrom, notFound]
      exact congrArg (character :: ·) (ih plain.2)

theorem dropsHighlights_unhighlighted : DropsHighlights unhighlighted where
  keeps := unhighlighted_append
  dropsOn _ := rfl
  dropsOff _ := rfl

/-- The group stands between the two sequences. -/
def isHighlighted (group : List Char) : Bool :=
  highlightOn.isPrefixOf group && highlightOff.isSuffixOf group

theorem isHighlighted_group (highlighted : Bool) (byte : UInt8) :
    isHighlighted (group highlighted byte) = highlighted := by
  cases highlighted with
  | false =>
      have noEscape := not_mem_byteDigits (by decide : ¬IsVisible escape) byte
      rw [Hexadecimal.byteDigits, List.mem_cons, not_or] at noEscape
      have plain : highlightOn.isPrefixOf (group false byte) = false :=
        isPrefixOf_of_ne_escape noEscape.1 _ _
      rw [isHighlighted, plain, Bool.false_and]
  | true => rfl

theorem group_true_ne (byte : UInt8) : group true byte ≠ group false byte := by
  intro same
  have states := congrArg isHighlighted same
  rw [isHighlighted_group, isHighlighted_group] at states
  cases states

/-! ### The groups of a listing -/

section Marked

variable {template : Template} {marks : Array Bool} (marked : marks? template = some marks)

include marked

theorem words_code {perLine : Int64} {highlighted : Bool} {texts : List String}
    (listed : code template perLine highlighted = some texts) :
    words (texts.flatMap String.toList) =
      template.code.zipIdx.map fun (byte, index) =>
        group (highlighted && marks.getD index false) byte := by
  rw [flatMap_code listed marked]
  exact words_groups (by simp) (by simp [isGap_separator]) _ 0 template.code

theorem getElem?_words_code {perLine : Int64} {highlighted : Bool} {texts : List String}
    (listed : code template perLine highlighted = some texts) (index : Nat) :
    (words (texts.flatMap String.toList))[index]? =
      template.code[index]?.map (group (highlighted && marks.getD index false)) := by
  rw [words_code marked listed, List.getElem?_map, List.getElem?_zipIdx, Option.map_map,
    Nat.zero_add]
  rfl

theorem countP_marks?
    (inside : ∀ slot ∈ template.slots, LittleEndian.Fits template.code.length slot) :
    (List.range template.code.length).countP (fun index => marks.getD index false) =
      (coveredBytes template.code.length template.slots).card := by
  have same : ∀ index, marks.getD index false =
      template.slots.any fun slot => decide (LittleEndian.Covers slot index) := by
    intro index
    rw [Bool.eq_iff_iff, getD_marks?_iff marked inside]
    simp
  have card_eq : (coveredBytes template.code.length template.slots).card =
      ((List.range template.code.length).filter fun index => decide
        ((template.slots.any fun slot => decide (LittleEndian.Covers slot index)) = true)).length :=
    rfl
  simp only [card_eq, same, List.countP_eq_length_filter, Bool.decide_eq_true]

theorem countP_words_code {perLine : Int64} {texts : List String}
    (listed : code template perLine true = some texts) :
    (words (texts.flatMap String.toList)).countP isHighlighted =
      (List.range template.code.length).countP fun index => marks.getD index false := by
  rw [words_code marked listed, List.countP_map, List.range_eq_range', ← List.zipIdx_map_snd,
    List.countP_map]
  apply List.countP_congr
  rintro ⟨byte, index⟩ _
  simp [isHighlighted_group]

end Marked

end Listing

/--
Highlighting marks the bytes of the slots and nothing else, provided that the slots lie inside the
code. The code can be listed then. Without the two sequences that highlight, the listing is the
one without highlights. A group stands between these sequences exactly if some slot covers its
byte, and is bare otherwise; if the slots share no byte, there are four highlighted groups for
each of them.
-/
theorem highlights_mark_slot_bytes {template : Template}
    (inside : ∀ slot ∈ template.slots, LittleEndian.Fits template.code.length slot)
    (perLine : Int64) :
    ∃ coloredTexts uncoloredTexts, Listing.code template perLine true = some coloredTexts ∧
      Listing.code template perLine false = some uncoloredTexts ∧
      let colored := coloredTexts.flatMap String.toList
      let uncolored := uncoloredTexts.flatMap String.toList
      Listing.unhighlighted colored = uncolored ∧
      (Listing.words colored).length = template.code.length ∧
      (∀ (index : Nat) digits, (Listing.words uncolored)[index]? = some digits →
        let covered := ∃ slot ∈ template.slots,
          slot.toInt ≤ index ∧ (index : Int) < slot.toInt + 4
        ((Listing.words colored)[index]? =
          some (Listing.highlightOn ++ digits ++ Listing.highlightOff) ↔ covered) ∧
        ((Listing.words colored)[index]? = some digits ↔ ¬covered)) ∧
      (template.slots.Pairwise LittleEndian.Apart →
        (Listing.words colored).countP Listing.isHighlighted = 4 * template.slots.length) := by
  have nonnegative : ∀ slot ∈ template.slots, 0 ≤ slot.toInt :=
    fun slot slotMem => (inside slot slotMem).1
  rcases Listing.exists_code nonnegative perLine true with ⟨coloredTexts, coloredListed⟩
  rcases Listing.exists_code nonnegative perLine false with ⟨uncoloredTexts, uncoloredListed⟩
  rcases Listing.exists_marks? coloredListed with ⟨marks, marked⟩
  refine ⟨coloredTexts, uncoloredTexts, coloredListed, uncoloredListed, ?_⟩
  intro colored uncolored
  refine ⟨?_, ?_, ?_, ?_⟩
  · have uncolored_eq : uncolored = _ := Listing.flatMap_code_plain uncoloredListed
    have colored_eq : colored = _ := Listing.flatMap_code coloredListed marked
    have stripped := Listing.dropsHighlights_unhighlighted.strip_groups
      (Listing.escape_not_mem_separator template.code.length perLine)
      (fun index => true && marks.getD index false) 0 template.code []
    rw [List.append_nil] at stripped
    rw [uncolored_eq, colored_eq]
    exact stripped.trans (List.append_nil _)
  · have words_eq : Listing.words colored = _ := Listing.words_code marked coloredListed
    rw [words_eq, List.length_map, List.length_zipIdx]
  · intro index digits shown covered
    have bare : (Listing.words uncolored)[index]? = _ :=
      Listing.getElem?_words_code marked uncoloredListed index
    have own : (Listing.words colored)[index]? = _ :=
      Listing.getElem?_words_code marked coloredListed index
    rw [bare, Option.map_eq_some_iff] at shown
    rcases shown with ⟨byte, found, rfl⟩
    have covered_iff : covered ↔ marks.getD index false = true :=
      (Listing.getD_marks?_iff marked inside index).symm
    have wrapped : Listing.highlightOn ++ Listing.group false byte ++ Listing.highlightOff =
        Listing.group true byte := rfl
    have different := Listing.group_true_ne byte
    rw [own, found, covered_iff, Option.map_some, Option.some.injEq, Option.some.injEq,
      Bool.true_and, Bool.false_and, wrapped]
    cases marks.getD index false with
    | true => simp [different]
    | false => simp [different.symm]
  · intro apart
    have count_eq : (Listing.words colored).countP Listing.isHighlighted = _ :=
      Listing.countP_words_code marked coloredListed
    rw [count_eq, Listing.countP_marks? marked inside, Listing.card_coveredBytes apart inside]

/-- Two slots without a gap between them, the second one at the end of the code. -/
theorem highlights_mark_slot_bytes_adjacent :
    let template : Template :=
      { code := [0x90, 1, 2, 3, 4, 0xFF, 0xFE, 0xFD, 0xFC], slots := [1, 5] }
    ∃ texts, Listing.code template 4 true = some texts ∧
      let colored := texts.flatMap String.toList
      Listing.unhighlighted colored = "90 01 02 03\n04 ff fe fd\nfc\n".toList ∧
        (Listing.words colored)[0]? = some "90".toList ∧
        (Listing.words colored)[8]? = some "\x1b[33;1mfc\x1b[0;22m".toList ∧
        (Listing.words colored).countP Listing.isHighlighted = 8 := by
  intro template
  have inside : ∀ slot ∈ template.slots, LittleEndian.Fits template.code.length slot := by
    simp only [template, List.forall_mem_cons]
    exact ⟨by decide, by decide, by simp⟩
  have apart : template.slots.Pairwise LittleEndian.Apart := by
    simp only [template, List.pairwise_cons, List.forall_mem_cons]
    exact ⟨⟨.inl (by decide), by simp⟩, by simp, .nil⟩
  have plain : (Listing.code template 4 false).map (·.flatMap String.toList) =
      some "90 01 02 03\n04 ff fe fd\nfc\n".toList := by
    decide +kernel
  rcases highlights_mark_slot_bytes inside 4 with
    ⟨texts, plainTexts, listed, plainListed, deleted, _, groups, count⟩
  rw [plainListed, Option.map_some, Option.some.injEq] at plain
  rw [plain] at deleted groups
  refine ⟨texts, listed, deleted, (groups 0 "90".toList (by decide +kernel)).2.mpr ?_,
    (groups 8 "fc".toList (by decide +kernel)).1.mpr ?_, count apart⟩
  · simp only [template, List.mem_cons, List.not_mem_nil, or_false, exists_eq_or_imp,
      exists_eq_left]
    decide
  · exact ⟨5, by simp [template], by decide, by decide⟩

end Stencil
