import LanguageClient.Proofs.JsonSpellings
import LanguageClient.Settings.Reader

/-!
# What the readers of settings read

Each reader of a settings file has its meaning: what a value stands for, if it stands for anything
that is wanted there. A reader takes every spelling of a value for its meaning.
-/

namespace LanguageClient.Settings

open Json

/-- Whether a reader takes every value for what it means, however it is spelled and whatever
follows it, and fails for a value without a meaning. -/
def Reads {α : Type} (scan : Scanner α) (meaning : Term → Option α) : Prop :=
  ∀ ⦃term : Term⦄ ⦃text blanks rest : List Char⦄, Spells (.value term) text → IsBlanks blanks →
    EndsNumber rest → (scan (blanks ++ (text ++ rest))).toOption = (meaning term).map (·, rest)

/-- A reader that reads takes a value for what it means. -/
theorem Reads.at_value {α : Type} {scan : Scanner α} {meaning : Term → Option α}
    (reads : Reads scan meaning) {term : Term} {text rest : List Char}
    (spelled : Spells (.value term) text) (ends : EndsNumber rest) :
    (scan (text ++ rest)).toOption = (meaning term).map (·, rest) :=
  reads spelled isBlanks_nil ends

/-- The text that a value stands for. -/
def textOf : Term → Option String
  | .text literal => literal.text
  | _ => none

/-- The texts that a value stands for. -/
def textsOf : Term → Option (List String)
  | .list items => items.mapM textOf
  | _ => none

/-- The natural number of sixty-four bits that a value stands for: digits without a sign, a point
or a power of ten. -/
def word64Of : Term → Option UInt64
  | .number number =>
    if number.negative = false ∧ number.fraction = none ∧ number.power = none ∧
        digitsValue number.whole.chars < 0x10000000000000000 then
      some (UInt64.ofNat (digitsValue number.whole.chars))
    else none
  | _ => none

variable {first : Bool} {gap blanks text rest : List Char}

/-- A text is taken for its characters. -/
theorem reads_text : Reads scanTextValue textOf := by
  intro term text blanks rest spelled isBlanks ends
  rw [scanTextValue, skipBlanks_append isBlanks, (spelled.startsValue.append rest).skipBlanks_eq]
  cases spelled with
  | text literal => exact literal.scanText_spelling rest
  | number number =>
    obtain ⟨c, more, start, noQuote, -⟩ := number.opens_nothing
    rw [start]
    simp [textOf, noQuote]
  | _ => rfl

/-- The number of sixty-four bits of a numeral that was read without a sign. -/
def word64OfNumeral : Numeral → Option UInt64
  | .whole value => some (UInt64.ofNat value.toNat)
  | .fraction _ => none

/-- A number without a sign is taken if it is in range. -/
theorem scanWord64_digit {c : Char} (digit : c.isDigit = true) (text : List Char) :
    (scanWord64 (c :: text)).toOption =
      (scanNumber false (c :: text)).toOption.bind fun (numeral, rest) =>
        (word64OfNumeral numeral).map (·, rest) := by
  rw [scanWord64, (startsValue_of_isDigit digit text).skipBlanks_eq]
  dsimp only
  rw [if_pos digit]
  rcases scanNumber false (c :: text) with fault | ⟨value | d, rest⟩ <;> rfl

/-- A number without a sign makes a number of sixty-four bits if and only if it is one. -/
theorem finishNumber_unsigned {number : Number} (unsigned : number.negative = false) :
    ((finishNumber false number.whole.chars (number.fraction.map Digits.chars)
        (number.power.map Power.value) rest).toOption.bind fun (numeral, rest) =>
          (word64OfNumeral numeral).map (·, rest)) =
      (word64Of (.number number)).map (·, rest) := by
  rw [word64Of]
  cases point : number.fraction with
  | some fraction =>
    rw [if_neg (by simp)]
    dsimp only [Option.map_some, finishNumber]
    split <;> rfl
  | none =>
    cases mark : number.power with
    | some power =>
      rw [if_neg (by simp)]
      dsimp only [Option.map_some, Option.map_none, finishNumber]
      split <;> rfl
    | none =>
      by_cases fits : digitsValue number.whole.chars < 0x10000000000000000
      · simp [finishNumber, Numeral.ofDigits, unsigned, fits, word64OfNumeral]
      · rw [if_neg fun whole => fits whole.2.2.2]
        simp only [Option.map_none, finishNumber, Numeral.ofDigits, Bool.false_eq_true,
          if_neg fits, ↓reduceIte]
        split <;> rfl

/-- A number is taken for its value if it is in range. -/
theorem scanWord64_number (number : Number) (ends : EndsNumber rest) :
    (scanWord64 (number.spelling ++ rest)).toOption =
      (word64Of (.number number)).map (·, rest) := by
  cases sign : number.negative with
  | true =>
    rw [Number.spelling, if_pos sign, word64Of, if_neg (by simp [sign])]
    rfl
  | false =>
    have digit := number.whole.digits _ List.mem_cons_self
    have read := number.scanNumber_unsigned ends
    have taken : (scanWord64 (number.unsigned ++ rest)).toOption =
        (scanNumber false (number.unsigned ++ rest)).toOption.bind fun (numeral, rest) =>
          (word64OfNumeral numeral).map (·, rest) := scanWord64_digit digit _
    rw [sign] at read
    rw [Number.spelling, if_neg (by simp [sign]), taken, read, finishNumber_unsigned sign]

/-- A number of eight bytes is taken for its value. -/
theorem reads_word64 : Reads scanWord64 word64Of := by
  intro term text blanks rest spelled isBlanks ends
  cases spelled with
  | number number =>
    rw [← scanWord64_number number ends, scanWord64, skipBlanks_append isBlanks, ← scanWord64]
  | _ =>
    rw [scanWord64, skipBlanks_append isBlanks]
    rfl

/-! ## Lists -/

/-- Behind a comma another item follows. -/
theorem nextItem_comma (isBlanks : IsBlanks blanks) (starts : StartsValue text) :
    nextItem false (',' :: (blanks ++ text)) = .ok (some text) := by
  obtain ⟨c, more, rfl, free, -, noBracket, -⟩ := starts
  rw [nextItem, skipBlanks_cons (by decide)]
  split
  · contradiction
  · rename_i same
    exact absurd (List.cons.inj same).1 (by decide)
  · rename_i same
    obtain ⟨rfl, rfl⟩ := List.cons.inj same
    rw [if_neg Bool.false_ne_true, if_pos rfl, skipBlanks_append isBlanks, skipBlanks_cons free]
    split
    · contradiction
    · rename_i same
      exact absurd (List.cons.inj same).1 noBracket
    · rfl

/-- Blanks do not matter to whether another item follows. -/
theorem nextItem_blanks (isBlanks : IsBlanks blanks) (text : List Char) :
    nextItem first (blanks ++ text) = nextItem first text := by
  rw [nextItem, skipBlanks_append isBlanks, ← nextItem]

/-- Behind a gap another item follows. -/
theorem nextItem_gap (isGap : Gap first gap) (starts : StartsValue text) :
    nextItem first (gap ++ text) = .ok (some text) := by
  cases isGap with
  | first isBlanks =>
    obtain ⟨c, more, rfl, free, -, noBracket, -⟩ := starts
    rw [nextItem_blanks isBlanks, nextItem, skipBlanks_cons free]
    simp
  | later isBefore isAfter =>
    rw [List.append_assoc, nextItem_blanks isBefore]
    exact nextItem_comma isAfter starts

/-- Before a closing bracket no item follows. -/
theorem nextItem_end (isBlanks : IsBlanks blanks) (rest : List Char) :
    nextItem first (blanks ++ ']' :: rest) = .ok none := by
  rw [nextItem_blanks isBlanks]
  rfl

/-- A list is closed by its bracket. -/
theorem closeList_end (isBlanks : IsBlanks blanks) (rest : List Char) :
    closeList (blanks ++ ']' :: rest) = .ok rest := by
  rw [closeList, skipBlanks_append isBlanks]
  rfl

/-- A list is not closed where another item follows. -/
theorem closeList_gap (isGap : Gap first gap) (starts : StartsValue text) :
    (closeList (gap ++ text)).toOption = none := by
  obtain ⟨c, more, rfl, free, -, noBracket, -⟩ := starts
  cases isGap with
  | first isBlanks =>
    rw [closeList, skipBlanks_append isBlanks, skipBlanks_cons free]
    split
    · contradiction
    · rename_i same
      exact absurd (List.cons.inj same).1 noBracket
    · rfl
  | later isBefore isAfter =>
    rw [List.append_assoc, List.cons_append, closeList, skipBlanks_append isBefore]
    rfl

/-- Items are taken for texts if each of them means one. -/
theorem scanTextsFrom_items {items : List Term} (spelled : Spells (.items first items) text)
    {fuel : Nat} (enough : text.length ≤ fuel) (taken : List String) (rest : List Char) :
    (scanTextsFrom fuel first taken (text ++ rest)).toOption =
      (items.mapM textOf).map fun texts => (taken.reverse ++ texts, rest) := by
  induction items generalizing first text fuel taken with
  | nil =>
    have long := spelled.length_pos
    obtain ⟨fuel, rfl⟩ : ∃ n, fuel = n + 1 := ⟨fuel - 1, by omega⟩
    cases spelled with
    | noItems isBlanks =>
      rw [List.append_assoc, scanTextsFrom]
      simp [nextItem_end isBlanks, closeList_end isBlanks]
  | cons item items ih =>
    cases spelled with
    | @item _ gap text more _ _ isGap value others =>
      have long := value.length_pos
      simp only [List.length_append] at enough
      obtain ⟨fuel, rfl⟩ : ∃ n, fuel = n + 1 := ⟨fuel - 1, by omega⟩
      have read := reads_text.at_value value (others.endsNumber_items rest)
      rw [List.append_assoc, List.append_assoc, scanTextsFrom,
        nextItem_gap isGap (value.startsValue.append _), ok_bind]
      dsimp only
      rw [toOption_bind, read, List.mapM_cons]
      cases textOf item with
      | none => rfl
      | some itemText =>
        have later := ih others (by omega : more.length ≤ fuel) (itemText :: taken)
        cases texts : items.mapM textOf <;> simp [later, texts]

/-- A list of texts is taken for its texts. -/
theorem reads_texts : Reads scanTexts textsOf := by
  intro term text blanks rest spelled isBlanks ends
  rw [scanTexts, skipBlanks_append isBlanks, (spelled.startsValue.append rest).skipBlanks_eq]
  cases spelled with
  | list inside =>
    exact scanTextsFrom_items inside (by simp; omega) [] rest
  | number number =>
    obtain ⟨c, more, start, -, noBracket, -⟩ := number.opens_nothing
    rw [start]
    simp [textsOf, noBracket]
  | _ => rfl

/-! ## Objects -/

variable {σ : Type}

/-- A field of a record that is read into a draft. -/
structure Field (σ : Type) where
  /-- What the field holds. -/
  {Value : Type}
  /-- The key of the field. -/
  key : String
  /-- The part of the draft that holds it. -/
  part : σ → Option Value
  /-- Fills that part. -/
  set : σ → Value → σ
  /-- The reader of its value. -/
  scan : Scanner Value
  /-- What its value stands for. -/
  meaning : Term → Option Value
  /-- A part that has been filled holds what it was filled with. -/
  part_set : ∀ draft value, part (set draft value) = some value
  /-- The reader takes a value for its meaning. -/
  reads : Reads scan meaning

/-- The slot of a field. -/
def Field.slot (field : Field σ) : Slot σ :=
  Settings.slot field.key field.part field.set field.scan

/-- Whether a field has its own key, and is not touched when another one is filled. -/
def Field.Apart (field other : Field σ) : Prop :=
  field.key ≠ other.key ∧ (∀ draft value, field.part (other.set draft value) = field.part draft) ∧
    ∀ draft value, other.part (field.set draft value) = other.part draft

/-- The fields of a record. -/
structure Sheet (σ : Type) where
  /-- The fields in the order of a list that stands for the record. -/
  fields : List (Field σ)
  /-- They are apart from each other. -/
  apart : fields.Pairwise Field.Apart

namespace Sheet

variable (sheet : Sheet σ)

/-- The field with a key. -/
def field? (key : String) : Option (Field σ) := sheet.fields.find? fun field => field.key = key

/-- The slots of the fields. -/
def slots : List (Slot σ) := sheet.fields.map Field.slot

/-- A draft after one member of an object: none if its key is no text, its field has been filled
before, or its value does not stand for anything the field could hold. -/
def absorbMember (draft : σ) (member : Literal × Term) : Option σ :=
  member.1.text.bind fun key =>
    match sheet.field? key with
    | none => some draft
    | some field =>
      if (field.part draft).isSome then none
      else (field.meaning member.2).map (field.set draft)

/-- A draft after the members of an object. -/
def absorb (draft : σ) (members : List (Literal × Term)) : Option σ :=
  members.foldlM sheet.absorbMember draft

/-- The slot for a key is that of the field for the key. -/
theorem find?_slots (key : String) :
    (sheet.slots.find? fun slot => slot.key = key) = (sheet.field? key).map Field.slot := by
  rw [slots, List.find?_map]
  rfl

end Sheet

/-- Takes a member whose opening quote has been taken, and those that follow it. -/
def scanMember (slots : List (Slot σ)) (fuel : Nat) (draft : σ) : Scanner σ := fun text => do
  let (key, text) ← scanText text
  let slot := slots.find? fun slot => slot.key = key
  if slot.any fun slot => slot.filled draft then throw .unsuitable
  match skipBlanks text with
  | [] => throw .ended
  | ':' :: text =>
    match slot with
    | some slot =>
      let (draft, text) ← slot.fill draft text
      scanMembers slots fuel false draft text
    | none =>
      let (_, text) ← skipValue (2 * text.length + 2) text
      scanMembers slots fuel false draft text
  | _ => throw .malformed

/-- Blanks before a member are passed over. -/
theorem scanMembers_blanks (slots : List (Slot σ)) (isBlanks : IsBlanks blanks) (fuel : Nat)
    (draft : σ) (text : List Char) :
    scanMembers slots (fuel + 1) first draft (blanks ++ text) =
      scanMembers slots (fuel + 1) first draft text := by
  rw [scanMembers.eq_2, scanMembers.eq_2, skipBlanks_append isBlanks]

/-- Behind a comma another member follows. -/
theorem scanMembers_comma (slots : List (Slot σ)) (fuel : Nat) (draft : σ) (text : List Char) :
    scanMembers slots (fuel + 1) false draft (',' :: text) =
      match skipBlanks text with
      | [] => throw .ended
      | '"' :: text => scanMember slots fuel draft text
      | _ => throw .malformed := by
  rfl

/-- Behind a gap another member is taken. -/
theorem scanMembers_gap (slots : List (Slot σ)) (isGap : Gap first gap) (fuel : Nat) (draft : σ)
    (text : List Char) :
    scanMembers slots (fuel + 1) first draft (gap ++ '"' :: text) =
      scanMember slots fuel draft text := by
  cases isGap with
  | first isBlanks =>
    rw [scanMembers, skipBlanks_append isBlanks, skipBlanks_cons (by decide)]
    rfl
  | later isBefore isAfter =>
    rw [List.append_assoc, scanMembers_blanks slots isBefore, List.cons_append, scanMembers_comma,
      skipBlanks_append isAfter]
    rfl

/-- A member fills the slot of its key, or is passed over if there is none, and the others follow.
-/
theorem toOption_scanMember (slots : List (Slot σ)) (fuel : Nat) (draft : σ) (key : Literal)
    (isBlanks : IsBlanks blanks) (text : List Char) :
    (scanMember slots fuel draft (key.spelling ++ (blanks ++ ':' :: text))).toOption =
      key.text.bind fun key =>
        match slots.find? fun slot => slot.key = key with
        | some slot =>
          if slot.filled draft then none
          else (slot.fill draft text).toOption.bind fun (draft, text) =>
            (scanMembers slots fuel false draft text).toOption
        | none => (skipValue (2 * text.length + 2) text).toOption.bind fun (_, text) =>
            (scanMembers slots fuel false draft text).toOption := by
  rw [scanMember, toOption_bind, key.scanText_spelling]
  cases key.text with
  | none => rfl
  | some key =>
    dsimp only [Option.map_some, Option.bind_some]
    rw [skipBlanks_append isBlanks, skipBlanks_cons (by decide)]
    cases slots.find? fun slot => slot.key = key with
    | none => exact toOption_bind _ _
    | some slot =>
      cases filled : slot.filled draft with
      | true => simp [filled]
      | false =>
        simp [filled]
        exact toOption_bind _ _

/-- A slot is filled if its field has a value. -/
theorem Field.filled_slot (field : Field σ) (draft : σ) :
    field.slot.filled draft = (field.part draft).isSome := rfl

/-- A slot is filled with what a value means for its field. -/
theorem Field.fill_slot (field : Field σ) (draft : σ) {term : Term} (isBlanks : IsBlanks blanks)
    (spelled : Spells (.value term) text) (ends : EndsNumber rest) :
    (field.slot.fill draft (blanks ++ (text ++ rest))).toOption =
      (field.meaning term).map fun value => (field.set draft value, rest) := by
  have fill : field.slot.fill draft (blanks ++ (text ++ rest)) = (do
      let (value, rest) ← field.scan (blanks ++ (text ++ rest))
      return (field.set draft value, rest)) := rfl
  rw [fill, toOption_bind, field.reads spelled isBlanks ends]
  cases field.meaning term <;> rfl

namespace Sheet

variable (sheet : Sheet σ)

/-- The members of an object are read as what a draft absorbs of them. -/
theorem scanMembers_members {members : List (Literal × Term)}
    (spelled : Spells (.members first members) text) {fuel : Nat} (enough : text.length ≤ fuel)
    (draft : σ) (rest : List Char) :
    (scanMembers sheet.slots fuel first draft (text ++ rest)).toOption =
      (sheet.absorb draft members).map (·, rest) := by
  induction members generalizing first text fuel draft with
  | nil =>
    have long := spelled.length_pos
    obtain ⟨fuel, rfl⟩ : ∃ n, fuel = n + 1 := ⟨fuel - 1, by omega⟩
    cases spelled with
    | noMembers isBlanks =>
      rw [List.append_assoc, scanMembers_blanks sheet.slots isBlanks]
      rfl
  | cons member members ih =>
    cases spelled with
    | @member _ gap before after text more key term _ isGap isBefore isAfter value others =>
      simp only [List.length_append, List.length_cons] at enough
      obtain ⟨fuel, rfl⟩ : ∃ n, fuel = n + 1 := ⟨fuel - 1, by omega⟩
      have ends := others.endsNumber_members rest
      simp only [List.append_assoc, List.cons_append]
      rw [scanMembers_gap sheet.slots isGap,
        toOption_scanMember sheet.slots fuel draft key isBefore, absorb, List.foldlM_cons,
        absorbMember]
      cases key.text with
      | none => rfl
      | some key =>
        simp only [Option.bind_some, sheet.find?_slots]
        cases sheet.field? key with
        | none =>
          have skip : skipValue (2 * (after ++ (text ++ (more ++ rest))).length + 2)
              (after ++ (text ++ (more ++ rest))) = .ok ((), more ++ rest) :=
            skipValue_spelled value isAfter (by simp only [List.length_append]; omega) ends
          simp only [Option.map_none]
          rw [skip]
          exact ih others (by omega) draft
        | some field =>
          simp only [Option.map_some]
          rw [field.fill_slot draft isAfter value ends, field.filled_slot]
          split
          · rfl
          · cases field.meaning term with
            | none => rfl
            | some taken => exact ih others (by omega) (field.set draft taken)

/-! ### A record that is written as a list -/

/-- A draft after the items of a list, which stand for the fields in their order. -/
def place : List (Field σ) → σ → List Term → Option σ
  | _, draft, [] => some draft
  | [], _, _ :: _ => none
  | field :: fields, draft, item :: items =>
    (field.meaning item).bind fun value => place fields (field.set draft value) items

/-- The items of a list are read as what is placed in the draft. -/
theorem scanPositions_items (fields : List (Field σ)) {items : List Term}
    (spelled : Spells (.items first items) text) (draft : σ) (rest : List Char) :
    ((scanPositions (fields.map Field.slot) first draft (text ++ rest)).toOption.bind
        fun (draft, text) => (closeList text).toOption.map fun rest => (draft, rest)) =
      (place fields draft items).map (·, rest) := by
  induction fields generalizing first text draft items with
  | nil =>
    cases spelled with
    | noItems isBlanks => simp [scanPositions, closeList_end isBlanks, place]
    | @item _ gap text more _ _ isGap value others =>
      have close := closeList_gap isGap (value.startsValue.append (more ++ rest))
      simp [scanPositions, close, place]
  | cons field fields ih =>
    cases spelled with
    | noItems isBlanks =>
      simp [scanPositions, nextItem_end isBlanks, closeList_end isBlanks, place]
    | @item _ gap text more item items isGap value others =>
      have fill := field.fill_slot draft isBlanks_nil value (others.endsNumber_items rest)
      simp only [List.append_assoc, List.nil_append, List.map_cons] at fill ⊢
      rw [scanPositions, nextItem_gap isGap (value.startsValue.append _), ok_bind, place]
      dsimp only
      rw [toOption_bind, fill]
      cases field.meaning item with
      | none => rfl
      | some taken => exact ih others (field.set draft taken)

/-! ### Records -/

/-- What a value stands for as a record: an object, or a list of the first fields. -/
def meaning {α : Type} (blank : σ) (finish : σ → Option α) : Term → Option α
  | .object members => (sheet.absorb blank members).bind finish
  | .list items => (place sheet.fields blank items).bind finish
  | _ => none

variable {α : Type} (blank : σ) (finish : σ → Except Fault α)

/-- A record is taken from an object by what its members mean. -/
theorem scanRecord_object {members : List (Literal × Term)}
    (inside : Spells (.members true members) text) (rest : List Char) :
    (scanRecord sheet.slots blank finish ('\x7b' :: (text ++ rest))).toOption =
      ((sheet.absorb blank members).bind fun draft => (finish draft).toOption).map (·, rest) := by
  have taken : scanRecord sheet.slots blank finish ('\x7b' :: (text ++ rest)) = (do
      let (draft, text) ←
        scanMembers sheet.slots ((text ++ rest).length + 1) true blank (text ++ rest)
      return (← finish draft, text)) := rfl
  have enough : text.length ≤ (text ++ rest).length + 1 := by
    rw [List.length_append]
    omega
  rw [taken, toOption_bind, sheet.scanMembers_members inside enough]
  cases sheet.absorb blank members with
  | none => rfl
  | some draft =>
    dsimp only [Option.map_some, Option.bind_some]
    cases finish draft <;> rfl

/-- A record is taken from a list by what its items mean for the fields in their order. -/
theorem scanRecord_list {items : List Term} (inside : Spells (.items true items) text)
    (rest : List Char) :
    (scanRecord sheet.slots blank finish ('[' :: (text ++ rest))).toOption =
      ((place sheet.fields blank items).bind fun draft =>
        (finish draft).toOption).map (·, rest) := by
  have taken : scanRecord sheet.slots blank finish ('[' :: (text ++ rest)) = (do
      let (draft, text) ← scanPositions sheet.slots true blank (text ++ rest)
      let record ← finish draft
      return (record, ← closeList text)) := rfl
  have read := scanPositions_items sheet.fields inside blank rest
  -- The draft is finished before the bracket is taken, but either failure is a failure of both.
  have finished : ((place sheet.fields blank items).bind fun draft => (finish draft).toOption).map
        (·, rest) =
      ((place sheet.fields blank items).map (·, rest)).bind fun (draft, rest) =>
        (finish draft).toOption.map (·, rest) := by
    cases place sheet.fields blank items <;> rfl
  rw [taken, finished, ← read, ← slots]
  rcases scanPositions sheet.slots true blank (text ++ rest) with fault | ⟨draft, text⟩
  · rfl
  · cases done : finish draft <;> cases closed : closeList text <;>
      simp [done, closed, toOption_bind]

/-- A record is taken for what it means. -/
theorem reads_record :
    Reads (scanRecord sheet.slots blank finish)
      (sheet.meaning blank fun draft => (finish draft).toOption) := by
  intro term text blanks rest spelled isBlanks ends
  rw [scanRecord, skipBlanks_append isBlanks, (spelled.startsValue.append rest).skipBlanks_eq]
  cases spelled with
  | object inside => exact sheet.scanRecord_object blank finish inside rest
  | list inside => exact sheet.scanRecord_list blank finish inside rest
  | number number =>
    obtain ⟨c, more, start, -, noBracket, noBrace⟩ := number.opens_nothing
    rw [start]
    simp [meaning, noBracket, noBrace]
  | _ => rfl

end Sheet

end LanguageClient.Settings
