import LanguageClient.Json.Reader
import Mathlib.Data.List.TakeDrop

/-!
# How texts are spelled

A quoted text is spelled piece by piece: a character as it is, an escaped letter, or a code unit in
four digits of base sixteen. Its reader takes every such spelling whole and reads the text it stands
for. One that holds half of a surrogate pair stands for no text and is not read, but it can be
skipped all the same.
-/

namespace LanguageClient.Json

/-! ## Readers that succeed or fail -/

variable {α β ε : Type}

/-- Two steps have a result if the first has one and the second has one for it. -/
theorem toOption_bind (result : Except ε α) (next : α → Except ε β) :
    (result >>= next).toOption = result.toOption.bind fun a => (next a).toOption := by
  cases result <;> rfl

/-- A step that does nothing has its value as result. -/
@[simp]
theorem toOption_pure (a : α) : (pure a : Except ε α).toOption = some a := rfl

/-- A failure has no result. -/
@[simp]
theorem toOption_throw (e : ε) : (throw e : Except ε α).toOption = none := rfl

/-- A success has its value as result. -/
@[simp]
theorem toOption_ok (a : α) : (Except.ok a : Except ε α).toOption = some a := rfl

/-- An error has no result. -/
@[simp]
theorem toOption_error (e : ε) : (Except.error e : Except ε α).toOption = none := rfl

/-- After a success the next step is taken. -/
@[simp]
theorem ok_bind (a : α) (next : α → Except ε β) : (Except.ok a >>= next) = next a := rfl

/-- After a failure no step is taken. -/
@[simp]
theorem throw_bind (e : ε) (next : α → Except ε β) :
    ((throw e : Except ε α) >>= next) = throw e := rfl

/-- A failure is passed through. -/
@[simp]
theorem map_throw (e : ε) (f : α → β) : (f <$> (throw e : Except ε α)) = throw e := rfl

/-! ## Fronts of texts -/

/-- A text is cut where its front ends, if what follows does not belong to the front. -/
theorem span_of_ends {p : α → Bool} {front back : List α} (all : ∀ c ∈ front, p c = true)
    (ends : ∀ c, back.head? = some c → p c = false) :
    (front ++ back).span p = (front, back) := by
  rw [List.span_eq_takeWhile_dropWhile, List.takeWhile_append_of_pos all,
    List.dropWhile_append_of_pos all]
  cases back with
  | nil => simp
  | cons c back => simp [ends c rfl]

/-- The characters of a kind that stand in front are taken, if another one stands behind them. -/
theorem takeWhile_of_ends {p : α → Bool} {front back : List α}
    (all : ∀ c ∈ front, p c = true) (ends : ∀ c, back.head? = some c → p c = false) :
    (front ++ back).takeWhile p = front := by
  have parts := congrArg Prod.fst (span_of_ends all ends)
  rwa [List.span_eq_takeWhile_dropWhile] at parts

/-- What stands behind the characters of a kind is left. -/
theorem dropWhile_of_ends {p : α → Bool} {front back : List α}
    (all : ∀ c ∈ front, p c = true) (ends : ∀ c, back.head? = some c → p c = false) :
    (front ++ back).dropWhile p = back := by
  have parts := congrArg Prod.snd (span_of_ends all ends)
  rwa [List.span_eq_takeWhile_dropWhile] at parts

/-- The two parts into which a text is cut. -/
theorem ends_of_span {p : α → Bool} {text front back : List α}
    (cut : text.span p = (front, back)) : text = front ++ back ∧ (∀ c ∈ front, p c = true) ∧
      ∀ c, back.head? = some c → p c = false := by
  rw [List.span_eq_takeWhile_dropWhile] at cut
  obtain ⟨rfl, rfl⟩ := Prod.mk.inj cut
  refine ⟨List.takeWhile_append_dropWhile.symm, List.all_eq_true.mp List.all_takeWhile, ?_⟩
  intro c first
  have stops := List.head?_dropWhile_not p text
  rw [first] at stops
  simpa using stops

/-! ## Quoted texts -/

/-- A digit of base sixteen. -/
structure HexDigit where
  /-- The letter or the figure. -/
  char : Char
  /-- What it counts. -/
  value : Nat
  /-- It counts that. -/
  means : hexValue? char = some value

/-- A code unit in four digits of base sixteen. -/
structure CodeUnit where
  /-- The digits in their order. -/
  (first second third fourth : HexDigit)

namespace CodeUnit

/-- The number of a code unit. -/
def value (unit : CodeUnit) : Nat :=
  ((unit.first.value * 16 + unit.second.value) * 16 + unit.third.value) * 16 + unit.fourth.value

/-- The digits of a code unit. -/
def spelling (unit : CodeUnit) : List Char :=
  [unit.first.char, unit.second.char, unit.third.char, unit.fourth.char]

/-- Whether a code unit is the first half of a pair. -/
def IsHigh (unit : CodeUnit) : Prop := 0xd800 ≤ unit.value ∧ unit.value ≤ 0xdbff

/-- Whether a code unit is the second half of a pair. -/
def IsLow (unit : CodeUnit) : Prop := 0xdc00 ≤ unit.value ∧ unit.value ≤ 0xdfff

instance (unit : CodeUnit) : Decidable unit.IsHigh := inferInstanceAs (Decidable (_ ∧ _))
instance (unit : CodeUnit) : Decidable unit.IsLow := inferInstanceAs (Decidable (_ ∧ _))

/-- The character of a pair. -/
def joined (high low : CodeUnit) : Char :=
  Char.ofNat (0x10000 + (high.value - 0xd800) * 0x400 + (low.value - 0xdc00))

variable {unit : CodeUnit} {rest : List Char}

/-- The four digits of a code unit are taken with its value. -/
@[simp]
theorem scanUnit_spelling (unit : CodeUnit) (rest : List Char) :
    scanUnit (unit.spelling ++ rest) = .ok (unit.value, rest) := by
  simp [scanUnit, spelling, unit.first.means, unit.second.means, unit.third.means,
    unit.fourth.means, value]

/-- No surrogate is both. -/
theorem not_isLow_of_isHigh (high : unit.IsHigh) : ¬ unit.IsLow := by
  rw [IsHigh] at high
  rw [IsLow]
  omega

/-- A low surrogate cannot come first. -/
theorem scanCodePoint_low (low : unit.IsLow) (rest : List Char) :
    (scanCodePoint (unit.spelling ++ rest)).toOption = none := by
  rw [IsLow] at low
  rw [scanCodePoint, scanUnit_spelling]
  simp [low]

/-- A code unit that is no surrogate is a character by itself. -/
theorem scanCodePoint_single (single : ¬ unit.IsLow ∧ ¬ unit.IsHigh) (rest : List Char) :
    scanCodePoint (unit.spelling ++ rest) = .ok (Char.ofNat unit.value, rest) := by
  rw [IsLow, IsHigh] at single
  rw [scanCodePoint, scanUnit_spelling, ok_bind]
  dsimp only
  rw [if_neg single.1, if_neg single.2]
  rfl

/-- A high surrogate forms a character with a low one, and with no other code unit. -/
theorem scanCodePoint_pair (high : unit.IsHigh) (other : CodeUnit) (rest : List Char) :
    (scanCodePoint (unit.spelling ++ '\\' :: 'u' :: (other.spelling ++ rest))).toOption =
      if other.IsLow then some (joined unit other, rest) else none := by
  have first := not_isLow_of_isHigh high
  rw [IsLow] at first
  rw [IsHigh] at high
  have range : other.value < 0xdc00 ∨ 0xdfff < other.value ↔ ¬ other.IsLow := by
    rw [IsLow]
    omega
  rw [scanCodePoint, scanUnit_spelling]
  by_cases low : other.IsLow <;> simp [first, high, range, low, joined]

/-- A high surrogate forms no character with what is no code unit. -/
theorem scanCodePoint_unpaired (high : unit.IsHigh)
    (unpaired : ∀ text, rest ≠ '\\' :: 'u' :: text) :
    (scanCodePoint (unit.spelling ++ rest)).toOption = none := by
  have first := not_isLow_of_isHigh high
  rw [IsLow] at first
  rw [IsHigh] at high
  rw [scanCodePoint, scanUnit_spelling, ok_bind]
  dsimp only
  rw [if_neg first, if_pos high]
  split
  · rfl
  · rfl
  · exact absurd rfl (unpaired _)
  · rfl

end CodeUnit

/-- A piece of a quoted text. -/
inductive Piece
  /-- A character that stands for itself. -/
  | plain (c : Char) (free : c ≠ '"' ∧ c ≠ '\\' ∧ 0x20 ≤ c.toNat)
  /-- An escaped letter. -/
  | letter (letter c : Char) (means : letterEscape? letter = some c)
  /-- An escaped code unit. -/
  | code (unit : CodeUnit)

/-- The spelling of a piece. -/
def Piece.spelling : Piece → List Char
  | .plain c _ => [c]
  | .letter l _ _ => ['\\', l]
  | .code unit => '\\' :: 'u' :: unit.spelling

/-- A quoted text, piece by piece. -/
abbrev Literal := List Piece

namespace Literal

/-- The spelling of a literal after its opening quote. -/
def spelling (literal : Literal) : List Char := literal.flatMap Piece.spelling ++ ['"']

/-- The literal of characters that stand for themselves. -/
def verbatim (chars : List Char) (free : ∀ c ∈ chars, c ≠ '"' ∧ c ≠ '\\' ∧ 0x20 ≤ c.toNat) :
    Literal :=
  chars.pmap Piece.plain free

/-- The characters of a literal. It has none if one of its code units is half of a pair. -/
def chars : Literal → Option (List Char)
  | [] => some []
  | .plain c _ :: rest => (chars rest).map (c :: ·)
  | .letter _ c _ :: rest => (chars rest).map (c :: ·)
  | .code unit :: rest =>
    if unit.IsLow then none
    else if unit.IsHigh then
      match rest with
      | .code low :: rest => if low.IsLow then (chars rest).map (unit.joined low :: ·) else none
      | _ => none
    else (chars rest).map (Char.ofNat unit.value :: ·)

/-- The text that a literal stands for, if it stands for one. -/
def text (literal : Literal) : Option String := literal.chars.map String.ofList

/-- A quoted text is spelled piece by piece. -/
theorem spelling_cons (piece : Piece) (literal : Literal) (rest : List Char) :
    spelling (piece :: literal) ++ rest = piece.spelling ++ (literal.spelling ++ rest) := by
  simp [spelling]

/-- A character that needs no escape stands for itself. -/
theorem scanTextFrom_plain {c : Char} (free : c ≠ '"' ∧ c ≠ '\\' ∧ 0x20 ≤ c.toNat) (fuel : Nat)
    (taken rest : List Char) :
    scanTextFrom (fuel + 1) taken (c :: rest) = scanTextFrom fuel (c :: taken) rest := by
  rw [scanTextFrom.eq_def]
  simp only [free.1, free.2.1, Nat.not_lt.mpr free.2.2, ↓reduceIte]

/-- A known letter is not the one that starts the escape of a code unit. -/
theorem ne_unit_of_letter {letter c : Char} (means : letterEscape? letter = some c) :
    letter ≠ 'u' := by
  rintro rfl
  cases means

/-- An escape of one letter stands for its character. -/
theorem scanTextFrom_letter {letter c : Char} (means : letterEscape? letter = some c) (fuel : Nat)
    (taken rest : List Char) :
    scanTextFrom (fuel + 1) taken ('\\' :: letter :: rest) =
      scanTextFrom fuel (c :: taken) rest := by
  have other := ne_unit_of_letter means
  simp [scanTextFrom, means]

/-- An escape of code units stands for the character that they form, if they form one. -/
theorem scanTextFrom_unit (fuel : Nat) (taken rest : List Char) :
    (scanTextFrom (fuel + 1) taken ('\\' :: 'u' :: rest)).toOption =
      (scanCodePoint rest).toOption.bind fun (c, rest) =>
        (scanTextFrom fuel (c :: taken) rest).toOption := by
  rw [scanTextFrom, if_neg (by decide), if_pos rfl]
  exact toOption_bind _ _

/-- Only an escaped code unit starts with its escape. -/
theorem spelling_ne {literal : Literal} (unpaired : ∀ low later, literal ≠ .code low :: later)
    (rest text : List Char) : literal.spelling ++ rest ≠ '\\' :: 'u' :: text := by
  cases literal with
  | nil => simp [spelling]
  | cons piece later =>
    rw [spelling_cons]
    cases piece with
    | plain c free =>
      have := free.2.1
      simp [Piece.spelling, this]
    | letter letter c means =>
      have other := ne_unit_of_letter means
      simp [Piece.spelling, other]
    | code low => exact absurd rfl (unpaired low later)

/-- A quoted text is taken with its characters, if its code units form some. -/
theorem scanTextFrom_spelling (literal : Literal) (fuel : Nat) (taken rest : List Char)
    (enough : literal.length ≤ fuel) :
    (scanTextFrom (fuel + 1) taken (literal.spelling ++ rest)).toOption =
      literal.chars.map fun chars => (String.ofList (taken.reverse ++ chars), rest) := by
  fun_induction chars literal generalizing fuel taken with
  | case1 => simp [spelling, scanTextFrom]
  | case2 c free later ih =>
    obtain ⟨fuel, rfl⟩ := Nat.exists_eq_succ_of_ne_zero (Nat.ne_zero_of_lt enough)
    rw [spelling_cons, Piece.spelling, List.singleton_append, scanTextFrom_plain free,
      ih fuel (c :: taken) (Nat.le_of_succ_le_succ enough)]
    simp [Function.comp_def]
  | case3 letter c means later ih =>
    obtain ⟨fuel, rfl⟩ := Nat.exists_eq_succ_of_ne_zero (Nat.ne_zero_of_lt enough)
    rw [spelling_cons, Piece.spelling, List.cons_append, List.singleton_append,
      scanTextFrom_letter means, ih fuel (c :: taken) (Nat.le_of_succ_le_succ enough)]
    simp [Function.comp_def]
  | case4 unit later low =>
    rw [spelling_cons, Piece.spelling, List.cons_append, List.cons_append, scanTextFrom_unit,
      CodeUnit.scanCodePoint_low low]
    rfl
  | case5 unit notLow high low later second ih =>
    obtain ⟨fuel, rfl⟩ := Nat.exists_eq_succ_of_ne_zero (Nat.ne_zero_of_lt enough)
    rw [spelling_cons, Piece.spelling, List.cons_append, List.cons_append, scanTextFrom_unit,
      spelling_cons, Piece.spelling, List.cons_append, List.cons_append,
      CodeUnit.scanCodePoint_pair high, if_pos second, Option.bind_some]
    dsimp only
    rw [ih fuel (unit.joined low :: taken) (by simp at enough; omega)]
    simp [Function.comp_def]
  | case6 unit notLow high low later notSecond =>
    rw [spelling_cons, Piece.spelling, List.cons_append, List.cons_append, scanTextFrom_unit,
      spelling_cons, Piece.spelling, List.cons_append, List.cons_append,
      CodeUnit.scanCodePoint_pair high, if_neg notSecond]
    rfl
  | case7 unit later notLow high unpaired =>
    rw [spelling_cons, Piece.spelling, List.cons_append, List.cons_append, scanTextFrom_unit,
      CodeUnit.scanCodePoint_unpaired high (spelling_ne unpaired rest)]
    rfl
  | case8 unit later notLow notHigh ih =>
    obtain ⟨fuel, rfl⟩ := Nat.exists_eq_succ_of_ne_zero (Nat.ne_zero_of_lt enough)
    rw [spelling_cons, Piece.spelling, List.cons_append, List.cons_append, scanTextFrom_unit,
      CodeUnit.scanCodePoint_single ⟨notLow, notHigh⟩, toOption_ok, Option.bind_some]
    dsimp only
    rw [ih fuel (_ :: taken) (Nat.le_of_succ_le_succ enough)]
    simp [Function.comp_def]

/-- A quoted text has no more pieces than its spelling has characters. -/
theorem length_le_length_spelling (literal : Literal) :
    literal.length + 1 ≤ literal.spelling.length := by
  induction literal with
  | nil => simp [spelling]
  | cons piece literal ih =>
    have more : 1 ≤ piece.spelling.length := by cases piece <;> simp [Piece.spelling]
    have split := congrArg List.length (spelling_cons piece literal [])
    simp only [List.append_nil, List.length_append] at split
    rw [List.length_cons, split]
    omega

/-- A literal is read as the text it stands for, and not read if it stands for none. -/
theorem scanText_spelling (literal : Literal) (rest : List Char) :
    (scanText (literal.spelling ++ rest)).toOption =
      literal.text.map fun text => (text, rest) := by
  have bound := length_le_length_spelling literal
  rw [scanText, scanTextFrom_spelling literal _ [] rest (by simp; omega)]
  simp [text, Function.comp_def]

/-- A quoted text that nobody wants is passed over. -/
theorem skipTextFrom_spelling (literal : Literal) (fuel : Nat) (rest : List Char)
    (enough : literal.length ≤ fuel) :
    skipTextFrom (fuel + 1) (literal.spelling ++ rest) = .ok ((), rest) := by
  induction literal generalizing fuel with
  | nil => simp [spelling, skipTextFrom]
  | cons piece literal ih =>
    obtain ⟨fuel, rfl⟩ := Nat.exists_eq_succ_of_ne_zero (Nat.ne_zero_of_lt enough)
    have later := ih fuel (Nat.le_of_succ_le_succ enough)
    rw [spelling_cons]
    cases piece with
    | plain c free =>
      rw [Piece.spelling, List.singleton_append, skipTextFrom.eq_def]
      simp only [free.1, free.2.1, Nat.not_lt.mpr free.2.2, ↓reduceIte, later]
    | letter letter c means =>
      have other := ne_unit_of_letter means
      simp [Piece.spelling, skipTextFrom, means, later]
    | code unit =>
      rw [Piece.spelling, List.cons_append, List.cons_append, skipTextFrom, if_neg (by decide),
        if_pos rfl]
      simp [later]

/-- A literal is skipped, whether it stands for a text or not. -/
theorem skipText_spelling (literal : Literal) (rest : List Char) :
    skipText (literal.spelling ++ rest) = .ok ((), rest) := by
  have bound := length_le_length_spelling literal
  exact skipTextFrom_spelling literal _ rest (by simp; omega)

end Literal

end LanguageClient.Json
