import LanguageClient.Proofs.JsonTexts

/-!
# How numbers are spelled

A number is spelled as a sign, digits without a needless zero in front, a point with digits, and a
power of ten. Its readers are given as the parts they take one after the other, and each part of a
spelling is taken by the reader of that part, if the text does not go on as if it were longer.
-/

namespace LanguageClient.Json

/-- A digit is none of the characters that are no digits. -/
theorem ne_of_isDigit {c d : Char} (digit : c.isDigit = true) (other : d.isDigit = false) :
    c ≠ d := by
  rintro rfl
  rw [digit] at other
  cases other

/-- Decimal digits, at least one. -/
structure Digits where
  /-- The first digit. -/
  first : Char
  /-- The digits after it. -/
  more : List Char
  /-- All of them are digits. -/
  digits : ∀ c ∈ first :: more, c.isDigit = true

namespace Digits

/-- The digits in their order. -/
def chars (digits : Digits) : List Char := digits.first :: digits.more

end Digits

/-- Whether a text goes on with something else than a digit, if at all. -/
def EndsDigits (rest : List Char) : Prop := ∀ c, rest.head? = some c → c.isDigit = false

namespace Digits

variable (digits : Digits) {rest : List Char}

/-- What starts with a digit starts with nothing else. -/
theorem append_ne_cons {c : Char} (other : c.isDigit = false) (text : List Char) :
    digits.chars ++ rest ≠ c :: text := by
  intro same
  obtain rfl : digits.first = c := by simpa [chars] using (List.cons.inj same).1
  rw [digits.digits _ List.mem_cons_self] at other
  cases other

/-- The digits are split off from what follows them. -/
theorem span_append (ends : EndsDigits rest) :
    (digits.chars ++ rest).span Char.isDigit = (digits.chars, rest) :=
  span_of_ends digits.digits ends

/-- The digits are all that is taken from before what follows them. -/
theorem takeWhile_append (ends : EndsDigits rest) :
    (digits.chars ++ rest).takeWhile Char.isDigit = digits.chars :=
  takeWhile_of_ends digits.digits ends

/-- Digits that nobody wants are passed over. -/
theorem skipDigits_append (ends : EndsDigits rest) :
    skipDigits (digits.chars ++ rest) = .ok ((), rest) := by
  rw [skipDigits, digits.span_append ends]
  rfl

/-- Digits are taken as they stand. -/
theorem scanDigits_append (ends : EndsDigits rest) :
    scanDigits (digits.chars ++ rest) = .ok (digits.chars, rest) := by
  rw [scanDigits, digits.span_append ends]
  rfl

end Digits

/-- A power of ten after the digits of a number. -/
structure Power where
  /-- The letter that marks it. -/
  mark : Char
  /-- The letter is small or capital. -/
  isMark : mark = 'e' ∨ mark = 'E'
  /-- The sign, if one is written. -/
  sign : List Char
  /-- There is at most one sign. -/
  isSign : sign = [] ∨ sign = ['+'] ∨ sign = ['-']
  /-- The digits of the power. -/
  digits : Digits

/-- The power as a number. -/
def Power.value (power : Power) : Int :=
  if power.sign = ['-'] then -(digitsValue power.digits.chars : Int)
  else digitsValue power.digits.chars

/-- A number as it is spelled. -/
structure Number where
  /-- Whether a sign stands before it. -/
  negative : Bool
  /-- The digits before the point. -/
  whole : Digits
  /-- A zero is not followed by other digits. -/
  proper : whole.first = '0' → whole.more = []
  /-- The digits after the point, if there is one. -/
  fraction : Option Digits
  /-- The power of ten, if there is one. -/
  power : Option Power

/-- What follows a number does not go on with it. -/
def EndsNumber (rest : List Char) : Prop :=
  ∀ c, rest.head? = some c → c.isDigit = false ∧ c ≠ '.' ∧ c ≠ 'e' ∧ c ≠ 'E'

/-- What follows a number is no digit. -/
theorem EndsNumber.endsDigits {rest : List Char} (ends : EndsNumber rest) : EndsDigits rest :=
  fun c head => (ends c head).1

/-- What follows a number is no small mark of a power. -/
theorem EndsNumber.ne_small {rest : List Char} (ends : EndsNumber rest) (text : List Char) :
    rest ≠ 'e' :: text := by
  rintro rfl
  exact (ends 'e' rfl).2.2.1 rfl

/-- What follows a number is no capital mark of a power. -/
theorem EndsNumber.ne_capital {rest : List Char} (ends : EndsNumber rest) (text : List Char) :
    rest ≠ 'E' :: text := by
  rintro rfl
  exact (ends 'E' rfl).2.2.2 rfl

namespace Number

/-- The point and the digits after it. -/
def afterPoint (number : Number) : List Char :=
  match number.fraction with
  | some digits => '.' :: digits.chars
  | none => []

/-- The power of ten with its mark. -/
def afterMark (number : Number) : List Char :=
  match number.power with
  | some power => power.mark :: (power.sign ++ power.digits.chars)
  | none => []

/-- The spelling of a number after its sign. -/
def unsigned (number : Number) : List Char :=
  number.whole.chars ++ (number.afterPoint ++ number.afterMark)

/-- The spelling of a number. -/
def spelling (number : Number) : List Char :=
  if number.negative then '-' :: number.unsigned else number.unsigned

variable (number : Number) {rest : List Char}

/-- The digits before a power of ten end where it begins. -/
theorem endsDigits_afterMark (ends : EndsNumber rest) : EndsDigits (number.afterMark ++ rest) := by
  intro c head
  unfold afterMark at head
  split at head
  · rename_i power _
    obtain rfl : power.mark = c := by simpa using head
    rcases power.isMark with mark | mark <;> rw [mark] <;> rfl
  · exact (ends c head).1

/-- No point stands where the power of ten begins. -/
theorem afterMark_ne_point (ends : EndsNumber rest) (text : List Char) :
    number.afterMark ++ rest ≠ '.' :: text := by
  intro same
  unfold afterMark at same
  split at same
  · rename_i power _
    obtain mark : power.mark = '.' := by simpa using (List.cons.inj same).1
    rcases power.isMark with other | other <;> rw [other] at mark <;> cases mark
  · exact (ends '.' (by rw [← List.nil_append rest, same]; rfl)).2.1 rfl

/-- The digits before the point end where it stands. -/
theorem endsDigits_afterPoint (ends : EndsNumber rest) :
    EndsDigits (number.afterPoint ++ (number.afterMark ++ rest)) := by
  intro c head
  unfold afterPoint at head
  split at head
  · obtain rfl : '.' = c := by simpa using head
    rfl
  · exact number.endsDigits_afterMark ends c head

/-- A number of more digits than one does not begin with a zero. -/
theorem not_leading_zero :
    ¬ (number.whole.chars.length ≠ 1 ∧ number.whole.chars.head? = some '0') := by
  rintro ⟨long, zero⟩
  have none := number.proper (by simpa [Digits.chars] using zero)
  exact long (by simp [Digits.chars, none])

end Number

/-- Takes a point and the digits after it, if they are there. -/
def skipFraction : Scanner Unit
  | '.' :: text => skipDigits text
  | text => pure ((), text)

/-- Takes a sign, if it is there, and the digits after it. -/
def skipSigned : Scanner Unit
  | '-' :: text | '+' :: text => skipDigits text
  | text => skipDigits text

/-- Takes a power of ten, if it is there. -/
def skipPower : Scanner Unit
  | 'e' :: text | 'E' :: text => skipSigned text
  | text => pure ((), text)

/-- A number that nobody wants is taken part by part. -/
theorem skipNumber_eq (text : List Char) :
    skipNumber text = (do
      let (_, after) ← skipDigits text
      if (text.takeWhile Char.isDigit).length ≠ 1 ∧ (text.takeWhile Char.isDigit).head? = some '0'
      then throw .malformed
      let (_, after) ← skipFraction after
      skipPower after) := by
  unfold skipNumber
  rcases skipDigits text with fault | ⟨_, after⟩
  · rfl
  · dsimp only [ok_bind]
    split
    · rfl
    · split
      · rfl
      · rename_i other
        rw [skipFraction.eq_2 _ other]
        rfl

/-- Takes a point and the digits after it, if they are there, for the digits. -/
def scanFraction : Scanner (Option (List Char))
  | '.' :: text => do
    let (fraction, text) ← scanDigits text
    pure (some fraction, text)
  | text => pure (none, text)

/-- Takes a power of ten, if it is there, for the power. -/
def scanMarked : Scanner (Option Int)
  | 'e' :: text | 'E' :: text => do
    let (power, text) ← scanPower text
    pure (some power, text)
  | text => pure (none, text)

/-- Makes a numeral of the parts of a number; a number that is too large is malformed. -/
def finishNumber (negative : Bool) (digits : List Char) (fraction : Option (List Char))
    (power : Option Int) : Scanner Numeral := fun text => do
  match fraction, power with
  | none, none =>
    let number := Numeral.ofDigits negative (digitsValue digits)
    match number with
    | .fraction d => if isHuge d then throw .malformed
    | .whole _ => pure ()
    return (number, text)
  | _, _ =>
    let after := fraction.getD []
    let number := Decimal.ofParts negative (digitsValue (digits ++ after))
      (power.getD 0 - after.length)
    if isHuge number then throw .malformed
    return (.fraction number, text)

/-- A number is taken part by part. -/
theorem scanNumber_eq (negative : Bool) (text : List Char) :
    scanNumber negative text = (do
      let (digits, after) ← scanDigits text
      if digits.length ≠ 1 ∧ digits.head? = some '0' then throw .malformed
      let (fraction, after) ← scanFraction after
      let (power, after) ← scanMarked after
      finishNumber negative digits fraction power after) := by
  unfold scanNumber
  rcases scanDigits text with fault | ⟨digits, after⟩
  · rfl
  simp only [ok_bind]
  split
  · rfl
  split
  · rename_i after
    rw [scanFraction.eq_1]
    rcases scanDigits after with fault | ⟨fraction, after⟩
    · rfl
    simp only [ok_bind, pure_bind]
    split
    · rename_i after
      rw [scanMarked.eq_1]
      rcases scanPower after <;> rfl
    · rename_i after
      rw [scanMarked.eq_2]
      rcases scanPower after <;> rfl
    · rename_i small capital
      rw [scanMarked.eq_3 _ small capital]
      rfl
  · rename_i other
    rw [scanFraction.eq_2 _ other]
    simp only [pure_bind]
    split
    · rename_i after
      rw [scanMarked.eq_1]
      rcases scanPower after <;> rfl
    · rename_i after
      rw [scanMarked.eq_2]
      rcases scanPower after <;> rfl
    · rename_i small capital
      rw [scanMarked.eq_3 _ small capital]
      rfl

namespace Power

variable (power : Power) {rest : List Char}

/-- A power of ten that nobody wants is passed over. -/
theorem skipPower_append (ends : EndsDigits rest) :
    skipPower (power.mark :: (power.sign ++ power.digits.chars) ++ rest) = .ok ((), rest) := by
  have marked (text : List Char) : skipPower (power.mark :: text) = skipSigned text := by
    rcases power.isMark with mark | mark <;> rw [mark]
    · rfl
    · rfl
  have skip := power.digits.skipDigits_append ends
  rw [List.cons_append, List.append_assoc, marked]
  rcases power.isSign with sign | sign | sign <;> rw [sign]
  · rw [List.nil_append, skipSigned.eq_3 _ (power.digits.append_ne_cons rfl)
      (power.digits.append_ne_cons rfl)]
    exact skip
  · exact skip
  · exact skip

/-- A power of ten is taken with its value. -/
theorem scanPower_append (ends : EndsDigits rest) :
    scanPower (power.sign ++ (power.digits.chars ++ rest)) = .ok (power.value, rest) := by
  have scan := power.digits.scanDigits_append ends
  rw [value]
  rcases power.isSign with sign | sign | sign <;> rw [sign]
  · rw [List.nil_append, scanPower]
    · dsimp only
      rw [scan]
      rfl
    · exact power.digits.append_ne_cons rfl
    · exact power.digits.append_ne_cons rfl
  · simp [scanPower, scan, pure, Except.pure]
  · simp [scanPower, scan, pure, Except.pure]

/-- A power of ten with its mark is taken with its value. -/
theorem scanMarked_append (ends : EndsDigits rest) :
    scanMarked (power.mark :: (power.sign ++ power.digits.chars) ++ rest) =
      .ok (some power.value, rest) := by
  have marked (text : List Char) : scanMarked (power.mark :: text) = (do
      let (power, text) ← scanPower text
      pure (some power, text)) := by
    rcases power.isMark with mark | mark <;> rw [mark]
    · rfl
    · rfl
  rw [List.cons_append, List.append_assoc, marked, power.scanPower_append ends]
  rfl

end Power

namespace Number

variable (number : Number) {rest : List Char}

/-- The point and the digits after it are passed over, if they are there. -/
theorem skipFraction_afterPoint (ends : EndsNumber rest) :
    skipFraction (number.afterPoint ++ (number.afterMark ++ rest)) =
      .ok ((), number.afterMark ++ rest) := by
  unfold afterPoint
  split
  · rename_i digits _
    exact digits.skipDigits_append (number.endsDigits_afterMark ends)
  · rw [List.nil_append]
    unfold skipFraction
    split
    · rename_i text same
      exact absurd same (number.afterMark_ne_point ends text)
    · rfl

/-- The power of ten is passed over, if it is there. -/
theorem skipPower_afterMark (ends : EndsNumber rest) :
    skipPower (number.afterMark ++ rest) = .ok ((), rest) := by
  unfold afterMark
  split
  · rename_i power _
    exact power.skipPower_append ends.endsDigits
  · exact skipPower.eq_3 rest ends.ne_small ends.ne_capital

/-- A number that nobody wants is passed over. -/
theorem skipNumber_unsigned (ends : EndsNumber rest) :
    skipNumber (number.unsigned ++ rest) = .ok ((), rest) := by
  rw [unsigned, List.append_assoc, List.append_assoc, skipNumber_eq,
    number.whole.skipDigits_append (number.endsDigits_afterPoint ends),
    number.whole.takeWhile_append (number.endsDigits_afterPoint ends), ok_bind]
  dsimp only
  rw [if_neg number.not_leading_zero, number.skipFraction_afterPoint ends]
  exact number.skipPower_afterMark ends

/-- The digits after the point are taken, if they are there. -/
theorem scanFraction_afterPoint (ends : EndsNumber rest) :
    scanFraction (number.afterPoint ++ (number.afterMark ++ rest)) =
      .ok (number.fraction.map Digits.chars, number.afterMark ++ rest) := by
  unfold afterPoint
  split
  · rename_i digits fraction
    rw [fraction, List.cons_append, scanFraction.eq_1,
      digits.scanDigits_append (number.endsDigits_afterMark ends)]
    rfl
  · rename_i fraction
    rw [fraction, List.nil_append, scanFraction.eq_2 _ (number.afterMark_ne_point ends)]
    rfl

/-- The power of ten is taken, if it is there. -/
theorem scanMarked_afterMark (ends : EndsNumber rest) :
    scanMarked (number.afterMark ++ rest) = .ok (number.power.map Power.value, rest) := by
  unfold afterMark
  split
  · rename_i power marked
    rw [marked]
    exact power.scanMarked_append ends.endsDigits
  · rename_i marked
    rw [marked]
    exact scanMarked.eq_3 rest ends.ne_small ends.ne_capital

/-- A number is read as what its parts make. -/
theorem scanNumber_unsigned (ends : EndsNumber rest) :
    scanNumber number.negative (number.unsigned ++ rest) =
      finishNumber number.negative number.whole.chars (number.fraction.map Digits.chars)
        (number.power.map Power.value) rest := by
  rw [unsigned, List.append_assoc, List.append_assoc, scanNumber_eq,
    number.whole.scanDigits_append (number.endsDigits_afterPoint ends), ok_bind]
  dsimp only
  rw [if_neg number.not_leading_zero, number.scanFraction_afterPoint ends, ok_bind]
  dsimp only
  rw [number.scanMarked_afterMark ends, ok_bind]

end Number

end LanguageClient.Json
