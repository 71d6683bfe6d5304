import LanguageClient.Proofs.JsonNumbers

/-!
# How values are spelled

The texts of JSON, as a grammar: a value is spelled with any blanks between its parts, its members
in any order and as often as one likes, nested to any depth. Whatever is spelled so can be skipped.
-/

namespace LanguageClient.Json

/-- A value as it is spelled, without the blanks between its parts. -/
inductive Term
  /-- Nothing. -/
  | null
  /-- One of the two truth values. -/
  | truth (value : Bool)
  /-- A number. -/
  | number (number : Number)
  /-- A quoted text. -/
  | text (literal : Literal)
  /-- A list. -/
  | list (items : List Term)
  /-- An object with its members in the order in which they are spelled. -/
  | object (members : List (Literal × Term))

/-- Whether a text is blank. -/
def IsBlanks (text : List Char) : Prop := ∀ c ∈ text, isBlank c = true

/-- An empty text is blank. -/
theorem isBlanks_nil : IsBlanks [] := by simp [IsBlanks]

/-- What stands before an item or a member: blanks, and a comma unless it is the first. -/
inductive Gap : Bool → List Char → Prop
  /-- Before the first one. -/
  | first {blanks : List Char} (isBlanks : IsBlanks blanks) : Gap true blanks
  /-- Before a later one. -/
  | later {before after : List Char} (isBefore : IsBlanks before) (isAfter : IsBlanks after) :
    Gap false (before ++ ',' :: after)

/-- A part of a text: a value, or what is left of a list or an object. -/
inductive Part
  /-- A value. -/
  | value (term : Term)
  /-- Items, the first of the list or later ones, and the closing bracket. -/
  | items (first : Bool) (items : List Term)
  /-- Members, the first of the object or later ones, and the closing brace. -/
  | members (first : Bool) (members : List (Literal × Term))

/-- How the parts of a text are spelled. -/
inductive Spells : Part → List Char → Prop
  /-- The word for nothing. -/
  | null : Spells (.value .null) ['n', 'u', 'l', 'l']
  /-- The word for true. -/
  | isTrue : Spells (.value (.truth true)) ['t', 'r', 'u', 'e']
  /-- The word for false. -/
  | isFalse : Spells (.value (.truth false)) ['f', 'a', 'l', 's', 'e']
  /-- A number. -/
  | number (number : Number) : Spells (.value (.number number)) number.spelling
  /-- A quoted text. -/
  | text (literal : Literal) : Spells (.value (.text literal)) ('"' :: literal.spelling)
  /-- A list. -/
  | list {items : List Term} {text : List Char} (inside : Spells (.items true items) text) :
    Spells (.value (.list items)) ('[' :: text)
  /-- An object. -/
  | object {members : List (Literal × Term)} {text : List Char}
    (inside : Spells (.members true members) text) :
    Spells (.value (.object members)) ('\x7b' :: text)
  /-- The end of a list. -/
  | noItems {first : Bool} {blanks : List Char} (isBlanks : IsBlanks blanks) :
    Spells (.items first []) (blanks ++ [']'])
  /-- One more item. -/
  | item {first : Bool} {gap text more : List Char} {item : Term} {items : List Term}
    (isGap : Gap first gap) (value : Spells (.value item) text)
    (others : Spells (.items false items) more) :
    Spells (.items first (item :: items)) (gap ++ (text ++ more))
  /-- The end of an object. -/
  | noMembers {first : Bool} {blanks : List Char} (isBlanks : IsBlanks blanks) :
    Spells (.members first []) (blanks ++ ['\x7d'])
  /-- One more member. -/
  | member {first : Bool} {gap before after text more : List Char} {key : Literal} {item : Term}
    {members : List (Literal × Term)} (isGap : Gap first gap) (isBefore : IsBlanks before)
    (isAfter : IsBlanks after) (value : Spells (.value item) text)
    (others : Spells (.members false members) more) :
    Spells (.members first ((key, item) :: members))
      (gap ++ '"' :: (key.spelling ++ (before ++ ':' :: (after ++ (text ++ more)))))

variable {term : Term} {first : Bool} {gap blanks text rest : List Char}

/-! ## What a text starts with -/

/-- Whether a text starts with something that is neither a blank nor one of the characters that
separate and close. -/
def StartsValue (text : List Char) : Prop :=
  ∃ c more, text = c :: more ∧ isBlank c = false ∧ c ≠ ',' ∧ c ≠ ']' ∧ c ≠ '\x7d'

/-- A digit starts a value. -/
theorem startsValue_of_isDigit {c : Char} (digit : c.isDigit = true) (more : List Char) :
    StartsValue (c :: more) := by
  have other {d : Char} := ne_of_isDigit (d := d) digit
  refine ⟨c, more, rfl, ?_, other rfl, other rfl, other rfl⟩
  simp [isBlank, other (d := ' ') rfl, other (d := '\n') rfl, other (d := '\t') rfl,
    other (d := '\r') rfl]

/-- What stands behind a text does not matter to how it starts. -/
theorem StartsValue.append (starts : StartsValue text) (rest : List Char) :
    StartsValue (text ++ rest) := by
  obtain ⟨c, more, rfl, free⟩ := starts
  exact ⟨c, more ++ rest, rfl, free⟩

/-- A number starts a value. -/
theorem Number.startsValue_spelling (number : Number) : StartsValue number.spelling := by
  unfold Number.spelling
  split
  · exact ⟨'-', _, rfl, by decide⟩
  · exact startsValue_of_isDigit (number.whole.digits _ List.mem_cons_self) _

/-- A number opens neither a quoted text nor a list nor an object. -/
theorem Number.opens_nothing (number : Number) :
    ∃ c more, number.spelling = c :: more ∧ c ≠ '"' ∧ c ≠ '[' ∧ c ≠ '\x7b' := by
  unfold Number.spelling
  split
  · exact ⟨'-', _, rfl, by decide⟩
  · have digit := number.whole.digits _ List.mem_cons_self
    exact ⟨_, _, rfl, ne_of_isDigit digit rfl, ne_of_isDigit digit rfl, ne_of_isDigit digit rfl⟩

/-- Every value is spelled with a start of its own. -/
theorem Spells.startsValue (spelled : Spells (.value term) text) : StartsValue text := by
  cases spelled with
  | null => exact ⟨_, _, rfl, by decide⟩
  | isTrue => exact ⟨_, _, rfl, by decide⟩
  | isFalse => exact ⟨_, _, rfl, by decide⟩
  | number number => exact number.startsValue_spelling
  | text literal => exact ⟨_, _, rfl, by decide⟩
  | list inside => exact ⟨_, _, rfl, by decide⟩
  | object inside => exact ⟨_, _, rfl, by decide⟩

/-- No part is spelled by nothing. -/
theorem Spells.length_pos {part : Part} (spelled : Spells part text) : 0 < text.length := by
  induction spelled with
  | number number =>
    obtain ⟨c, more, start, -⟩ := number.startsValue_spelling
    simp [start]
  | item isGap value others ihValue ihOthers =>
    simp only [List.length_append]
    omega
  | member isGap isBefore isAfter value others ihValue ihOthers =>
    simp only [List.length_append, List.length_cons]
    omega
  | _ => simp

/-- Blanks are passed over, however many there are. -/
theorem skipBlanks_append (isBlanks : IsBlanks blanks) (text : List Char) :
    skipBlanks (blanks ++ text) = skipBlanks text :=
  List.dropWhile_append_of_pos isBlanks

/-- Nothing is passed over where no blank stands. -/
theorem skipBlanks_cons {c : Char} (free : isBlank c = false) (text : List Char) :
    skipBlanks (c :: text) = c :: text :=
  List.dropWhile_cons_of_neg (by simp [free])

/-- Nothing is passed over before a value. -/
theorem StartsValue.skipBlanks_eq (starts : StartsValue text) : skipBlanks text = text := by
  obtain ⟨c, more, rfl, free, -⟩ := starts
  exact skipBlanks_cons free more

/-- A blank is neither a digit nor part of a number. -/
theorem ends_of_isBlank {c : Char} (blank : isBlank c = true) :
    c.isDigit = false ∧ c ≠ '.' ∧ c ≠ 'e' ∧ c ≠ 'E' := by
  simp only [isBlank, Bool.or_eq_true, decide_eq_true_eq] at blank
  rcases blank with ((rfl | rfl) | rfl) | rfl <;> decide

/-- Blanks end a number. -/
theorem endsNumber_blanks (isBlanks : IsBlanks blanks) : EndsNumber blanks :=
  fun _ head => ends_of_isBlank (isBlanks _ (List.mem_of_head? head))

/-- A number ends before blanks and a character that is no part of it. -/
theorem endsNumber_of_blanks {c : Char} (isBlanks : IsBlanks blanks)
    (free : c.isDigit = false ∧ c ≠ '.' ∧ c ≠ 'e' ∧ c ≠ 'E') (text : List Char) :
    EndsNumber (blanks ++ c :: text) := by
  intro d head
  cases blanks with
  | nil =>
    obtain rfl : c = d := by simpa using head
    exact free
  | cons blank blanks =>
    obtain rfl : blank = d := by simpa using head
    exact ends_of_isBlank (isBlanks blank List.mem_cons_self)

/-- A number ends before the gap that separates it from the next value. -/
theorem Gap.endsNumber (isGap : Gap false gap) (text : List Char) : EndsNumber (gap ++ text) := by
  cases isGap with
  | later isBefore isAfter =>
    rw [List.append_assoc]
    exact endsNumber_of_blanks isBefore (by decide) _

/-- After an item comes nothing that could belong to a number. -/
theorem Spells.endsNumber_items {items : List Term} (spelled : Spells (.items false items) text)
    (rest : List Char) : EndsNumber (text ++ rest) := by
  cases spelled with
  | noItems isBlanks =>
    rw [List.append_assoc]
    exact endsNumber_of_blanks isBlanks (by decide) _
  | item isGap value others =>
    rw [List.append_assoc]
    exact isGap.endsNumber _

/-- After a member comes nothing that could belong to a number. -/
theorem Spells.endsNumber_members {members : List (Literal × Term)}
    (spelled : Spells (.members false members) text) (rest : List Char) :
    EndsNumber (text ++ rest) := by
  cases spelled with
  | noMembers isBlanks =>
    rw [List.append_assoc]
    exact endsNumber_of_blanks isBlanks (by decide) _
  | member isGap isBefore isAfter value others =>
    rw [List.append_assoc]
    exact isGap.endsNumber _

/-! ## What nobody wants is skipped -/

/-- Takes a part that nobody wants. -/
def Part.skip : Part → Nat → Scanner Unit
  | .value _, fuel => skipValue fuel
  | .items first _, fuel => skipItems fuel first
  | .members first _, fuel => skipEntries fuel first

/-- A word is taken from before what follows it. -/
theorem scanWord_append (word rest : List Char) :
    scanWord word (word ++ rest) = .ok ((), rest) := by
  induction word with
  | nil => rfl
  | cons letter word ih => rw [List.cons_append, scanWord, if_pos rfl, ih]

/-- Blanks before a value are passed over with it. -/
theorem skipValue_blanks (isBlanks : IsBlanks blanks) (fuel : Nat) (text : List Char) :
    skipValue fuel (blanks ++ text) = skipValue fuel text := by
  cases fuel with
  | zero => rfl
  | succ fuel => rw [skipValue.eq_2, skipValue.eq_2, skipBlanks_append isBlanks]

/-- A value that starts with a digit is a number. -/
theorem skipValue_digit {c : Char} (digit : c.isDigit = true) (fuel : Nat) (text : List Char) :
    skipValue (fuel + 1) (c :: text) = skipNumber (c :: text) := by
  rw [skipValue, (startsValue_of_isDigit digit text).skipBlanks_eq]
  split
  case h_9 =>
    rename_i same
    cases same
    exact if_pos digit
  all_goals
    rename_i same
    cases same
  all_goals exact absurd digit (by decide)

/-- A number that nobody wants is passed over. -/
theorem skipValue_number (number : Number) (fuel : Nat) (ends : EndsNumber rest) :
    skipValue (fuel + 1) (number.spelling ++ rest) = .ok ((), rest) := by
  have skip := number.skipNumber_unsigned ends
  rw [Number.spelling]
  cases number.negative with
  | true => exact skip
  | false => exact (skipValue_digit (number.whole.digits _ List.mem_cons_self) fuel _).trans skip

/-- After a gap an item is passed over, and then the others. -/
theorem skipItems_gap (isGap : Gap first gap) (starts : StartsValue text) (fuel : Nat) :
    skipItems (fuel + 1) first (gap ++ text) = (do
      let (_, text) ← skipValue fuel text
      skipItems fuel false text) := by
  cases isGap with
  | first isBlanks =>
    obtain ⟨c, more, rfl, free, -, noBracket, -⟩ := starts
    rw [skipItems, skipBlanks_append isBlanks, skipBlanks_cons free]
    simp
  | later isBefore isAfter =>
    rw [List.append_assoc, List.cons_append, skipItems, skipBlanks_append isBefore,
      skipBlanks_cons (by decide)]
    simp [skipValue_blanks isAfter]

/-- After a gap and a key a value is passed over, and then the other members. -/
theorem skipEntries_gap (isGap : Gap first gap) (fuel : Nat) (key : Literal)
    (isBefore : IsBlanks blanks) (text : List Char) :
    skipEntries (fuel + 1) first (gap ++ '"' :: (key.spelling ++ (blanks ++ ':' :: text))) = (do
      let (_, text) ← skipValue fuel text
      skipEntries fuel false text) := by
  cases isGap with
  | first isBlanks =>
    rw [skipEntries, skipBlanks_append isBlanks, skipBlanks_cons (by decide)]
    simp [key.skipText_spelling, skipBlanks_append isBefore, skipBlanks_cons (c := ':') rfl]
  | later isBefore' isAfter =>
    rw [List.append_assoc, List.cons_append, skipEntries, skipBlanks_append isBefore',
      skipBlanks_cons (by decide)]
    simp [skipBlanks_append isAfter, skipBlanks_cons (c := '"') rfl, key.skipText_spelling,
      skipBlanks_append isBefore, skipBlanks_cons (c := ':') rfl]

/-- What is spelled is skipped to its end, whatever follows it. -/
theorem Spells.skip_eq {part : Part} (spelled : Spells part text) {fuel : Nat}
    (enough : text.length ≤ fuel) (ends : EndsNumber rest) :
    part.skip fuel (text ++ rest) = .ok ((), rest) := by
  induction spelled generalizing fuel rest with
  | null =>
    obtain ⟨fuel, rfl⟩ := Nat.exists_eq_succ_of_ne_zero (Nat.ne_zero_of_lt enough)
    exact scanWord_append ['u', 'l', 'l'] rest
  | isTrue =>
    obtain ⟨fuel, rfl⟩ := Nat.exists_eq_succ_of_ne_zero (Nat.ne_zero_of_lt enough)
    exact scanWord_append ['r', 'u', 'e'] rest
  | isFalse =>
    obtain ⟨fuel, rfl⟩ := Nat.exists_eq_succ_of_ne_zero (Nat.ne_zero_of_lt enough)
    exact scanWord_append ['a', 'l', 's', 'e'] rest
  | number number =>
    have long := (Spells.number number).length_pos
    obtain ⟨fuel, rfl⟩ : ∃ n, fuel = n + 1 := ⟨fuel - 1, by omega⟩
    exact skipValue_number number fuel ends
  | text literal =>
    obtain ⟨fuel, rfl⟩ := Nat.exists_eq_succ_of_ne_zero (Nat.ne_zero_of_lt enough)
    exact literal.skipText_spelling rest
  | list inside ih =>
    obtain ⟨fuel, rfl⟩ := Nat.exists_eq_succ_of_ne_zero (Nat.ne_zero_of_lt enough)
    exact ih (Nat.le_of_succ_le_succ enough) ends
  | object inside ih =>
    obtain ⟨fuel, rfl⟩ := Nat.exists_eq_succ_of_ne_zero (Nat.ne_zero_of_lt enough)
    exact ih (Nat.le_of_succ_le_succ enough) ends
  | noItems isBlanks =>
    obtain ⟨fuel, rfl⟩ : ∃ n, fuel = n + 1 := ⟨fuel - 1, by simp at enough; omega⟩
    rw [Part.skip, List.append_assoc, skipItems, skipBlanks_append isBlanks]
    rfl
  | @item _ gap text more _ _ isGap value others ihValue ihOthers =>
    have long := value.length_pos
    have close := others.length_pos
    simp only [List.length_append] at enough
    obtain ⟨fuel, rfl⟩ : ∃ n, fuel = n + 1 := ⟨fuel - 1, by omega⟩
    have skip : skipValue fuel (text ++ (more ++ rest)) = .ok ((), more ++ rest) :=
      ihValue (by omega) (others.endsNumber_items rest)
    rw [Part.skip, List.append_assoc, List.append_assoc,
      skipItems_gap isGap (value.startsValue.append _) fuel, skip]
    exact ihOthers (by omega) ends
  | noMembers isBlanks =>
    obtain ⟨fuel, rfl⟩ : ∃ n, fuel = n + 1 := ⟨fuel - 1, by simp at enough; omega⟩
    rw [Part.skip, List.append_assoc, skipEntries, skipBlanks_append isBlanks]
    rfl
  | @member _ gap before after text more key _ _ isGap isBefore isAfter value others ihValue
      ihOthers =>
    simp only [List.length_append, List.length_cons] at enough
    obtain ⟨fuel, rfl⟩ : ∃ n, fuel = n + 1 := ⟨fuel - 1, by omega⟩
    have skip : skipValue fuel (text ++ (more ++ rest)) = .ok ((), more ++ rest) :=
      ihValue (by omega) (others.endsNumber_members rest)
    simp only [Part.skip, List.append_assoc, List.cons_append]
    rw [skipEntries_gap isGap fuel key isBefore, skipValue_blanks isAfter, skip]
    exact ihOthers (by omega) ends

/-- A value is skipped to its end, after any blanks. -/
theorem skipValue_spelled (spelled : Spells (.value term) text) (isBlanks : IsBlanks blanks)
    {fuel : Nat} (enough : text.length ≤ fuel) (ends : EndsNumber rest) :
    skipValue fuel (blanks ++ (text ++ rest)) = .ok ((), rest) :=
  (skipValue_blanks isBlanks fuel _).trans (spelled.skip_eq enough ends)

end LanguageClient.Json
