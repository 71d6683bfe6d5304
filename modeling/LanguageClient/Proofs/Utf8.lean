import LanguageClient.Text.Utf8

/-!
# Text survives as bytes

The bytes of a text are shown as that text: `front_encode` reads one character back from the bytes
that it was written as, whatever follows, and `display_ofString` the whole text.
-/

namespace LanguageClient.Utf8

/-- A byte that continues a character, from the bits that it carries. -/
def continuing (bits : Nat) : UInt8 := UInt8.ofNat (bits % 64 + 0x80)

/-- The number of a continuing byte. -/
theorem toNat_continuing (bits : Nat) : (continuing bits).toNat = bits % 64 + 0x80 :=
  UInt8.toNat_ofNat_of_lt' (show _ < 256 by omega)

/-- A continuing byte is in a range if its six bits are. -/
theorem continuing_between {low high : UInt8} {bits : Nat} (above : low.toNat ≤ bits % 64 + 0x80)
    (below : bits % 64 + 0x80 ≤ high.toNat) :
    (low ≤ continuing bits && continuing bits ≤ high) = true := by
  simp only [Bool.and_eq_true, decide_eq_true_eq, UInt8.le_iff_toNat_le, toNat_continuing]
  exact ⟨above, below⟩

/-- A continuing byte is one. -/
theorem isContinuation_continuing (bits : Nat) : isContinuation (continuing bits) = true := by
  apply continuing_between <;> simp only [UInt8.reduceToNat] <;> omega

/-- A continuing byte gives back its six bits. -/
theorem payload_continuing (bits : Nat) : payload (continuing bits) = bits % 64 := by
  rw [payload, toNat_continuing]
  omega

/-- The second of three bytes is allowed if the character is not written too long and is no
surrogate. -/
theorem secondOfThree_continuing {lead : UInt8} {bits : Nat}
    (long : lead = 0xe0 → 32 ≤ bits % 64) (scalar : lead = 0xed → bits % 64 < 32) :
    secondOfThree lead (continuing bits) = true := by
  unfold secondOfThree
  split
  · rename_i first
    have enough := long first
    apply continuing_between <;> simp only [UInt8.reduceToNat] <;> omega
  split
  · rename_i first
    have below := scalar first
    apply continuing_between <;> simp only [UInt8.reduceToNat] <;> omega
  · exact isContinuation_continuing bits

/-- The second of four bytes is allowed if the character is not written too long and not too
great. -/
theorem secondOfFour_continuing {lead : UInt8} {bits : Nat}
    (long : lead = 0xf0 → 16 ≤ bits % 64) (small : lead = 0xf4 → bits % 64 < 16) :
    secondOfFour lead (continuing bits) = true := by
  unfold secondOfFour
  split
  · rename_i first
    have enough := long first
    apply continuing_between <;> simp only [UInt8.reduceToNat] <;> omega
  split
  · rename_i first
    have below := small first
    apply continuing_between <;> simp only [UInt8.reduceToNat] <;> omega
  · exact isContinuation_continuing bits

/-- How a leading byte compares with a bound is how its number does. -/
theorem ofNat_le {n : Nat} {bound : UInt8} (small : n < 256) :
    UInt8.ofNat n ≤ bound ↔ n ≤ bound.toNat := by
  rw [UInt8.le_iff_toNat_le, UInt8.toNat_ofNat_of_lt' small]

/-- A small number is a byte of its own size, above a bound if the number is. -/
theorem le_ofNat {n : Nat} {bound : UInt8} (small : n < 256) :
    bound ≤ UInt8.ofNat n ↔ bound.toNat ≤ n := by
  rw [UInt8.le_iff_toNat_le, UInt8.toNat_ofNat_of_lt' small]

/-- A small number is a byte of its own size, below a bound if the number is. -/
theorem ofNat_lt {n : Nat} {bound : UInt8} (small : n < 256) :
    UInt8.ofNat n < bound ↔ n < bound.toNat := by
  rw [UInt8.lt_iff_toNat_lt, UInt8.toNat_ofNat_of_lt' small]

/-- A small number is the byte of its own size. -/
theorem ofNat_eq {n : Nat} {byte : UInt8} (small : n < 256) :
    UInt8.ofNat n = byte ↔ n = byte.toNat := by
  rw [← UInt8.toNat_inj, UInt8.toNat_ofNat_of_lt' small]

/-- A character below 128 is its own byte. -/
theorem front_one {n : Nat} (small : n < 0x80) (rest : List UInt8) :
    front (UInt8.ofNat n) rest = (.character (Char.ofNat n), 0) := by
  have first : UInt8.ofNat n < 0x80 := (ofNat_lt (by omega)).mpr small
  rw [front.eq_def, if_pos first, UInt8.toNat_ofNat_of_lt' (show _ < 256 by omega)]

/-- A character of two bytes. -/
theorem front_two {n : Nat} (low : 0x80 ≤ n) (high : n < 0x800) (rest : List UInt8) :
    front (UInt8.ofNat (n / 64 + 0xc0)) (continuing n :: rest) =
      (.character (Char.ofNat n), 1) := by
  have byte : n / 64 + 0xc0 < 256 := by omega
  have number : (n / 64 + 0xc0 - 0xc0) * 64 + n % 64 = n := by omega
  simp only [front, ofNat_lt byte, ofNat_le byte, le_ofNat byte, UInt8.toNat_ofNat_of_lt' byte,
    isContinuation_continuing, payload_continuing, UInt8.reduceToNat, Bool.and_eq_true,
    decide_eq_true_eq]
  rw [if_neg (by omega), if_pos (by omega)]
  simp only [if_true, number]

/-- A character of three bytes; none of them is half of a surrogate pair. -/
theorem front_three {n : Nat} (low : 0x800 ≤ n) (high : n < 0x10000)
    (scalar : n < 0xd800 ∨ 0xdfff < n) (rest : List UInt8) :
    front (UInt8.ofNat (n / 4096 + 0xe0)) (continuing (n / 64) :: continuing n :: rest) =
      (.character (Char.ofNat n), 2) := by
  have byte : n / 4096 + 0xe0 < 256 := by omega
  have number : (n / 4096 + 0xe0 - 0xe0) * 4096 + n / 64 % 64 * 64 + n % 64 = n := by omega
  have second : secondOfThree (UInt8.ofNat (n / 4096 + 0xe0)) (continuing (n / 64)) = true := by
    apply secondOfThree_continuing
    · simp only [ofNat_eq byte, UInt8.reduceToNat]
      omega
    · simp only [ofNat_eq byte, UInt8.reduceToNat]
      omega
  simp only [front, ofNat_lt byte, ofNat_le byte, le_ofNat byte, UInt8.toNat_ofNat_of_lt' byte,
    second, isContinuation_continuing, payload_continuing, UInt8.reduceToNat, Bool.and_eq_true,
    decide_eq_true_eq]
  rw [if_neg (by omega), if_neg (by omega), if_pos (by omega)]
  simp only [if_true, number]

/-- A character of four bytes. -/
theorem front_four {n : Nat} (low : 0x10000 ≤ n) (high : n < 0x110000) (rest : List UInt8) :
    front (UInt8.ofNat (n / 262144 + 0xf0))
        (continuing (n / 4096) :: continuing (n / 64) :: continuing n :: rest) =
      (.character (Char.ofNat n), 3) := by
  have byte : n / 262144 + 0xf0 < 256 := by omega
  have number : (n / 262144 + 0xf0 - 0xf0) * 262144 + n / 4096 % 64 * 4096 + n / 64 % 64 * 64
      + n % 64 = n := by omega
  have second : secondOfFour (UInt8.ofNat (n / 262144 + 0xf0)) (continuing (n / 4096)) = true := by
    apply secondOfFour_continuing
    · simp only [ofNat_eq byte, UInt8.reduceToNat]
      omega
    · simp only [ofNat_eq byte, UInt8.reduceToNat]
      omega
  simp only [front, ofNat_lt byte, ofNat_le byte, le_ofNat byte, UInt8.toNat_ofNat_of_lt' byte,
    second, isContinuation_continuing, payload_continuing, UInt8.reduceToNat, Bool.and_eq_true,
    decide_eq_true_eq]
  rw [if_neg (by omega), if_neg (by omega), if_neg (by omega), if_pos (by omega)]
  simp only [if_true, number]

/-- A character that stands in front is the first piece. -/
theorem fronts_of_front {lead : UInt8} {rest : List UInt8} {n taken : Nat}
    (read : front lead rest = (.character (Char.ofNat n), taken)) :
    fronts (lead :: rest) = .character (Char.ofNat n) :: fronts (rest.drop taken) := by
  rw [fronts, read]

/-- The bytes of a character read as that character, whatever follows. -/
theorem fronts_encodeChar (c : Char) (rest : List UInt8) :
    fronts (String.utf8EncodeChar c ++ rest) = .character c :: fronts rest := by
  have valid : c.toNat < 0xd800 ∨ 0xdfff < c.toNat ∧ c.toNat < 0x110000 := c.valid
  have named : Char.ofNat c.toNat = c := Char.ofNat_toNat c
  unfold String.utf8EncodeChar
  simp only [show c.val.toNat = c.toNat from rfl]
  split
  · have one := fronts_of_front (front_one (n := c.toNat) (by omega) rest)
    rw [named] at one
    exact one
  split
  -- below the bound of each length the leading byte loses none of its bits
  · have lead : c.toNat / 64 % 32 = c.toNat / 64 := by omega
    have two := fronts_of_front (front_two (n := c.toNat) (by omega) (by omega) rest)
    rw [named] at two
    rw [lead]
    exact two
  split
  · have lead : c.toNat / 4096 % 16 = c.toNat / 4096 := by omega
    have three := fronts_of_front
      (front_three (n := c.toNat) (by omega) (by omega) (by omega) rest)
    rw [named] at three
    rw [lead]
    exact three
  · have lead : c.toNat / 262144 % 8 = c.toNat / 262144 := by omega
    have four := fronts_of_front (front_four (n := c.toNat) (by omega) (by omega) rest)
    rw [named] at four
    rw [lead]
    exact four

/-- Encoded characters are read back piece by piece. -/
theorem fronts_encode (characters : List Char) :
    fronts (encode characters) = characters.map .character := by
  induction characters with
  | nil => rw [encode, List.flatMap_nil, fronts, List.map_nil]
  | cons c rest ih =>
    rw [encode, List.flatMap_cons, fronts_encodeChar, List.map_cons]
    exact congrArg _ ih

/-- The bytes of a text are shown as that text. -/
theorem display_ofString (text : String) : display (ofString text) = text := by
  rw [display, ofString, fronts_encode, List.map_map]
  exact (congrArg String.ofList (List.map_id _)).trans (String.ofList_toList)

/-- The bytes of a text are read as that text. -/
theorem toString?_ofString (text : String) : toString? (ofString text) = some text := by
  have all : text.toList.mapM (fun c => some c) = some text.toList := by
    simpa using List.mapM_pure (m := Option) (l := text.toList) (f := id)
  rw [toString?, decode?, ofString, fronts_encode, List.mapM_map]
  exact (congrArg (Option.map String.ofList) all).trans (congrArg some String.ofList_toList)

end LanguageClient.Utf8
