import LanguageClient.Proofs.DocumentNotices
import LanguageClient.Proofs.Walks

/-!
# URLs of places

A place is told from its URL: decoding gives back each name that was encoded (`decode_encode`), and
the slashes between the encoded names are the only ones. A canonical place is also told from its
path, and the steps of that path are its names (`steps_path`).
-/

namespace LanguageClient

namespace Percent

/-! ## Encoded names -/

/-- A digit in base sixteen is an ASCII character and is read back. -/
theorem encodeChar_digit : ∀ n < 16, ∃ byte : UInt8,
    String.utf8EncodeChar (digit n) = [byte] ∧ value? byte = some n := by
  have read : ∀ n < 16, (String.utf8EncodeChar (digit n)).length = 1 ∧
      (String.utf8EncodeChar (digit n)).head?.bind value? = some n := by
    decide
  intro n small
  obtain ⟨single, value⟩ := read n small
  obtain ⟨byte, only⟩ := List.length_eq_one_iff.mp single
  exact ⟨byte, only, by simpa [only] using value⟩

/-- An escape is read back as the byte that it stands for. -/
theorem decode_escape (byte : UInt8) (rest : List UInt8) :
    decode (Utf8.encode (escape byte) ++ rest) = byte :: decode rest := by
  have small : byte.toNat < 256 := byte.toNat_lt
  obtain ⟨high, highDigit, highValue⟩ := encodeChar_digit (byte.toNat / 16) (by omega)
  obtain ⟨low, lowDigit, lowValue⟩ := encodeChar_digit (byte.toNat % 16) (by omega)
  have sum : byte.toNat / 16 * 16 + byte.toNat % 16 = byte.toNat := by omega
  have percent : String.utf8EncodeChar '%' = [0x25] := by decide
  simp only [escape, Utf8.encode, List.flatMap_cons, List.flatMap_nil, percent, highDigit, lowDigit,
    List.cons_append, List.nil_append, decode, highValue, lowValue, sum, UInt8.ofNat_toNat]

/-- A byte that is no percent sign is read as it is. -/
theorem decode_cons {byte : UInt8} (plain : byte ≠ 0x25) (rest : List UInt8) :
    decode (byte :: rest) = byte :: decode rest := by
  refine decode.eq_3 byte rest ?_
  intro high low more percent
  exact absurd percent plain

/-- Every byte is the number of a character. -/
theorem toNat_character (byte : UInt8) : (Char.ofNat byte.toNat).toNat = byte.toNat := by
  have small : byte.toNat < 256 := byte.toNat_lt
  have valid : byte.toNat.isValidChar := Or.inl (by omega)
  rw [Char.ofNat, dif_pos valid]
  rfl

/-- An ASCII character is its own byte. -/
theorem encodeChar_ofNat {byte : UInt8} (ascii : byte.toNat < 0x80) :
    String.utf8EncodeChar (Char.ofNat byte.toNat) = [byte] := by
  have number : (Char.ofNat byte.toNat).val.toNat = byte.toNat := toNat_character byte
  unfold String.utf8EncodeChar
  simp only [number]
  rw [if_pos (by omega)]
  simp

/-- What a set of characters has to hold so that what is encoded can be read back. -/
structure Readable (encoded : Char → Bool) : Prop where
  /-- The percent sign itself is encoded. -/
  percent : encoded '%' = true
  /-- So is all that is no ASCII character. -/
  beyond : ∀ c, 0x80 ≤ c.toNat → encoded c = true

/-- Encoded bytes are read back. -/
theorem decode_encodeBytes {encoded : Char → Bool} (readable : Readable encoded)
    (bytes : List UInt8) : decode (Utf8.encode (encodeBytes encoded bytes)) = bytes := by
  have encode_append (front back : List Char) :
      Utf8.encode (front ++ back) = Utf8.encode front ++ Utf8.encode back := List.flatMap_append
  induction bytes with
  | nil => rfl
  | cons byte rest ih =>
    rw [encodeBytes, List.flatMap_cons, encode_append]
    by_cases hidden : encoded (Char.ofNat byte.toNat) = true
    · rw [encodeByte, if_pos hidden, decode_escape]
      exact congrArg (byte :: ·) ih
    · have ascii : byte.toNat < 0x80 := by
        apply Nat.lt_of_not_le
        intro beyond
        exact hidden (readable.beyond _ (by rwa [toNat_character]))
      have plain : byte ≠ 0x25 := by
        rintro rfl
        exact hidden readable.percent
      rw [encodeByte, if_neg hidden]
      simp only [Utf8.encode, List.flatMap_cons, List.flatMap_nil, encodeChar_ofNat ascii,
        List.cons_append, List.nil_append, decode_cons plain]
      exact congrArg (byte :: ·) ih

/-- What is encoded in the name of a file can be read back. -/
theorem readable_fileName : Readable fileName := by
  constructor
  · decide
  · intro c beyond
    have control : control c = true := by
      simp only [control, Bool.or_eq_true, decide_eq_true_eq]
      omega
    simp [fileName, path, fragment, control]

/-- No two names are encoded alike. -/
theorem encodeBytes_inj {name other : List UInt8}
    (same : encodeBytes fileName name = encodeBytes fileName other) : name = other := by
  rw [← decode_encodeBytes readable_fileName name, same, decode_encodeBytes readable_fileName]

/-- No slash stands in an encoded name. -/
theorem slash_not_mem_encodeBytes (name : List UInt8) : '/' ∉ encodeBytes fileName name := by
  have digits : ∀ n < 16, digit n ≠ '/' := by decide
  have plain : fileName '/' = true := by decide
  unfold encodeBytes
  rw [List.mem_flatMap]
  rintro ⟨byte, -, inside⟩
  have small : byte.toNat < 256 := byte.toNat_lt
  unfold encodeByte at inside
  split at inside
  · have high := digits (byte.toNat / 16) (by omega)
    have low := digits (byte.toNat % 16) (by omega)
    simp [escape, high.symm, low.symm] at inside
  · rename_i shown
    rw [← List.mem_singleton.mp inside] at shown
    exact shown plain

end Percent

/-! ## What stands between separators -/

/-- Pieces that hold no separator are found again between separators. -/
theorem splitOn_flatMap {α : Type} [BEq α] [LawfulBEq α] {separator : α} (first : List α)
    (others : List (List α)) (whole : ∀ piece ∈ first :: others, separator ∉ piece) :
    (first ++ others.flatMap (separator :: ·)).splitOn separator = first :: others := by
  induction others generalizing first with
  | nil =>
    rw [List.flatMap_nil, List.append_nil]
    exact List.splitOn_eq_singleton (whole first List.mem_cons_self)
  | cons next rest ih =>
    have single := List.splitOn_eq_singleton (whole first List.mem_cons_self)
    have others := ih next fun piece member => whole piece (List.mem_cons_of_mem _ member)
    rw [List.flatMap_cons, List.cons_append, List.splitOn_append_cons_self, single, others]
    rfl

namespace Path

/-- What stands between slashes holds none, and is part of the whole. -/
theorem of_mem_splitOn {name : FileName} {bytes : List UInt8} (piece : name ∈ bytes.splitOn slash) :
    slash ∉ name ∧ name ⊆ bytes := by
  induction bytes generalizing name with
  | nil =>
    rw [List.splitOn_nil, List.mem_singleton] at piece
    simp [piece]
  | cons byte rest ih =>
    rw [List.splitOn_cons_eq_if_modifyHead] at piece
    obtain ⟨first, others, split⟩ := List.exists_cons_of_ne_nil (List.splitOn_ne_nil slash rest)
    rw [split] at piece ih
    by_cases isSlash : byte = slash
    · simp only [isSlash, BEq.rfl, if_true, List.mem_cons] at piece
      rcases piece with rfl | piece
      · simp
      · obtain ⟨whole, inside⟩ := ih (List.mem_cons.mpr piece)
        exact ⟨whole, List.subset_cons_of_subset _ inside⟩
    · simp only [beq_iff_eq, isSlash, if_false, List.modifyHead_cons, List.mem_cons] at piece
      rcases piece with rfl | piece
      · obtain ⟨whole, inside⟩ := ih List.mem_cons_self
        refine ⟨by simp [whole, Ne.symm isSlash], ?_⟩
        exact List.cons_subset_cons byte inside
      · obtain ⟨whole, inside⟩ := ih (List.mem_cons_of_mem _ piece)
        exact ⟨whole, List.subset_cons_of_subset _ inside⟩

/-- A step of a path is a component of it, or the dot that stands for a final slash. -/
theorem mem_steps {path : Path} {step : FileName} (asked : step ∈ path.steps) :
    step ≠ [] ∧ step ∈ path.pieces ∨ step = here := by
  have named {name : FileName} (member : name ∈ path.names) : name ≠ [] ∧ name ∈ path.pieces := by
    obtain ⟨piece, filled⟩ := List.mem_filter.mp member
    exact ⟨of_decide_eq_true filled, piece⟩
  by_cases ended : path.names ≠ [] ∧ path.bytes.getLast? = some slash
  · have steps : path.steps = path.names ++ [here] := if_pos ended
    rw [steps, List.mem_append, List.mem_singleton] at asked
    exact asked.imp_left named
  · have steps : path.steps = path.names := if_neg ended
    rw [steps] at asked
    exact .inl (named asked)

/-- Every step of a path can stand between two slashes. -/
theorem isComponent_of_mem_steps {path : Path} {step : FileName} (asked : step ∈ path.steps) :
    IsComponent step := by
  rcases mem_steps asked with ⟨filled, piece⟩ | rfl
  · exact ⟨filled, (of_mem_splitOn piece).1⟩
  · exact ⟨by decide, by decide⟩

/-- The steps of a path without the null byte are without it. -/
theorem plain_of_mem_steps {path : Path} {step : FileName} (plain : 0 ∉ path.bytes)
    (asked : step ∈ path.steps) : 0 ∉ step := by
  rcases mem_steps asked with ⟨-, piece⟩ | rfl
  · exact fun null => plain ((of_mem_splitOn piece).2 null)
  · decide

end Path

namespace Place

variable {place other : Place}

/-- The path of a place is absolute. -/
theorem isAbsolute_path (place : Place) : place.path.isAbsolute = true := by
  cases place <;> simp [path, Path.isAbsolute]

/-- The path of a place does not end in a slash. -/
theorem getLast?_flatMap (place : Place) (below : place ≠ [])
    (spelled : ∀ name ∈ place, Path.IsComponent name) :
    (place.flatMap (Path.slash :: ·)).getLast? ≠ some Path.slash := by
  obtain ⟨front, name, rfl⟩ := (List.eq_nil_or_concat place).resolve_left below
  rw [List.concat_eq_append] at spelled ⊢
  rw [List.flatMap_append, List.flatMap_singleton, ← List.singleton_append, ← List.append_assoc]
  exact (spelled name (by simp)).getLast?_append _

/-- The names of a place are the steps of its path. -/
theorem steps_path (spelled : ∀ name ∈ place, Path.IsComponent name) :
    place.path.steps = place := by
  cases place with
  | nil => decide
  | cons first rest =>
    have bytes : (path (first :: rest)).bytes = (first :: rest).flatMap (Path.slash :: ·) := rfl
    have whole : ∀ piece ∈ [] :: first :: rest, Path.slash ∉ piece := by
      intro piece member
      rcases List.mem_cons.mp member with rfl | member
      · simp
      · exact (spelled piece member).whole
    have pieces : (path (first :: rest)).pieces = [] :: first :: rest := by
      rw [Path.pieces, bytes]
      exact splitOn_flatMap [] (first :: rest) whole
    have names : (path (first :: rest)).names = first :: rest := by
      rw [Path.names, pieces, List.filter_cons_of_neg (by simp), List.filter_eq_self]
      intro name member
      exact decide_eq_true (spelled name member).filled
    have last := getLast?_flatMap (first :: rest) (List.cons_ne_nil _ _) spelled
    rw [Path.steps_eq_names (by rw [bytes]; exact last), names]

/-- Two places with one path are one place. -/
theorem path_inj (spelled : ∀ name ∈ place, Path.IsComponent name)
    (spelledToo : ∀ name ∈ other, Path.IsComponent name) :
    place.path = other.path ↔ place = other := by
  constructor
  · intro same
    rw [← steps_path spelled, same, steps_path spelledToo]
  · rintro rfl
    rfl

/-- The encoded names of a place are found again in the path of its URL. -/
theorem names_url (spelled : ∀ name ∈ place, Path.IsComponent name) :
    (place.url.path.toList.splitOn '/').filter (· ≠ []) =
      place.map (Percent.encodeBytes Percent.fileName) := by
  cases place with
  | nil => decide
  | cons first rest =>
    have text : (url (first :: rest)).path.toList =
        [] ++ ((first :: rest).map (Percent.encodeBytes Percent.fileName)).flatMap ('/' :: ·) := by
      simp [url, List.flatMap_map]
    rw [text, splitOn_flatMap, List.filter_cons_of_neg (by simp), List.filter_eq_self]
    · simp only [List.forall_mem_map, decide_eq_true_eq]
      intro name member empty
      have decoded := Percent.decode_encodeBytes Percent.readable_fileName name
      rw [empty] at decoded
      exact (spelled name member).filled decoded.symm
    · intro piece member
      rcases List.mem_cons.mp member with rfl | member
      · simp
      · obtain ⟨name, -, rfl⟩ := List.mem_map.mp member
        exact Percent.slash_not_mem_encodeBytes name

/-- Two places with one URL are one place. -/
theorem url_inj (spelled : ∀ name ∈ place, Path.IsComponent name)
    (spelledToo : ∀ name ∈ other, Path.IsComponent name) :
    place.url = other.url ↔ place = other := by
  constructor
  · intro same
    have encoded := names_url spelled
    rw [same, names_url spelledToo] at encoded
    exact (List.map_injective_iff.mpr (fun _ _ => Percent.encodeBytes_inj) encoded).symm
  · rintro rfl
    rfl

end Place

end LanguageClient
