import LanguageClient.Decimal

/-!
# JSON values

A JSON value keeps whole numbers and decimal fractions apart, since `5005` and `5005.0` are
different numbers to a reader that expects a port. The entries of an object stand in the order of
their keys, each key once; `Json.object` brings entries into that form.
-/

namespace LanguageClient

/-- A JSON value. -/
inductive Json
  /-- The null value. -/
  | null
  /-- A truth value. -/
  | bool (value : Bool)
  /-- A whole number. -/
  | int (value : Int)
  /-- A number with a decimal point. -/
  | float (value : Decimal)
  /-- A text. -/
  | str (value : String)
  /-- A list of values. -/
  | arr (items : List Json)
  /-- Values under keys. -/
  | obj (entries : List (String × Json))
deriving Repr, Inhabited

namespace Json

mutual

/-- Decides whether two values are the same. -/
def decideEq : (a b : Json) → Decidable (a = b)
  | .null, .null => isTrue rfl
  | .bool a, .bool b => decidable_of_iff (a = b) (by simp)
  | .int a, .int b => decidable_of_iff (a = b) (by simp)
  | .float a, .float b => decidable_of_iff (a = b) (by simp)
  | .str a, .str b => decidable_of_iff (a = b) (by simp)
  | .arr a, .arr b =>
    match decideEqItems a b with
    | isTrue same => isTrue (by rw [same])
    | isFalse other => isFalse fun same => other (by injection same)
  | .obj a, .obj b =>
    match decideEqEntries a b with
    | isTrue same => isTrue (by rw [same])
    | isFalse other => isFalse fun same => other (by injection same)
  | .null, .bool _ | .null, .int _ | .null, .float _ | .null, .str _ | .null, .arr _
  | .null, .obj _ | .bool _, .null | .bool _, .int _ | .bool _, .float _ | .bool _, .str _
  | .bool _, .arr _ | .bool _, .obj _ | .int _, .null | .int _, .bool _ | .int _, .float _
  | .int _, .str _ | .int _, .arr _ | .int _, .obj _ | .float _, .null | .float _, .bool _
  | .float _, .int _ | .float _, .str _ | .float _, .arr _ | .float _, .obj _ | .str _, .null
  | .str _, .bool _ | .str _, .int _ | .str _, .float _ | .str _, .arr _ | .str _, .obj _
  | .arr _, .null | .arr _, .bool _ | .arr _, .int _ | .arr _, .float _ | .arr _, .str _
  | .arr _, .obj _ | .obj _, .null | .obj _, .bool _ | .obj _, .int _ | .obj _, .float _
  | .obj _, .str _ | .obj _, .arr _ => isFalse (by simp)

/-- Decides whether two lists of values are the same. -/
def decideEqItems : (a b : List Json) → Decidable (a = b)
  | [], [] => isTrue rfl
  | [], _ :: _ | _ :: _, [] => isFalse (by simp)
  | a :: as, b :: bs =>
    match decideEq a b, decideEqItems as bs with
    | isTrue first, isTrue rest => isTrue (by rw [first, rest])
    | isFalse other, _ => isFalse fun same => other (by injection same)
    | _, isFalse other => isFalse fun same => other (by injection same)

/-- Decides whether two lists of entries are the same. -/
def decideEqEntries : (a b : List (String × Json)) → Decidable (a = b)
  | [], [] => isTrue rfl
  | [], _ :: _ | _ :: _, [] => isFalse (by simp)
  | (key, a) :: as, (other, b) :: bs =>
    match decEq key other, decideEq a b, decideEqEntries as bs with
    | isTrue keys, isTrue first, isTrue rest => isTrue (by rw [keys, first, rest])
    | isFalse differ, _, _ => isFalse fun same => differ (by injection same with h; injection h)
    | _, isFalse differ, _ => isFalse fun same => differ (by injection same with h; injection h)
    | _, _, isFalse differ => isFalse fun same => differ (by injection same)

end

instance : DecidableEq Json := decideEq

/-- Entries with one value put under a key, in the order of keys; an older value of the key is
forgotten. -/
def place (key : String) (value : Json) : List (String × Json) → List (String × Json)
  | [] => [(key, value)]
  | (k, v) :: rest =>
    if key < k then (key, value) :: (k, v) :: rest
    else if key = k then (key, value) :: rest
    else (k, v) :: place key value rest

/-- Entries in the order of their keys, the last value of each key kept. -/
def arrange (entries : List (String × Json)) : List (String × Json) :=
  entries.foldl (fun placed entry => place entry.1 entry.2 placed) []

/-- The object with the given entries, a later value of a key replacing an earlier one. -/
def object (entries : List (String × Json)) : Json := .obj (arrange entries)

/-- The value that stands first under a key. -/
def entry? (key : String) : List (String × Json) → Option Json
  | [] => none
  | (k, v) :: rest => if k = key then some v else entry? key rest

/-- The value under a key of an object. -/
def get? (value : Json) (key : String) : Option Json :=
  match value with
  | .obj entries => entry? key entries
  | _ => none

/-- Whether a value is null. -/
def isNull : Json → Bool
  | .null => true
  | _ => false

/-- The whole number of a natural number. -/
def nat (n : Nat) : Json := .int n

/-- The list of texts. -/
def texts (items : List String) : Json := .arr (items.map .str)

end Json

end LanguageClient
