import LanguageClient.Preview.Page
import Mathlib.Data.List.Infix

/-!
# What a page shows

A page is cut at the marks of its rows, without knowing how it was made. `cells_page` says that the
cells are the escaped rows, whatever text the rows hold: an escaped row contains no angle bracket,
so no mark begins in it. Undoing the escapes gives the rows back, and with them the listing.
-/

namespace LanguageClient.Preview

/-- The pieces of a text between the occurrences of a mark. First `skip` characters are passed over:
those of an occurrence that was found. -/
def cutFrom (mark : List Char) : Nat → List Char → List (List Char)
  | _, [] => [[]]
  | skip + 1, _ :: rest => cutFrom mark skip rest
  | 0, c :: rest =>
    if mark <+: c :: rest then [] :: cutFrom mark (mark.length - 1) rest
    else (cutFrom mark 0 rest).modifyHead (c :: ·)

/-- The pieces of a text between the occurrences of a mark. -/
def cutAt (mark text : List Char) : List (List Char) := cutFrom mark 0 text

/-- How often a mark occurs in a page. -/
def occurrences (mark html : String) : Nat := (cutAt mark.toList html.toList).length - 1

/-- What opens a row with its cell. -/
def rowOpen : List Char := "<tr><td>".toList

/-- What closes a cell with its row. -/
def rowClose : List Char := "</td></tr>".toList

/-- The cells of a page: each reaches from the opening of a row to the closing behind it. -/
def cells (html : String) : List String :=
  (cutAt rowOpen html.toList).tail.map fun piece =>
    String.ofList ((cutAt rowClose piece).headD [])

/-- What is left of a page without its rows: what stands before the first row, and behind each. -/
def outside (html : String) : List String :=
  String.ofList ((cutAt rowOpen html.toList).headD []) ::
    (cutAt rowOpen html.toList).tail.map fun piece =>
      String.ofList (rowClose.intercalate (cutAt rowClose piece).tail)

/-- What stands for a character that must not stand for itself. -/
def entities : List (List Char) :=
  ["&amp;".toList, "&lt;".toList, "&gt;".toList, "&quot;".toList]

/-- A text with its entities replaced by the characters that they stand for. -/
def unescape : List Char → List Char
  | '&' :: 'a' :: 'm' :: 'p' :: ';' :: rest => '&' :: unescape rest
  | '&' :: 'l' :: 't' :: ';' :: rest => '<' :: unescape rest
  | '&' :: 'g' :: 't' :: ';' :: rest => '>' :: unescape rest
  | '&' :: 'q' :: 'u' :: 'o' :: 't' :: ';' :: rest => '"' :: unescape rest
  | c :: rest => c :: unescape rest
  | [] => []

/-- The rows that a page shows. -/
def shownRows (html : String) : List String :=
  (cells html).map fun cell => String.ofList (unescape cell.toList)

/-- A text opens no element and no attribute, and uses `&` for nothing but entities. -/
structure Inert (text : String) : Prop where
  /-- No tag opens. -/
  noOpening : '<' ∉ text.toList
  /-- No tag closes. -/
  noClosing : '>' ∉ text.toList
  /-- No quote ends an attribute. -/
  noQuote : '"' ∉ text.toList
  /-- Every ampersand begins an entity. -/
  entity : ∀ before after, text.toList = before ++ '&' :: after →
    ∃ entity ∈ entities, entity <+: '&' :: after

/-! ## Cutting -/

/-- Whether no occurrence of a mark begins in a text, whatever stands behind the text. -/
def isApart (mark : List Char) : List Char → Bool
  | [] => true
  | c :: rest => !decide (mark <+: c :: rest) && !decide (c :: rest <+: mark) && isApart mark rest

/-- No occurrence of a mark begins in a text, whatever stands behind the text. -/
def Apart (mark text : List Char) : Prop := isApart mark text = true

instance (mark text : List Char) : Decidable (Apart mark text) :=
  inferInstanceAs (Decidable (isApart mark text = true))

variable {mark : List Char}

/-- No mark begins in an empty text. -/
theorem apart_nil : Apart mark [] := rfl

/-- No mark begins in a text if none begins at its first character or later. -/
theorem apart_cons {c : Char} {rest : List Char} :
    Apart mark (c :: rest) ↔ (¬ mark <+: c :: rest ∧ ¬ c :: rest <+: mark) ∧ Apart mark rest := by
  simp [Apart, isApart]

/-- A mark that begins in one of two texts of which neither is a start of it would begin in the
text alone. -/
theorem not_prefix_append {text : List Char} (absent : ¬ mark <+: text) (short : ¬ text <+: mark)
    (rest : List Char) : ¬ mark <+: text ++ rest := by
  intro found
  rcases List.prefix_or_prefix_of_prefix found (List.prefix_append text rest) with inside | start
  · exact absent inside
  · exact short start

/-- No mark begins in two texts, one behind the other, if none begins in either. -/
theorem Apart.append {first second : List Char} (before : Apart mark first)
    (after : Apart mark second) : Apart mark (first ++ second) := by
  induction first with
  | nil => exact after
  | cons c rest ih =>
    obtain ⟨⟨absent, short⟩, later⟩ := apart_cons.mp before
    refine apart_cons.mpr ⟨⟨not_prefix_append absent short second, ?_⟩, ih later⟩
    exact fun start => short ((List.prefix_append _ _).trans start)

/-- A text without the first character of a mark is apart from it. -/
theorem apart_of_not_mem {first : Char} {text : List Char} (begins : mark.head? = some first)
    (absent : first ∉ text) : Apart mark text := by
  obtain ⟨others, rfl⟩ := List.head?_eq_some_iff.mp begins
  induction text with
  | nil => exact apart_nil
  | cons c rest ih =>
    obtain ⟨different, later⟩ : first ≠ c ∧ first ∉ rest := by simpa using absent
    refine apart_cons.mpr ⟨⟨?_, ?_⟩, ih later⟩
    · exact fun found => different (List.cons_prefix_cons.mp found).1
    · exact fun start => different (List.cons_prefix_cons.mp start).1.symm

/-- The characters of an occurrence are passed over. -/
theorem cutFrom_skip (skipped rest : List Char) :
    cutFrom mark skipped.length (skipped ++ rest) = cutAt mark rest := by
  induction skipped with
  | nil => rfl
  | cons c later ih => exact ih

/-- A mark is cut out where it stands. -/
theorem cutAt_mark (nonempty : mark ≠ []) (rest : List Char) :
    cutAt mark (mark ++ rest) = [] :: cutAt mark rest := by
  cases mark with
  | nil => exact absurd rfl nonempty
  | cons c others =>
    have here : c :: others <+: c :: (others ++ rest) := List.prefix_append (c :: others) rest
    rw [cutAt, List.cons_append, cutFrom, if_pos here]
    exact congrArg ([] :: ·) (cutFrom_skip others rest)

/-- A text in which no mark begins stays whole, in front of the first piece. -/
theorem cutAt_apart {text : List Char} (apart : Apart mark text) (rest : List Char) :
    cutAt mark (text ++ rest) = (cutAt mark rest).modifyHead (text ++ ·) := by
  induction text with
  | nil => exact (congrFun List.modifyHead_id _).symm
  | cons c later ih =>
    obtain ⟨⟨absent, short⟩, apartLater⟩ := apart_cons.mp apart
    have elsewhere : ¬ mark <+: c :: (later ++ rest) := not_prefix_append absent short rest
    rw [cutAt, List.cons_append, cutFrom, if_neg elsewhere]
    refine (congrArg (List.modifyHead (c :: ·)) (ih apartLater)).trans ?_
    rw [List.modifyHead_modifyHead]
    rfl

/-- An empty text is one empty piece. -/
theorem cutAt_nil : cutAt mark [] = [[]] := rfl

/-- A text in which no mark begins is its only piece. -/
theorem cutAt_eq_singleton {text : List Char} (apart : Apart mark text) :
    cutAt mark text = [text] := by
  simpa [cutAt_nil] using cutAt_apart apart []

/-- A text that is followed by a mark is the first piece. -/
theorem cutAt_append_mark {text : List Char} (nonempty : mark ≠ []) (apart : Apart mark text)
    (rest : List Char) : cutAt mark (text ++ (mark ++ rest)) = text :: cutAt mark rest := by
  rw [cutAt_apart apart, cutAt_mark nonempty]
  simp

/-! ## Escaping -/

/-- What stands in the cell of a row. -/
def cellOf (row : String) : List Char := row.toList.flatMap escape

/-- An escaped character holds no character that markup is made of. -/
theorem not_mem_escape (c : Char) : '<' ∉ escape c ∧ '>' ∉ escape c ∧ '"' ∉ escape c := by
  unfold escape
  split
  case h_5 other amp opening closing quote => simp [Ne.symm opening, Ne.symm closing, Ne.symm quote]
  all_goals decide

/-- The only `&` of an escaped character is the first character of an entity. -/
theorem escape_eq_append {c : Char} {before after : List Char}
    (split : escape c = before ++ '&' :: after) : before = [] ∧ escape c ∈ entities := by
  unfold escape at split ⊢
  split at split
  case h_5 other amp opening closing quote =>
    obtain ⟨-, same, -⟩ : before = [] ∧ '&' = c ∧ after = [] := by
      simpa [List.singleton_eq_append_iff] using split
    exact absurd same.symm amp
  all_goals
    simp [List.cons_eq_append_iff] at split
    simp [split, entities]

/-- A character can be recovered from its escaped form, whatever follows. -/
theorem unescape_escape (c : Char) (rest : List Char) :
    unescape (escape c ++ rest) = c :: unescape rest := by
  unfold escape
  split
  case h_5 other amp opening closing quote =>
    rw [List.singleton_append]
    conv_lhs => unfold unescape
    split <;> simp_all
  all_goals simp [unescape]

/-- Escaping a row can be undone. -/
theorem unescape_cellOf (row : String) : unescape (cellOf row) = row.toList := by
  unfold cellOf
  induction row.toList with
  | nil => rfl
  | cons c rest ih => rw [List.flatMap_cons, unescape_escape, ih]

/-- In an escaped text every ampersand begins an entity. -/
theorem entity_of_amp {text before after : List Char}
    (split : text.flatMap escape = before ++ '&' :: after) :
    ∃ entity ∈ entities, entity <+: '&' :: after := by
  induction text generalizing before with
  | nil => simp at split
  | cons c rest ih =>
    rw [List.flatMap_cons] at split
    rcases List.append_eq_append_iff.mp split with ⟨later, -, here⟩ | ⟨here, inside, later⟩
    · exact ih here
    · cases here with
      | nil => exact @ih [] later.symm
      | cons first others =>
        obtain ⟨rfl, same⟩ := List.cons_eq_cons.mp (later.trans List.cons_append).symm
        obtain ⟨rfl, entity⟩ := escape_eq_append inside
        exact ⟨_, entity, by rw [inside, ← same]; exact ⟨_, rfl⟩⟩

/-- Whatever a row holds, its cell is inert. -/
theorem inert_cellOf (row : String) : Inert (String.ofList (cellOf row)) := by
  have absent (c : Char) (never : ∀ d, c ∉ escape d) : c ∉ cellOf row := by
    intro member
    obtain ⟨d, -, inside⟩ := List.mem_flatMap.mp member
    exact never d inside
  constructor <;> rw [String.toList_ofList]
  · exact absent '<' fun d => (not_mem_escape d).1
  · exact absent '>' fun d => (not_mem_escape d).2.1
  · exact absent '"' fun d => (not_mem_escape d).2.2
  · exact fun before after split => entity_of_amp split

/-! ## Pages -/

/-- A mark with which every row opens, and which occurs nowhere else in a page. -/
structure OpensRows (mark inner : List Char) : Prop where
  /-- A row opens with the mark. -/
  whole : rowOpen = mark ++ inner
  /-- The mark is not empty. -/
  nonempty : mark ≠ []
  /-- No other one begins in what opens a row. -/
  inside : Apart mark inner
  /-- None begins in a cell. -/
  cell : ∀ row, Apart mark (cellOf row)
  /-- None begins in what closes a row. -/
  closing : Apart mark rowClose
  /-- None begins in a line break. -/
  lineBreak : Apart mark ['\n']
  /-- None begins in the head of a page. -/
  head : Apart mark pageHead.toList
  /-- None begins in its foot. -/
  foot : Apart mark pageFoot.toList

/-- No mark that begins with an angle bracket begins in a cell. -/
theorem apart_cellOf (begins : mark.head? = some '<') (row : String) : Apart mark (cellOf row) :=
  apart_of_not_mem begins (by simpa using (inert_cellOf row).noOpening)

/-- A text that is written out is compared with a mark character by character. -/
theorem apart_ofList {text : List Char} (apart : Apart mark text) :
    Apart mark (String.ofList text).toList := by
  rwa [String.toList_ofList]

/-- The characters that open a row. -/
theorem rowOpen_eq : rowOpen = ['<', 't', 'r', '>', '<', 't', 'd', '>'] := String.toList_ofList

/-- The characters that close a row. -/
theorem rowClose_eq : rowClose = ['<', '/', 't', 'd', '>', '<', '/', 't', 'r', '>'] :=
  String.toList_ofList

/-- Rows open with a mark that occurs nowhere else in a page. -/
theorem opensRows_rowOpen : OpensRows rowOpen [] := by
  rw [rowOpen_eq]
  exact {
    whole := rowOpen_eq
    nonempty := List.cons_ne_nil _ _
    inside := apart_nil
    cell := apart_cellOf rfl
    closing := apart_ofList (by decide)
    lineBreak := by decide
    head := String.toList_append ▸
      Apart.append (apart_ofList (by decide)) (apart_ofList (by decide))
    foot := apart_ofList (by decide) }

/-- Every row is an element of its own, and there is no other such element. -/
theorem opensRows_element : OpensRows "<tr>".toList ['<', 't', 'd', '>'] := by
  rw [String.toList_ofList]
  exact {
    whole := rowOpen_eq
    nonempty := List.cons_ne_nil _ _
    inside := by decide
    cell := apart_cellOf rfl
    closing := apart_ofList (by decide)
    lineBreak := by decide
    head := String.toList_append ▸
      Apart.append (apart_ofList (by decide)) (apart_ofList (by decide))
    foot := apart_ofList (by decide) }

/-- What can stand behind a row closes none. -/
theorem apart_rowClose : Apart rowClose ['\n'] ∧ Apart rowClose pageFoot.toList := by
  rw [rowClose_eq]
  exact ⟨by decide, apart_ofList (by decide)⟩

/-- The pieces of a page behind the openings of its rows; `inner` is the rest of an opening. -/
def rowPieces (inner : List Char) : List String → List (List Char)
  | [] => []
  | [row] => [inner ++ cellOf row ++ rowClose ++ pageFoot.toList]
  | row :: next :: rest =>
    (inner ++ cellOf row ++ rowClose ++ ['\n']) :: rowPieces inner (next :: rest)

/-- What stands behind each of a number of rows: the rows stand in lines of their own. -/
def endings : Nat → List (List Char)
  | 0 => []
  | 1 => [pageFoot.toList]
  | count + 2 => ['\n'] :: endings (count + 1)

/-- What is left of a page of a number of rows without them. -/
def frame : Nat → List String
  | 0 => [pageHead ++ pageFoot]
  | count + 1 => pageHead :: (endings (count + 1)).map String.ofList

/-- A row is its cell between what opens and what closes it. -/
theorem toList_tableRow (row : String) :
    (tableRow row).toList = rowOpen ++ (cellOf row ++ rowClose) := by
  simp only [tableRow, escapeText, String.toList_append, String.toList_ofList, List.append_assoc]
  rfl

/-- A page is its rows, line by line, between its head and its foot. -/
theorem toList_page (rows : List String) :
    (page rows).toList = pageHead.toList ++
      (['\n'].intercalate (rows.map fun row => (tableRow row).toList) ++ pageFoot.toList) := by
  simp only [page, String.toList_append, String.toList_intercalate, List.map_map,
    List.append_assoc]
  rfl

section
variable {inner : List Char} (opens : OpensRows mark inner)
include opens

/-- A row with what stands behind it has no opening but its own. -/
theorem OpensRows.apart_piece (row : String) {ending : List Char} (apart : Apart mark ending) :
    Apart mark (inner ++ cellOf row ++ rowClose ++ ending) :=
  ((opens.inside.append (opens.cell row)).append opens.closing).append apart

/-- The rows of a page are cut off at their openings. -/
theorem OpensRows.cutAt_rows (row : String) (rest : List String) :
    cutAt mark (['\n'].intercalate ((row :: rest).map fun row => (tableRow row).toList) ++
      pageFoot.toList) = [] :: rowPieces inner (row :: rest) := by
  induction rest generalizing row with
  | nil =>
    calc cutAt mark (['\n'].intercalate ([row].map fun row => (tableRow row).toList) ++
          pageFoot.toList)
      _ = cutAt mark (mark ++ (inner ++ cellOf row ++ rowClose ++ pageFoot.toList)) := by
        simp [toList_tableRow, opens.whole]
      _ = [] :: rowPieces inner [row] := by
        rw [cutAt_mark opens.nonempty, cutAt_eq_singleton (opens.apart_piece row opens.foot),
          rowPieces]
  | cons next rest ih =>
    calc cutAt mark (['\n'].intercalate ((row :: next :: rest).map fun row =>
          (tableRow row).toList) ++ pageFoot.toList)
      _ = cutAt mark (mark ++ (inner ++ cellOf row ++ rowClose ++ ['\n'] ++
            (['\n'].intercalate ((next :: rest).map fun row => (tableRow row).toList) ++
              pageFoot.toList))) := by
        simp [toList_tableRow, opens.whole, List.intercalate]
      _ = [] :: rowPieces inner (row :: next :: rest) := by
        rw [cutAt_mark opens.nonempty, cutAt_apart (opens.apart_piece row opens.lineBreak), ih next,
          rowPieces]
        simp

/-- A page is cut into what stands before its rows and a piece for each row. -/
theorem OpensRows.cutAt_page (rows : List String) :
    cutAt mark (page rows).toList =
      (if rows = [] then pageHead.toList ++ pageFoot.toList else pageHead.toList) ::
        rowPieces inner rows := by
  rw [toList_page]
  cases rows with
  | nil => simpa [rowPieces] using cutAt_eq_singleton (opens.head.append opens.foot)
  | cons row rest =>
    rw [cutAt_apart opens.head, opens.cutAt_rows row rest]
    simp

end

/-- There is one piece for each row. -/
theorem length_rowPieces (inner : List Char) (rows : List String) :
    (rowPieces inner rows).length = rows.length := by
  fun_induction rowPieces inner rows with
  | case1 => rfl
  | case2 row => rfl
  | case3 row next rest ih => simp [ih]

/-- The piece behind the opening of a row is cut into its cell and what stands behind the row. -/
theorem cutAt_rowPiece (row : String) {ending : List Char} (apart : Apart rowClose ending) :
    cutAt rowClose ([] ++ cellOf row ++ rowClose ++ ending) = [cellOf row, ending] := by
  rw [rowClose_eq] at apart ⊢
  rw [List.nil_append, List.append_assoc,
    cutAt_append_mark (List.cons_ne_nil _ _) (apart_cellOf rfl row), cutAt_eq_singleton apart]

/-- The cells of a page are its rows, escaped. -/
theorem cells_page (rows : List String) :
    cells (page rows) = rows.map fun row => String.ofList (cellOf row) := by
  obtain ⟨lineBreak, foot⟩ := apart_rowClose
  rw [cells, opensRows_rowOpen.cutAt_page, List.tail_cons]
  fun_induction rowPieces [] rows with
  | case1 => rfl
  | case2 row => simp only [List.map_cons, List.map_nil, cutAt_rowPiece row foot, List.headD_cons]
  | case3 row next rest ih =>
    rw [List.map_cons, ih, cutAt_rowPiece row lineBreak]
    rfl

/-- Without its rows nothing is left of a page but its frame. -/
theorem outside_page (rows : List String) : outside (page rows) = frame rows.length := by
  obtain ⟨lineBreak, foot⟩ := apart_rowClose
  have behind : (rowPieces [] rows).map (fun piece =>
      String.ofList (rowClose.intercalate (cutAt rowClose piece).tail)) =
      (endings rows.length).map String.ofList := by
    fun_induction rowPieces [] rows with
    | case1 => rfl
    | case2 row =>
      rw [List.map_cons, cutAt_rowPiece row foot]
      simp [endings]
    | case3 row next rest ih =>
      rw [List.map_cons, ih, cutAt_rowPiece row lineBreak]
      simp [endings]
  rw [outside, opensRows_rowOpen.cutAt_page, List.tail_cons, behind]
  cases rows with
  | nil => simp [frame, endings]
  | cons row rest => simp [frame]

/-- The rows that a page shows are the rows that it was made of. -/
theorem shownRows_page (rows : List String) : shownRows (page rows) = rows := by
  rw [shownRows, cells_page, List.map_map]
  refine (List.map_congr_left fun row _ => ?_).trans (List.map_id rows)
  simp [unescape_cellOf]

/-- A page has one row for each line of its listing, none if there is no listing, and shows in
order what the fragments of each line make together. Pages of different rows differ; whatever the
rows hold, a cell opens no element and no attribute and uses `&` for entities alone, and what
stands outside the rows depends on nothing but their number. -/
theorem page_shows_listing :
    (∀ listing : Listing,
      occurrences "<tr>" (page (rows listing)) = (listing.lines.getD []).length ∧
        shownRows (page (rows listing)) = (listing.lines.getD []).map String.join) ∧
      Function.Injective page ∧
      ∀ texts : List String,
        (∀ cell ∈ cells (page texts), Inert cell) ∧ outside (page texts) = frame texts.length := by
  refine ⟨?_, ?_, ?_⟩
  · intro listing
    refine ⟨?_, shownRows_page (rows listing)⟩
    rw [occurrences, opensRows_element.cutAt_page, List.length_cons, length_rowPieces, rows]
    simp
  · intro first second same
    rw [← shownRows_page first, same, shownRows_page]
  · intro texts
    refine ⟨?_, outside_page texts⟩
    rw [cells_page]
    intro cell member
    obtain ⟨row, -, rfl⟩ := List.mem_map.mp member
    exact inert_cellOf row

end LanguageClient.Preview
