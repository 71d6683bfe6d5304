import LanguageClient.Proofs.AdapterQuestions
import LanguageClient.Proofs.Histories
import LanguageClient.Proofs.JsonNumbers

/-!
# Hosts and ports as they are spelled

The host and the port of an address stand in its text: behind the scheme, its slashes and a user,
and before a path, a query or a fragment. `SpellsPort` says so without the readers; every part is
shown to be what its reader takes, and no text is spelled in two ways (`SpellsAuthority.unique`).
With `ofUri_eq_spelled` an adapter listens where its address says, except on the port that is usual
for the scheme, which the reader leaves out.
-/

namespace LanguageClient

namespace Url

open Json (Digits digitsValue EndsDigits span_of_ends takeWhile_of_ends dropWhile_of_ends
  ends_of_span)

/-- Whether a character ends the authority of a URL. -/
def Family.ends (family : Family) (c : Char) : Bool := family.separates c || c = '?' || c = '#'

/-- The host that a text names by the rules of a family. -/
def Family.readHost [Idna] (family : Family) (spelled : List Char) : Except UrlError Host :=
  if family = .plain then Host.readOpaque spelled else Host.readDomain spelled

variable {family : Family} {scheme : String} {text user host tail rest : List Char}

/-- A name that is read as a domain is written in the characters of domains. -/
theorem isDomainCharacter_of_readHost [Idna] {name : String} (domain : family ≠ .plain)
    (read : family.readHost text = .ok (.name name)) :
    ∀ c ∈ name.toList, Host.isDomainCharacter c = true := by
  rw [Family.readHost, if_neg domain] at read
  unfold Host.readDomain at read
  split at read
  · unfold Host.bracketed at read
    split at read
    · cases read
    · split at read <;> cases read
  · split at read
    · cases read
    · cases read
    · rename_i written _ decoded
      obtain ⟨bytes, -, converted⟩ := Option.bind_eq_some_iff.mp decoded
      split at read
      · split at read <;> cases read
      · cases read
        rw [String.toList_ofList]
        exact Host.isDomainCharacter_of_domain? converted

/-! ## Schemes -/

/-- What stands before the colon of a scheme. -/
structure IsScheme (name : List Char) : Prop where
  /-- It begins with a letter. -/
  first : ∃ c, name.head? = some c ∧ c.isAlpha = true
  /-- It holds nothing else than what a scheme may hold. -/
  all : ∀ c ∈ name, isSchemeCharacter c = true

/-- A scheme is read from letters and a colon after them. -/
theorem readScheme_eq_ok_iff : readScheme text = .ok (scheme, rest) ↔
    ∃ name, text = name ++ ':' :: rest ∧ IsScheme name ∧
      scheme = String.ofList (name.map Char.toLower) := by
  constructor
  · intro read
    unfold readScheme at read
    split at read
    · rename_i first name _ head cut
      split at read
      · rename_i alpha
        obtain ⟨rfl, rfl⟩ := Prod.mk.inj (Except.ok.inj read)
        obtain ⟨whole, all, -⟩ := ends_of_span cut
        refine ⟨name, whole, ⟨⟨first, ?_, alpha⟩, all⟩, rfl⟩
        cases name with
        | nil =>
          obtain rfl : ':' = first := by simpa [whole] using head
          cases alpha
        | cons c name => simpa [whole] using head
      · cases read
    · cases read
  · rintro ⟨name, rfl, ⟨⟨first, head, alpha⟩, all⟩, rfl⟩
    have ends : ∀ c, (':' :: rest).head? = some c → isSchemeCharacter c = false := by
      simp [isSchemeCharacter]
    have cut := span_of_ends all ends
    unfold readScheme
    rw [cut, List.head?_append, head]
    simp only [Option.some_or, alpha, if_true]

/-! ## Users -/

/-- A user with the at sign behind it, or nothing, before a text in which no at sign follows before
the end of the authority. -/
structure UserEnds (family : Family) (user rest : List Char) : Prop where
  /-- The authority does not end within the user. -/
  inside : ∀ c ∈ user, family.ends c = false
  /-- The at sign stands last. -/
  last : user ≠ [] → user.getLast? = some '@'
  /-- No later at sign stands before the end of the authority. -/
  none : '@' ∉ rest.takeWhile fun c => !family.ends c

/-- What follows the user that is read. -/
theorem rest_of_readUser {name : String} {password : Option String}
    (read : readUser family text = .ok (name, password, rest)) :
    let authority := text.takeWhile fun c => !family.ends c
    rest = if '@' ∈ authority then
      text.drop ((authority.reverse.dropWhile (· ≠ '@')).length - 1 + 1) else text := by
  intro authority
  unfold readUser at read
  change (if !authority.contains '@' then _ else _) = _ at read
  by_cases some : '@' ∈ authority
  · rw [if_neg (by simp [some])] at read
    rw [if_pos some]
    dsimp only at read
    split at read
    · cases read
    · split at read <;> cases read <;> rfl
  · rw [if_pos (by simp [some])] at read
    cases read
    rw [if_neg some]

/-- The user is read up to the last at sign of the authority. -/
theorem userEnds_of_readUser {name : String} {password : Option String}
    (read : readUser family text = .ok (name, password, rest)) :
    ∃ user, text = user ++ rest ∧ UserEnds family user rest := by
  have rests := rest_of_readUser read
  have cut : text.span (fun c => !family.ends c) = (text.takeWhile fun c => !family.ends c, _) :=
    List.span_eq_takeWhile_dropWhile _ _
  obtain ⟨whole, all, ends⟩ := ends_of_span cut
  simp only at rests
  generalize (text.takeWhile fun c => !family.ends c) = authority at *
  generalize (text.dropWhile fun c => !family.ends c) = beyond at *
  have inside : ∀ c ∈ authority, family.ends c = false := fun c member => by
    simpa using all c member
  by_cases some : '@' ∈ authority
  · have marked : ∃ c ∈ authority, c = '@' := ⟨'@', some, rfl⟩
    obtain ⟨before, _, after, rfl, rfl, others⟩ := exists_last_split marked
    have length : ((before ++ '@' :: after).reverse.dropWhile (· ≠ '@')).length - 1 + 1 =
        (before ++ ['@']).length := by
      have reversed : (before ++ '@' :: after).reverse =
          after.reverse ++ '@' :: before.reverse := by simp
      have others : ∀ c ∈ after.reverse, decide (c ≠ '@') = true := by simpa using others
      rw [reversed, List.dropWhile_append_of_pos others, List.dropWhile_cons_of_neg (by simp)]
      simp
    have parted : text = (before ++ ['@']) ++ (after ++ beyond) := by
      rw [whole]
      simp
    rw [if_pos some, length, parted, List.drop_left] at rests
    refine ⟨before ++ ['@'], by rw [rests, parted], ?_, fun _ => List.getLast?_concat, ?_⟩
    · intro c member
      refine inside c ?_
      simp at member ⊢
      tauto
    · rw [rests, takeWhile_of_ends (fun c member => all c (by simp [member])) ends]
      exact fun member => others _ member rfl
  · rw [if_neg some] at rests
    refine ⟨[], by rw [rests]; rfl, nofun, absurd rfl, ?_⟩
    rw [rests, whole, takeWhile_of_ends all ends]
    exact some

/-- The user ends in one place only. -/
theorem UserEnds.nil_of_append {more : List Char} (first : UserEnds family user (more ++ rest))
    (second : UserEnds family (user ++ more) rest) : more = [] := by
  by_contra filled
  have last := second.last (by simp [filled])
  rw [List.getLast?_append_of_ne_nil _ filled] at last
  have inside : ∀ c ∈ more, (!family.ends c) = true := by
    intro c member
    rw [second.inside c (List.mem_append_right _ member)]
    rfl
  have none := first.none
  rw [List.takeWhile_append_of_pos inside] at none
  exact none (List.mem_append_left _ (List.mem_of_getLast? last))

/-- There is one way to cut a text behind its user. -/
theorem UserEnds.unique {other left : List Char} (first : UserEnds family user rest)
    (second : UserEnds family other left) (same : user ++ rest = other ++ left) :
    user = other ∧ rest = left := by
  rcases List.append_eq_append_iff.mp same with ⟨more, rfl, rfl⟩ | ⟨more, rfl, rfl⟩
  · obtain rfl := first.nil_of_append second
    exact ⟨(List.append_nil _).symm, rfl⟩
  · obtain rfl := second.nil_of_append first
    exact ⟨List.append_nil _, rfl⟩

/-! ## Hosts -/

/-- Whether the last bracket of a text is an opening one. -/
def bracketOpen (text : List Char) : Bool :=
  text.reverse.find? (fun c => c = '[' || c = ']') = some '['

/-- A bracket opens or closes, and any other character leaves the brackets as they are. -/
theorem bracketOpen_append (text : List Char) (c : Char) : bracketOpen (text ++ [c]) =
    if c = '[' then true else if c = ']' then false else bracketOpen text := by
  unfold bracketOpen
  rw [List.reverse_append, List.reverse_singleton, List.singleton_append, List.find?_cons]
  by_cases opening : c = '['
  · simp [opening]
  · by_cases closing : c = ']' <;> simp [opening, closing]

/-- A host before a text that begins with the end of the authority or with the colon of a port; a
colon within the host stands between brackets. -/
structure HostEnds (family : Family) (host tail : List Char) : Prop where
  /-- The authority does not end within the host. -/
  inside : ∀ c ∈ host, family.ends c = false
  /-- A colon within the host stands between brackets. -/
  colons : ∀ front back, host = front ++ ':' :: back → bracketOpen front = true
  /-- Behind it the authority ends, or a port begins. -/
  ends : ∀ c, tail.head? = some c → family.ends c = true ∨ c = ':' ∧ bracketOpen host = false

/-- A host is no longer than the text it stands in. -/
theorem hostLength_le (bracketed : Bool) (text : List Char) :
    hostLength family bracketed text ≤ text.length := by
  induction text generalizing bracketed with
  | nil => exact Nat.le_refl _
  | cons c rest ih =>
    unfold hostLength
    split
    · exact Nat.zero_le _
    · exact Nat.succ_le_succ (ih _)

/-- A host goes on with every character that neither ends the authority nor, outside of brackets,
begins a port. -/
theorem hostLength_cons (front : List Char) (c : Char) (rest : List Char) :
    hostLength family (bracketOpen front) (c :: rest) =
      if family.ends c = true ∨ c = ':' ∧ bracketOpen front = false then 0
      else hostLength family (bracketOpen (front ++ [c])) rest + 1 := by
  rw [hostLength, bracketOpen_append]
  congr 1
  simp only [Family.ends, Bool.or_eq_true, Bool.and_eq_true, Bool.not_eq_true', decide_eq_true_eq,
    eq_iff_iff]
  tauto

/-- The reader comes to the end of a host, also when some of it stands before. -/
theorem hostLength_eq_iff (before host tail : List Char) :
    hostLength family (bracketOpen before) (host ++ tail) = host.length ↔
      (∀ c ∈ host, family.ends c = false) ∧
      (∀ front back, host = front ++ ':' :: back → bracketOpen (before ++ front) = true) ∧
      ∀ c, tail.head? = some c →
        family.ends c = true ∨ c = ':' ∧ bracketOpen (before ++ host) = false := by
  induction host generalizing before with
  | nil =>
    cases tail with
    | nil => simp [hostLength]
    | cons c tail => cases ends : family.ends c <;> simp [hostLength_cons, ends]
  | cons c host ih =>
    have step : before ++ c :: host = before ++ [c] ++ host := by simp
    rw [List.cons_append, hostLength_cons, List.length_cons]
    have ahead := ih (before ++ [c])
    rw [← step] at ahead
    split
    · rename_i stops
      refine iff_of_false (Nat.succ_ne_zero _).symm ?_
      rintro ⟨inside, colons, -⟩
      rcases stops with ends | ⟨rfl, closed⟩
      · have continues := inside c List.mem_cons_self
        rw [ends] at continues
        cases continues
      · have opened := colons [] host rfl
        rw [List.append_nil, closed] at opened
        cases opened
    · rename_i goesOn
      obtain ⟨continues, enclosed⟩ := not_or.mp goesOn
      rw [Nat.add_right_cancel_iff, ahead]
      refine and_congr ?_ (and_congr ?_ Iff.rfl)
      · simp [Bool.eq_false_iff.mpr continues]
      · constructor
        · intro colons front back split
          rcases List.cons_eq_append_iff.mp split with ⟨rfl, same⟩ | ⟨others, rfl, rest⟩
          · obtain ⟨rfl, -⟩ := List.cons.inj same
            simpa using enclosed
          · simpa using colons others back rest
        · intro colons front back split
          have longer := colons (c :: front) back (by rw [split]; rfl)
          simpa using longer

/-- The length that is read off a text is that of the host which ends there. -/
theorem hostEnds_iff : HostEnds family host tail ↔
    hostLength family false (host ++ tail) = host.length := by
  have start : hostLength family false (host ++ tail) = host.length ↔ _ :=
    hostLength_eq_iff [] host tail
  rw [start]
  constructor
  · intro ends
    exact ⟨ends.inside, ends.colons, ends.ends⟩
  · rintro ⟨inside, colons, ends⟩
    exact ⟨inside, colons, ends⟩

/-- The host that the reader takes. -/
theorem hostEnds_take (family : Family) (text : List Char) :
    HostEnds family (text.take (hostLength family false text))
      (text.drop (hostLength family false text)) := by
  rw [hostEnds_iff, List.take_append_drop, List.length_take]
  exact (Nat.min_eq_left (hostLength_le false text)).symm

/-! ## Authorities -/

/-- How the authority at the front of a text is spelled: a user with the at sign behind it, the
host, and all that follows the host. -/
structure SpellsAuthority (family : Family) (text user host tail : List Char) : Prop where
  /-- The text is made of its parts. -/
  whole : text = user ++ (host ++ tail)
  /-- The user ends where it does. -/
  user : UserEnds family user (host ++ tail)
  /-- The host ends where it does. -/
  host : HostEnds family host tail

/-- An authority is spelled in one way. -/
theorem SpellsAuthority.unique {user' host' tail' : List Char}
    (first : SpellsAuthority family text user host tail)
    (second : SpellsAuthority family text user' host' tail') :
    user = user' ∧ host = host' ∧ tail = tail' := by
  obtain ⟨rfl, same⟩ := first.user.unique second.user (first.whole.symm.trans second.whole)
  have one := hostEnds_iff.mp first.host
  have two := hostEnds_iff.mp second.host
  rw [← same, one] at two
  exact ⟨rfl, List.append_inj same two⟩

/-- Whether a text may follow the digits of a port. -/
def endsPort (rest : List Char) : Bool := rest.head?.all (['/', '\\', '?', '#'].contains ·)

/-- What may follow the digits of a port is no digit. -/
theorem endsDigits_of_endsPort (ends : endsPort rest = true) : EndsDigits rest := by
  intro c first
  rw [endsPort, first] at ends
  have among : c = '/' ∨ c = '\\' ∨ c = '?' ∨ c = '#' := by simpa using ends
  rcases among with rfl | rfl | rfl | rfl <;> rfl

/-- The reader of ports counts no further than to the first number that is too large. -/
theorem foldl_capped (digits : List Char) (n : Nat) :
    digits.foldl (fun n c => min 65536 (n * 10 + (c.toNat - '0'.toNat))) (min 65536 n) =
      min 65536 (digits.foldl (fun n c => n * 10 + (c.toNat - '0'.toNat)) n) := by
  induction digits generalizing n with
  | nil => rfl
  | cons c digits ih =>
    rw [List.foldl_cons, List.foldl_cons, ← ih]
    congr 1
    omega

/-- How a port is read, which may be missing. -/
theorem readPort_eq_ok_iff_span {found : Option Nat} : readPort text = .ok (found, rest) ↔
    ∃ digits, text.span Char.isDigit = (digits, rest) ∧ digitsValue digits ≤ 65535 ∧
      endsPort rest = true ∧
      found = if digits.isEmpty then none else some (digitsValue digits) := by
  rcases cut : text.span Char.isDigit with ⟨digits, others⟩
  have capped : digits.foldl (fun n c => min 65536 (n * 10 + (c.toNat - '0'.toNat))) 0 =
      min 65536 (digitsValue digits) := foldl_capped digits 0
  have reads : readPort text =
      if 65535 < min 65536 (digitsValue digits) ∨ !endsPort others then .error .invalidPort
      else .ok (if digits.isEmpty then none else some (min 65536 (digitsValue digits)),
        others) := by
    unfold readPort
    rw [cut]
    simp only [capped]
    cases others <;> rfl
  rw [reads]
  constructor
  · intro taken
    split at taken
    · cases taken
    · rename_i accepted
      obtain ⟨rfl, rfl⟩ := Prod.mk.inj (Except.ok.inj taken)
      obtain ⟨small, ends⟩ := not_or.mp accepted
      have whole : min 65536 (digitsValue digits) = digitsValue digits := by omega
      exact ⟨digits, rfl, by omega, by simpa using ends, by rw [whole]⟩
  · rintro ⟨_, ⟨⟩, small, ends, rfl⟩
    have whole : min 65536 (digitsValue digits) = digitsValue digits := by omega
    rw [whole, if_neg]
    simpa [ends] using small

/-- A port is read from digits and what may follow them. -/
theorem readPort_eq_ok_iff {port : Nat} : readPort text = .ok (some port, rest) ↔
    ∃ digits : Digits, text = digits.chars ++ rest ∧ endsPort rest = true ∧
      digitsValue digits.chars = port ∧ port ≤ 65535 := by
  rw [readPort_eq_ok_iff_span]
  constructor
  · rintro ⟨spelled, cut, small, ends, found⟩
    obtain ⟨whole, all, -⟩ := ends_of_span cut
    cases spelled with
    | nil => cases found
    | cons first more =>
      obtain rfl := Option.some.inj found
      exact ⟨⟨first, more, all⟩, whole, ends, rfl, small⟩
  · rintro ⟨digits, rfl, ends, rfl, small⟩
    exact ⟨digits.chars, digits.span_append (endsDigits_of_endsPort ends), small, ends, rfl⟩

/-- What is read of an authority: its host, and its port unless that is the usual one. -/
theorem spells_of_readAuthority [Idna] {authority : Authority}
    (read : readAuthority scheme family text = .ok (authority, rest)) :
    ∃ user host tail, SpellsAuthority family text user host tail ∧
      family.readHost host = .ok authority.host ∧
      ((tail.head? ≠ some ':' ∧ authority.port = none) ∨
        ∃ more found, tail = ':' :: more ∧ authority.host ≠ .name "" ∧
          readPort more = .ok (found, rest) ∧
          authority.port = if found = usualPort? scheme then none else found) := by
  unfold readAuthority at read
  obtain ⟨⟨username, password, afterUser⟩, users, read⟩ := ok_of_bind read
  obtain ⟨user, whole, userEnds⟩ := userEnds_of_readUser users
  have cut := List.take_append_drop (hostLength family false afterUser) afterUser
  have spells : SpellsAuthority family text user _ _ :=
    ⟨by rw [cut, whole], by rwa [cut], hostEnds_take family afterUser⟩
  refine ⟨user, _, _, spells, ?_⟩
  dsimp only at read
  generalize (afterUser.take (hostLength family false afterUser)) = spelled at read ⊢
  generalize (afterUser.drop (hostLength family false afterUser)) = tail at read ⊢
  split at read
  · cases read
  unfold Family.readHost
  -- the host is read by one of two readers, and all else is done after either
  split at read
  all_goals
    rename_i family
    simp only [family, if_true, if_false]
    obtain ⟨host, hosts, read⟩ := ok_of_bind read
    split at read
    · split at read
      · cases read
      rename_i named
      obtain ⟨⟨found, others⟩, ports, same⟩ := ok_of_bind read
      obtain ⟨rfl, rfl⟩ := Prod.mk.inj (Except.ok.inj same)
      exact ⟨hosts, .inr ⟨_, found, rfl, named, ports, rfl⟩⟩
    · rename_i other
      split at read
      · cases read
      obtain ⟨rfl, rfl⟩ := Prod.mk.inj (Except.ok.inj read)
      refine ⟨hosts, .inl ⟨?_, rfl⟩⟩
      intro colon
      obtain ⟨more, rfl⟩ := List.head?_eq_some_iff.mp colon
      exact other more rfl

/-! ## Whole texts -/

/-- The slashes before an authority, as a family has them: two slashes, or any separators. Files
have no port. -/
inductive Marks : Family → List Char → List Char → Prop
  /-- Schemes with a usual port take any number of separators. -/
  | special (marks text : List Char) (all : ∀ c ∈ marks, Family.special.separates c = true)
      (ends : ∀ c, text.head? = some c → Family.special.separates c = false) :
      Marks .special marks text
  /-- Other schemes have two slashes. -/
  | plain (text : List Char) : Marks .plain ['/', '/'] text

/-- An authority that follows its marks is read. -/
theorem authority_of_readRest [Idna] {marks : List Char} {url : Url}
    (marked : Marks (familyOf scheme) marks text)
    (read : readRest scheme (marks ++ text) = .ok url) :
    ∃ authority rest, readAuthority scheme (familyOf scheme) text = .ok (authority, rest) ∧
      url.authority = some authority := by
  unfold readRest at read
  generalize familyOf scheme = family at marked read ⊢
  cases marked with
  | special marks text all ends =>
    dsimp only at read
    rw [dropWhile_of_ends all ends] at read
    obtain ⟨⟨authority, rest⟩, found, same⟩ := ok_of_bind read
    cases same
    exact ⟨authority, rest, found, rfl⟩
  | plain text =>
    dsimp only at read
    obtain ⟨⟨authority, rest⟩, found, same⟩ := ok_of_bind read
    cases same
    exact ⟨authority, rest, found, rfl⟩

/-- Where a port is read there is an authority that follows its marks. -/
theorem marks_of_readRest [Idna] {url : Url} {port : Nat} (read : readRest scheme text = .ok url)
    (spelled : url.port? = some port) :
    ∃ marks behind, text = marks ++ behind ∧ Marks (familyOf scheme) marks behind := by
  unfold readRest at read
  generalize familyOf scheme = family at read ⊢
  dsimp only at read
  split at read
  · obtain ⟨⟨host, path, rest⟩, -, same⟩ := ok_of_bind read
    cases same
    cases spelled
  · obtain ⟨whole, all, ends⟩ := ends_of_span (List.span_eq_takeWhile_dropWhile _ _)
    exact ⟨_, _, whole, .special _ _ all ends⟩
  · rename_i text
    exact ⟨['/', '/'], text, rfl, .plain text⟩
  · cases read
    cases spelled
  · cases read
    cases spelled

/-- How a scheme, a host and a port are spelled in a text. -/
def SpellsPort (text : List Char) (scheme : String) (host : List Char) (digits : Digits) : Prop :=
  ∃ name marks authority user rest, text = name ++ ':' :: (marks ++ authority) ∧ IsScheme name ∧
    scheme = String.ofList (name.map Char.toLower) ∧ Marks (familyOf scheme) marks authority ∧
    SpellsAuthority (familyOf scheme) authority user host (':' :: (digits.chars ++ rest)) ∧
    endsPort rest = true

/-- The host of a URL is that of its authority, unless it is empty. -/
theorem host?_of_authority {url : Url} {authority : Authority}
    (has : url.authority = some authority) (named : authority.host ≠ .name "") :
    url.host? = some authority.host.render := by
  unfold host?
  rw [has]
  split
  · rename_i same
    obtain rfl := Option.some.inj same
    exact absurd rfl named
  · rename_i same
    obtain rfl := Option.some.inj same
    rfl
  · rename_i nothing
    cases nothing

/-- What is read of a text in which a host and a port are spelled: the host as its family has it,
and the port unless it is the usual one. -/
theorem spelled_of_read [Idna] {uri : String} {url : Url} {digits : Digits}
    (read : Url.read uri = .ok url)
    (spells : SpellsPort (significant uri.toList) scheme host digits) :
    ∃ found, (familyOf scheme).readHost host = .ok found ∧ found ≠ .name "" ∧
      digitsValue digits.chars < 65536 ∧ url.host? = some found.render ∧
      url.port? = if usualPort? scheme = some (digitsValue digits.chars) then none
        else some (digitsValue digits.chars) := by
  obtain ⟨name, marks, spelled, user, rest, whole, isScheme, rfl, marked, spells, ends⟩ := spells
  have schemes := readScheme_eq_ok_iff.mpr ⟨name, whole, isScheme, rfl⟩
  obtain ⟨⟨scheme, behind⟩, schemesToo, read⟩ := ok_of_bind read
  obtain ⟨rfl, rfl⟩ := Prod.mk.inj (Except.ok.inj (schemes.symm.trans schemesToo))
  obtain ⟨authority, after, reads, has⟩ := authority_of_readRest marked read
  obtain ⟨userToo, hostToo, tail, spellsToo, hosts, ports⟩ := spells_of_readAuthority reads
  obtain ⟨rfl, rfl, rfl⟩ := spells.unique spellsToo
  rcases ports with ⟨none, -⟩ | ⟨more, found, same, named, ports, port⟩
  · exact absurd rfl none
  obtain rfl := (List.cons.inj same).2
  obtain ⟨chars, cut, small, -, rfl⟩ := readPort_eq_ok_iff_span.mp ports
  rw [digits.span_append (endsDigits_of_endsPort ends)] at cut
  obtain ⟨rfl, -⟩ := Prod.mk.inj cut
  refine ⟨authority.host, hosts, named, Nat.lt_succ_of_le small, host?_of_authority has named, ?_⟩
  rw [port?, has]
  show authority.port = _
  rw [port]
  simp only [Digits.chars, List.isEmpty_cons, Bool.false_eq_true, if_false, eq_comm]

/-- What is read with a port spells one. -/
theorem spells_of_read [Idna] {uri : String} {url : Url} {number : Nat}
    (read : Url.read uri = .ok url) (spelled : url.port? = some number) :
    ∃ scheme host digits, SpellsPort (significant uri.toList) scheme host digits := by
  obtain ⟨⟨scheme, behind⟩, schemes, read⟩ := ok_of_bind read
  obtain ⟨name, whole, isScheme, lower⟩ := readScheme_eq_ok_iff.mp schemes
  obtain ⟨marks, text, rfl, marked⟩ := marks_of_readRest read spelled
  obtain ⟨authority, rest, reads, has⟩ := authority_of_readRest marked read
  obtain ⟨user, host, tail, spells, -, ports⟩ := spells_of_readAuthority reads
  have port : authority.port = some number := by
    rwa [port?, has] at spelled
  rcases ports with ⟨-, none⟩ | ⟨more, found, rfl, -, ports, shown⟩
  · rw [none] at port
    cases port
  · have same : found = some number := by
      rw [port] at shown
      split at shown
      · cases shown
      · exact shown.symm
    rw [same] at ports
    obtain ⟨digits, rfl, ends, -⟩ := readPort_eq_ok_iff.mp ports
    exact ⟨scheme, host, digits, name, marks, text, user, rest, whole, isScheme, lower, marked,
      spells, ends⟩

end Url

namespace Debug

open Url (Family SpellsPort significant familyOf usualPort?)
open Json (Digits digitsValue)

/-- An address is refused for one kind of reason. -/
theorem eq_invalidAdapterUri_of_ofUri [Idna] {uri : String} {cause : DebugError}
    (refused : Endpoint.ofUri uri = .error cause) :
    ∃ reason, cause = .invalidAdapterUri (uri ++ ": " ++ reason) := by
  unfold Endpoint.ofUri at refused
  split at refused
  · cases refused
    exact ⟨_, rfl⟩
  · split at refused
    · cases refused
      exact ⟨"missing host", by rw [String.append_assoc]; rfl⟩
    · cases refused
      exact ⟨"missing port", by rw [String.append_assoc]; rfl⟩
    · cases refused

/-- Whatever the rules for international names, an address in which a host and a port are spelled
leads to these, the host as its family has it, unless the port is the usual one of the scheme. A
name that is read as a domain is in the characters of domains then. An address that does not parse,
or in which no host or no port is spelled, is refused. -/
theorem ofUri_eq_spelled [Idna] (uri : String) :
    (∀ url scheme host digits, Url.read uri = .ok url →
      SpellsPort (significant uri.toList) scheme host digits →
      ∃ found, (familyOf scheme).readHost host = .ok found ∧ found ≠ .name "" ∧
        (∀ name, familyOf scheme ≠ .plain → found = .name name →
          ∀ c ∈ name.toList, Host.isDomainCharacter c = true) ∧
        digitsValue digits.chars < 65536 ∧
        Endpoint.ofUri uri =
          if usualPort? scheme = some (digitsValue digits.chars) then
            .error (.invalidAdapterUri (uri ++ ": missing port"))
          else .ok ⟨found.render, UInt16.ofNat (digitsValue digits.chars)⟩) ∧
    ((∀ url scheme host digits, Url.read uri = .ok url →
        ¬ SpellsPort (significant uri.toList) scheme host digits) →
      ∃ reason, Endpoint.ofUri uri = .error (.invalidAdapterUri (uri ++ ": " ++ reason))) := by
  constructor
  · intro url scheme host digits read spells
    obtain ⟨found, hosts, named, small, host, port⟩ := Url.spelled_of_read read spells
    refine ⟨found, hosts, named, ?_, small, ?_⟩
    · rintro name domain rfl
      exact Url.isDomainCharacter_of_readHost domain hosts
    unfold Endpoint.ofUri
    rw [read]
    by_cases usual : usualPort? scheme = some (digitsValue digits.chars)
    · rw [if_pos usual] at port
      simp only [host, port, if_pos usual]
      rfl
    · rw [if_neg usual] at port
      simp only [host, port, if_neg usual]
      rfl
  · intro unspelled
    cases ends : Endpoint.ofUri uri with
    | ok endpoint =>
      obtain ⟨url, read, -, port⟩ := (ofUri_eq_ok_iff uri endpoint).mp ends
      obtain ⟨scheme, host, digits, spells⟩ := Url.spells_of_read read port
      exact absurd spells (unspelled url scheme host digits read)
    | error cause =>
      obtain ⟨reason, rfl⟩ := eq_invalidAdapterUri_of_ofUri ends
      exact ⟨reason, rfl⟩

/-- The name of a shop, which is not in ASCII. -/
def shopName : List Char := "bücher.example".toList

/-- The name of the shop in ASCII. -/
def shopDomain : List Char := "xn--bcher-kva.example".toList

/-- The rules for international names, as far as they are about the shop. -/
@[reducible]
def shopRules : Idna where
  toAscii? name := if name = shopName then some shopDomain else none
  isDomainCharacter_of_toAscii? {name ascii} converted := by
    split at converted
    · cases converted
      exact List.all_eq_true.mp rfl
    · cases converted

/-- An address with a name that is not in ASCII leads to the name in ASCII. -/
theorem ofUri_eq_spelled_international :
    @Endpoint.ofUri shopRules "http://bücher.example:8080/x" =
      .ok ⟨"xn--bcher-kva.example", 8080⟩ := by
  let digits : Digits := ⟨'8', ['0', '8', '0'], List.all_eq_true.mp rfl⟩
  have spells : SpellsPort (significant "http://bücher.example:8080/x".toList) "http" shopName
      digits := by
    refine ⟨['h', 't', 't', 'p'], ['/', '/'], _, [], ['/', 'x'], by decide +kernel,
      ⟨⟨'h', rfl, rfl⟩, List.all_eq_true.mp rfl⟩, by decide +kernel,
      .special _ _ (List.all_eq_true.mp rfl) ?_, ⟨rfl, ?_, ?_⟩, rfl⟩
    · rintro c ⟨⟩
      rfl
    · exact ⟨nofun, absurd rfl, by decide +kernel⟩
    · exact Url.hostEnds_iff.mpr (by decide +kernel)
  have parses : (@Url.read shopRules "http://bücher.example:8080/x").toBool = true := by
    decide +kernel
  cases read : @Url.read shopRules "http://bücher.example:8080/x" with
  | error reason =>
    rw [read] at parses
    cases parses
  | ok url =>
    obtain ⟨found, hosts, -, -, -, leads⟩ :=
      (@ofUri_eq_spelled shopRules "http://bücher.example:8080/x").1 url "http" shopName digits
        read spells
    have converted : @Family.readHost shopRules (familyOf "http") shopName =
        .ok (.name "xn--bcher-kva.example") := by
      decide +kernel
    obtain rfl := Except.ok.inj (converted.symm.trans hosts)
    rw [leads]
    decide +kernel

/-- A user, a host between brackets and a zero in front of the port. -/
example : Endpoint.ofUri "tcp://u:p@[0::1]:05005/x" = .ok ⟨"[::1]", 5005⟩ := by
  decide +kernel

/-- The port of an address is not found if it is the usual one of the scheme. -/
theorem ofUri_usual_port :
    (Url.read "http://h:80").toBool = true ∧
      SpellsPort (significant "http://h:80".toList) "http" ['h']
        ⟨'8', ['0'], List.all_eq_true.mp rfl⟩ ∧
      Endpoint.ofUri "http://h:80" = .error (.invalidAdapterUri "http://h:80: missing port") := by
  refine ⟨by decide +kernel, ?_, by decide +kernel⟩
  refine ⟨['h', 't', 't', 'p'], ['/', '/'], _, [], [], by decide +kernel,
    ⟨⟨'h', rfl, rfl⟩, List.all_eq_true.mp rfl⟩, by decide +kernel,
    .special _ _ (List.all_eq_true.mp rfl) ?_, ⟨rfl, ?_, ?_⟩, rfl⟩
  · rintro c ⟨⟩
    rfl
  · exact ⟨nofun, absurd rfl, by decide +kernel⟩
  · exact Url.hostEnds_iff.mpr rfl

end Debug

end LanguageClient
