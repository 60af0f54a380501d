import CheckBinding.Proofs.Json.Values
import Mathlib.Data.List.TakeWhile

/-!
The written forms of texts and lists, as a grammar.

A form relates characters to the value that they write, white space and escapes included. It does
not mention the reader. That the reader follows it has two directions: what is read as a value
stands at the front of the text in its form (`Reads.sound`), and what stands there in its form is
read as the value (`Reads.complete`). Since the reader gives one answer, a text writes at most one
value.
-/

namespace CheckBinding

/-! ### Strings -/

namespace StringToken

/-- What may stand between two quotes, and the characters that it writes. -/
inductive Writes : List Char → List Char → Prop
  | nil : Writes [] []
  | plain {character : Char} {raw text : List Char} (notQuote : character ≠ '"')
      (notBackslash : character ≠ '\\') (printable : 32 ≤ character.toNat)
      (rest : Writes raw text) : Writes (character :: raw) (character :: text)
  | letter {mark character : Char} {raw text : List Char}
      (known : shortEscape? mark = some character) (rest : Writes raw text) :
      Writes ('\\' :: mark :: raw) (character :: text)
  | unit {a b c d : Char} {point : Nat} {raw text : List Char}
      (known : hexQuad? a b c d = some point) (whole : point < 0xD800 ∨ 0xE000 ≤ point)
      (rest : Writes raw text) :
      Writes ('\\' :: 'u' :: a :: b :: c :: d :: raw) (Char.ofNat point :: text)
  | pair {a b c d e f g h : Char} {high low : Nat} {raw text : List Char}
      (knownHigh : hexQuad? a b c d = some high) (isHigh : 0xD800 ≤ high ∧ high < 0xDC00)
      (knownLow : hexQuad? e f g h = some low) (isLow : 0xDC00 ≤ low ∧ low < 0xE000)
      (rest : Writes raw text) :
      Writes ('\\' :: 'u' :: a :: b :: c :: d :: '\\' :: 'u' :: e :: f :: g :: h :: raw)
        (Char.ofNat (0x10000 + (high - 0xD800) * 1024 + (low - 0xDC00)) :: text)

/-- No quote in some characters ends a token. -/
def Passes (before : List Char) : Prop :=
  ∀ rest, splitAtQuote (before ++ rest) =
    (splitAtQuote rest).map (fun split => (before ++ split.1, split.2))

theorem Passes.append {before after : List Char} (first : Passes before) (second : Passes after) :
    Passes (before ++ after) := by
  intro rest
  rw [List.append_assoc, first, second, Option.map_map]
  refine congrArg (fun add => (splitAtQuote rest).map add) (funext fun split => ?_)
  rw [Function.comp_apply, List.append_assoc]

/-- A token that goes on behind characters without an end goes on as a token. -/
theorem Passes.closes {before text raw rest : List Char} (passes : Passes before)
    (split : splitAtQuote (before ++ text) = some (before ++ raw, rest)) :
    splitAtQuote text = some (raw, rest) := by
  rw [passes] at split
  obtain ⟨⟨inside, after⟩, found, same⟩ := Option.map_eq_some_iff.mp split
  obtain ⟨front, rfl⟩ := Prod.mk.inj same
  rw [found, ← List.append_cancel_left front]

theorem passes_nil : Passes [] := by
  intro rest
  simp

theorem passes_plain {character : Char} (notQuote : character ≠ '"')
    (notBackslash : character ≠ '\\') : Passes [character] := by
  intro rest
  simp [splitAtQuote, notBackslash]

theorem passes_escape (mark : Char) : Passes ['\\', mark] := by
  intro rest
  simp [splitAtQuote]

theorem hexValue?_plain {digit : Char} {value : Nat} (known : Text.hexValue? digit = some value) :
    digit ≠ '"' ∧ digit ≠ '\\' := by
  constructor
  · rintro rfl
    cases known
  · rintro rfl
    cases known

theorem passes_unit {a b c d : Char} {point : Nat} (known : hexQuad? a b c d = some point) :
    Passes ['\\', 'u', a, b, c, d] := by
  simp only [hexQuad?, Option.bind_eq_bind, Option.bind_eq_some_iff] at known
  obtain ⟨_, first, _, second, _, third, _, fourth, -⟩ := known
  have digit : ∀ {character : Char} {value : Nat},
      Text.hexValue? character = some value → Passes [character] := by
    intro character value known
    exact passes_plain (hexValue?_plain known).1 (hexValue?_plain known).2
  exact (passes_escape 'u').append
    ((digit first).append ((digit second).append ((digit third).append (digit fourth))))

theorem Writes.passes {raw text : List Char} (writes : Writes raw text) : Passes raw := by
  induction writes with
  | nil => exact passes_nil
  | plain notQuote notBackslash printable _ ih =>
      exact (passes_plain notQuote notBackslash).append ih
  | @letter mark _ _ _ known _ ih => exact (passes_escape mark).append ih
  | unit known whole _ ih => exact (passes_unit known).append ih
  | pair knownHigh isHigh knownLow isLow _ ih =>
      exact (passes_unit knownHigh).append ((passes_unit knownLow).append ih)

theorem Writes.wellEscaped {raw text : List Char} (writes : Writes raw text) :
    wellEscaped raw = true := by
  induction writes with
  | nil => rfl
  | plain notQuote notBackslash printable _ ih =>
      simp [StringToken.wellEscaped, notBackslash, printable, ih]
  | @letter mark _ _ _ known _ ih =>
      have different : mark ≠ 'u' := by
        rintro rfl
        cases known
      simp [StringToken.wellEscaped, different, known, ih]
  | unit known whole _ ih => simp [StringToken.wellEscaped, known, ih]
  | pair knownHigh isHigh knownLow isLow _ ih =>
      simp [StringToken.wellEscaped, knownHigh, knownLow, ih]

theorem unescape?_pair {a b c d e f g h : Char} {high low : Nat}
    (knownHigh : hexQuad? a b c d = some high) (isHigh : 0xD800 ≤ high ∧ high < 0xDC00)
    (knownLow : hexQuad? e f g h = some low) (isLow : 0xDC00 ≤ low ∧ low < 0xE000)
    (rest : List Char) :
    unescape? ('\\' :: 'u' :: a :: b :: c :: d :: '\\' :: 'u' :: e :: f :: g :: h :: rest) =
      (unescape? rest).map
        (Char.ofNat (0x10000 + (high - 0xD800) * 1024 + (low - 0xDC00)) :: ·) := by
  rw [unescape?]
  simp only [knownHigh, knownLow, Option.bind_eq_bind, Option.bind_some, if_pos isHigh,
    if_pos isLow]
  cases unescape? rest <;> rfl

theorem Writes.unescape? {raw text : List Char} (writes : Writes raw text) :
    unescape? raw = some text := by
  induction writes with
  | nil => rw [StringToken.unescape?]
  | plain notQuote notBackslash printable _ ih =>
      rw [unescape?_plain notBackslash printable, ih]
      rfl
  | @letter mark _ _ _ known _ ih =>
      have different : mark ≠ 'u' := by
        rintro rfl
        cases known
      rw [unescape?_mark different known, ih]
      rfl
  | unit known whole _ ih =>
      rw [unescape?_point known whole, ih]
      rfl
  | pair knownHigh isHigh knownLow isLow _ ih =>
      rw [unescape?_pair knownHigh isHigh knownLow isLow, ih]
      rfl

theorem Writes.wellFormed {raw text : List Char} (writes : Writes raw text) :
    WellFormed ⟨raw⟩ := by
  intro rest
  have split : splitAtQuote (raw ++ '"' :: rest) = some (raw, rest) := by
    rw [writes.passes]
    simp [splitAtQuote]
  simp only [read, split, Option.bind_eq_bind, Option.bind_some, writes.wellEscaped, if_true]
  rfl

/-- What is split off stood before a quote, and is split off wherever it stands there. -/
theorem splitAtQuote_eq_some {text raw rest : List Char}
    (split : splitAtQuote text = some (raw, rest)) :
    text = raw ++ '"' :: rest ∧ splitAtQuote (raw ++ ['"']) = some (raw, []) := by
  induction text using splitAtQuote.induct generalizing raw with
  | case1 => cases split
  | case2 rest =>
      cases split
      exact ⟨rfl, rfl⟩
  | case3 mark after ih =>
      rw [splitAtQuote] at split
      obtain ⟨⟨inside, last⟩, found, same⟩ := Option.map_eq_some_iff.mp split
      cases same
      obtain ⟨whole, closes⟩ := ih found
      refine ⟨by rw [whole]; rfl, ?_⟩
      rw [List.cons_append, List.cons_append, splitAtQuote, closes]
      rfl
  | case4 head after notQuote notEscape ih =>
      rw [splitAtQuote.eq_4 _ _ notQuote notEscape] at split
      obtain ⟨⟨inside, last⟩, found, same⟩ := Option.map_eq_some_iff.mp split
      cases same
      obtain ⟨whole, closes⟩ := ih found
      have notBackslash : head ≠ '\\' := by
        rintro rfl
        cases after with
        | nil => cases found
        | cons mark tail => exact notEscape mark tail rfl rfl
      refine ⟨by rw [whole]; rfl, ?_⟩
      rw [List.cons_append, ← List.singleton_append, passes_plain notQuote notBackslash, closes]
      rfl

/-- A token that is read as a text is one that writes it. -/
theorem writes_of_unescape? {raw text : List Char} (read : unescape? raw = some text)
    (closes : splitAtQuote (raw ++ ['"']) = some (raw, [])) : Writes raw text := by
  induction raw using unescape?.induct generalizing text with
  | case1 =>
      rw [unescape?] at read
      cases read
      exact .nil
  | case2 a b c d e f g h rest ihPair ihUnit =>
      rw [unescape?] at read
      obtain ⟨high, knownHigh, read⟩ := Option.bind_eq_some_iff.mp read
      split at read
      · next isHigh =>
        obtain ⟨low, knownLow, read⟩ := Option.bind_eq_some_iff.mp read
        split at read
        · next isLow =>
          obtain ⟨tail, known, read⟩ := Option.bind_eq_some_iff.mp read
          cases read
          have inside := ((passes_unit knownHigh).append (passes_unit knownLow)).closes closes
          exact .pair knownHigh isHigh knownLow isLow (ihPair known inside)
        · cases read
      · split at read
        · cases read
        · obtain ⟨tail, known, read⟩ := Option.bind_eq_some_iff.mp read
          cases read
          exact .unit knownHigh (by omega) (ihUnit known ((passes_unit knownHigh).closes closes))
  | case3 a b c d rest single ih =>
      rw [unescape?.eq_3 a b c d rest single] at read
      obtain ⟨point, known, read⟩ := Option.bind_eq_some_iff.mp read
      split at read
      · cases read
      · obtain ⟨tail, after, read⟩ := Option.bind_eq_some_iff.mp read
        cases read
        exact .unit known (by omega) (ih after ((passes_unit known).closes closes))
  | case4 mark rest notPair notUnit ih =>
      rw [unescape?.eq_4 mark rest notPair notUnit] at read
      obtain ⟨character, known, read⟩ := Option.bind_eq_some_iff.mp read
      obtain ⟨tail, after, read⟩ := Option.bind_eq_some_iff.mp read
      cases read
      exact .letter known (ih after ((passes_escape mark).closes closes))
  | case5 head rest notPair notUnit notEscape bad =>
      rw [unescape?.eq_5 head rest notPair notUnit notEscape, if_pos bad] at read
      cases read
  | case6 head rest notPair notUnit notEscape good ih =>
      rw [unescape?.eq_5 head rest notPair notUnit notEscape, if_neg good] at read
      obtain ⟨tail, after, read⟩ := Option.bind_eq_some_iff.mp read
      cases read
      have notQuote : head ≠ '"' := by
        rintro rfl
        cases closes
      rw [not_or, Nat.not_lt] at good
      exact .plain notQuote good.1 good.2
        (ih after ((passes_plain notQuote good.1).closes closes))

/-- A token that was read and stands for a text writes it, up to the quote that ends it. -/
theorem writes_of_read {text rest : List Char} {token : StringToken} {value : String}
    (found : read text = some (token, rest)) (known : token.text? = some value) :
    ∃ characters, Writes token.raw characters ∧ String.ofList characters = value ∧
      text = token.raw ++ '"' :: rest := by
  obtain ⟨⟨raw, behind⟩, split, found⟩ := Option.bind_eq_some_iff.mp found
  dsimp only at found
  split at found
  · cases found
    obtain ⟨here, closes⟩ := splitAtQuote_eq_some split
    obtain ⟨characters, resolved, same⟩ := Option.map_eq_some_iff.mp known
    exact ⟨characters, writes_of_unescape? resolved closes, same, here⟩
  · cases found

end StringToken

namespace Json

variable {Value : Type}

/-! ### The forms -/

def Gap (text : List Char) : Prop :=
  ∀ space ∈ text, isSpace space = true

/-- The written forms of the values of a type. -/
abbrev Form (Value : Type) := List Char → Value → Prop

inductive Quoted : Form String
  | intro {raw text : List Char} (writes : StringToken.Writes raw text) :
      Quoted (StringToken.render ⟨raw⟩) (String.ofList text)

inductive Items (form : Form Value) : Form (List Value)
  | last {gap body outer : List Char} {value : Value} (blank : Gap gap)
      (written : form body value) (outerBlank : Gap outer) :
      Items form (itemChars gap body outer ++ [']']) [value]
  | item {gap body outer others : List Char} {value : Value} {values : List Value}
      (blank : Gap gap) (written : form body value) (outerBlank : Gap outer)
      (further : Items form others values) :
      Items form (itemChars gap body outer ++ ',' :: others) (value :: values)

inductive Listed (form : Form Value) : Form (List Value)
  | empty {gap : List Char} (blank : Gap gap) : Listed form ('[' :: (gap ++ [']'])) []
  | given {text : List Char} {values : List Value} (items : Items form text values) :
      Listed form ('[' :: text) values

def Document (form : Form Value) (text : String) (value : Value) : Prop :=
  ∃ gap body outer, Gap gap ∧ form body value ∧ Gap outer ∧ text.toList = itemChars gap body outer

/-! ### Reading them -/

theorem exists_gap (text : List Char) : ∃ gap, Gap gap ∧ text = gap ++ skipSpace text :=
  ⟨text.takeWhile isSpace, fun _ member => List.mem_takeWhile_imp member,
    List.takeWhile_append_dropWhile.symm⟩

theorem gap_of_skipSpace {text : List Char} (blank : skipSpace text = []) : Gap text :=
  List.dropWhile_eq_nil_iff.mp blank

theorem Gap.skipSpace {gap : List Char} (blank : Gap gap) : skipSpace gap = [] :=
  List.dropWhile_eq_nil_iff.mpr blank

def Foreign : Json → Prop
  | .string _ => False
  | .array _ => False
  | .object _ => False
  | _ => True

inductive Fronts (steps : Nat) (text rest : List Char) : Json → Prop
  | string {after : List Char} {token : StringToken} (begins : skipSpace text = '"' :: after)
      (inside : StringToken.read after = some (token, rest)) :
      Fronts steps text rest (.string token)
  | empty {after : List Char} (begins : skipSpace text = '[' :: after)
      (ends : skipSpace after = ']' :: rest) : Fronts steps text rest (.array [])
  | items {after : List Char} {items : List Json} (begins : skipSpace text = '[' :: after)
      (inside : readItems steps after = some (items, rest)) : Fronts steps text rest (.array items)
  | bare {after : List Char} (begins : skipSpace text = '\x7b' :: after)
      (ends : skipSpace after = '\x7d' :: rest) : Fronts steps text rest (.object [])
  | members {after : List Char} {members : List (StringToken × Json)}
      (begins : skipSpace text = '\x7b' :: after)
      (inside : readMembers steps after = some (members, rest)) :
      Fronts steps text rest (.object members)
  | other {document : Json} (foreign : document.Foreign) : Fronts steps text rest document

theorem fronts_of_readValue {steps : Nat} {text rest : List Char} {document : Json}
    (read : readValue (steps + 1) text = some (document, rest)) :
    Fronts steps text rest document := by
  rw [readValue] at read
  split at read
  · cases read
    exact .other trivial
  · cases read
    exact .other trivial
  · cases read
    exact .other trivial
  · next after begins =>
    obtain ⟨⟨token, behind⟩, inside, same⟩ := Option.map_eq_some_iff.mp read
    cases same
    exact .string begins inside
  · next after begins =>
    split at read
    · next behind ends =>
      cases read
      exact .empty begins ends
    · obtain ⟨⟨items, behind⟩, inside, same⟩ := Option.map_eq_some_iff.mp read
      cases same
      rw [readItems_skipSpace] at inside
      exact .items begins inside
  · next after begins =>
    split at read
    · next behind ends =>
      cases read
      exact .bare begins ends
    · obtain ⟨⟨members, behind⟩, inside, same⟩ := Option.map_eq_some_iff.mp read
      cases same
      rw [readMembers_skipSpace] at inside
      exact .members begins inside
  · obtain ⟨⟨numeral, behind⟩, -, same⟩ := Option.map_eq_some_iff.mp read
    cases same
    exact .other trivial

/-- A decoder takes what is written in a form, and nothing else. -/
structure Reads (decode : Decoder Value) (form : Form Value) : Prop where
  sound : ∀ {steps : Nat} {text rest : List Char} {document : Json} {value : Value},
    readValue steps text = some (document, rest) → decode document = .ok value →
      ∃ gap body, Gap gap ∧ form body value ∧ text = gap ++ (body ++ rest)
  complete : ∀ {body : List Char} {value : Value}, form body value →
    ∃ document, Spells document body ∧ decode document = .ok value

theorem reads_text : Reads asText Quoted where
  sound := by
    intro steps text rest document value read decoded
    obtain ⟨gap, blank, whole⟩ := exists_gap text
    cases steps with
    | zero => cases read
    | succ steps =>
        cases fronts_of_readValue read with
        | @string after token begins inside =>
            rw [asText] at decoded
            split at decoded
            · next text known =>
              cases decoded
              obtain ⟨characters, writes, rfl, here⟩ := StringToken.writes_of_read inside known
              refine ⟨gap, _, blank, .intro writes, ?_⟩
              rw [whole, begins, here]
              simp [StringToken.render]
            · cases decoded
        | other foreign =>
            cases document with
            | string token => exact foreign.elim
            | _ => cases decoded
        | _ => cases decoded
  complete := by
    intro body value written
    obtain ⟨writes⟩ := written
    refine ⟨_, spells_string writes.wellFormed, ?_⟩
    rw [asText, StringToken.text?, writes.unescape?]
    rfl

section Lists

variable {decode : Decoder Value} {form : Form Value}

theorem Reads.items_sound (reads : Reads decode form) {steps : Nat} {text rest : List Char}
    {items : List Json} {values : List Value} (read : readItems steps text = some (items, rest))
    (decoded : items.mapM decode = .ok values) :
    ∃ body, Items form body values ∧ text = body ++ rest := by
  induction steps generalizing text items values with
  | zero => cases read
  | succ steps ih =>
      rw [readItems] at read
      obtain ⟨⟨first, after⟩, here, read⟩ := Option.bind_eq_some_iff.mp read
      obtain ⟨outer, outerBlank, behind⟩ := exists_gap after
      dsimp only at read
      split at read
      · next later begins =>
        obtain ⟨⟨others, last⟩, further, read⟩ := Option.bind_eq_some_iff.mp read
        cases read
        rw [List.mapM_cons] at decoded
        obtain ⟨value, decodedFirst, decoded⟩ := bind_eq_ok.mp decoded
        obtain ⟨others, decodedOthers, decoded⟩ := bind_eq_ok.mp decoded
        cases decoded
        obtain ⟨gap, body, blank, written, whole⟩ := reads.sound here decodedFirst
        obtain ⟨rest, items, same⟩ := ih further decodedOthers
        refine ⟨_, .item blank written outerBlank items, ?_⟩
        rw [whole, behind, begins, same]
        simp [itemChars]
      · next later begins =>
        cases read
        rw [List.mapM_cons] at decoded
        obtain ⟨value, decodedFirst, decoded⟩ := bind_eq_ok.mp decoded
        cases decoded
        obtain ⟨gap, body, blank, written, whole⟩ := reads.sound here decodedFirst
        refine ⟨_, .last blank written outerBlank, ?_⟩
        rw [whole, behind, begins]
        simp [itemChars]
      · cases read

theorem Reads.items_complete (reads : Reads decode form) {text : List Char} {values : List Value}
    (written : Items form text values) :
    ∃ items, SpellsItems items text ∧ items.mapM decode = .ok values := by
  induction written with
  | last blank written outerBlank =>
      obtain ⟨document, spells, decoded⟩ := reads.complete written
      refine ⟨[document], spells.lastItem blank outerBlank, ?_⟩
      rw [List.mapM_cons, decoded]
      rfl
  | item blank written outerBlank _ ih =>
      obtain ⟨document, spells, decoded⟩ := reads.complete written
      obtain ⟨items, further, decodedOthers⟩ := ih
      refine ⟨document :: items, spells.item blank outerBlank further, ?_⟩
      rw [List.mapM_cons, decoded, decodedOthers]
      rfl

/-- White space may be added in front of items. -/
theorem Items.behind {front text : List Char} {values : List Value}
    (written : Items form text values) (frontBlank : Gap front) :
    Items form (front ++ text) values := by
  cases written with
  | @last gap body outer value blank written outerBlank =>
      have whole : Gap (front ++ gap) := List.forall_mem_append.mpr ⟨frontBlank, blank⟩
      have items := Items.last whole written outerBlank
      simp only [itemChars, List.append_assoc] at items ⊢
      exact items
  | @item gap body outer others value values blank written outerBlank further =>
      have whole : Gap (front ++ gap) := List.forall_mem_append.mpr ⟨frontBlank, blank⟩
      have items := Items.item whole written outerBlank further
      simp only [itemChars, List.append_assoc] at items ⊢
      exact items

/-- White space may be taken away in front of items; what they begin with then does not end the
array. -/
theorem Reads.skipSpace_items (reads : Reads decode form) {text : List Char} {values : List Value}
    (written : Items form text values) :
    ∃ head tail, head ≠ ']' ∧ Items form (head :: tail) values ∧
      ∀ rest, skipSpace (text ++ rest) = head :: (tail ++ rest) := by
  have begins : ∀ {body : List Char} {value : Value}, form body value →
      ∃ head tail, body = head :: tail ∧ isSpace head = false ∧ head ≠ ']' := by
    intro body value written
    obtain ⟨document, spells, -⟩ := reads.complete written
    exact spells.starts
  cases written with
  | @last gap body outer value blank written outerBlank =>
      obtain ⟨head, tail, rfl, solid, notEnd⟩ := begins written
      have items : Items form (itemChars [] (head :: tail) outer ++ [']']) [value] :=
        .last (List.forall_mem_nil _) written outerBlank
      refine ⟨head, tail ++ outer ++ [']'], notEnd, items, fun rest => ?_⟩
      simp [itemChars, skipSpace_append blank, skipSpace_cons solid]
  | @item gap body outer others value values blank written outerBlank further =>
      obtain ⟨head, tail, rfl, solid, notEnd⟩ := begins written
      have items : Items form (itemChars [] (head :: tail) outer ++ ',' :: others)
          (value :: values) := .item (List.forall_mem_nil _) written outerBlank further
      refine ⟨head, tail ++ outer ++ ',' :: others, notEnd, items, fun rest => ?_⟩
      simp [itemChars, skipSpace_append blank, skipSpace_cons solid]

theorem Reads.list (reads : Reads decode form) : Reads (asList decode) (Listed form) where
  sound := by
    intro steps text rest document values read decoded
    obtain ⟨gap, blank, whole⟩ := exists_gap text
    cases steps with
    | zero => cases read
    | succ steps =>
        cases fronts_of_readValue read with
        | @empty after begins ends =>
            obtain ⟨inner, innerBlank, behind⟩ := exists_gap after
            cases decoded
            refine ⟨gap, _, blank, .empty innerBlank, ?_⟩
            rw [whole, begins, behind, ends]
            simp
        | items begins inside =>
            obtain ⟨body, items, behind⟩ := reads.items_sound inside decoded
            refine ⟨gap, _, blank, .given items, ?_⟩
            rw [whole, begins, behind]
            rfl
        | other foreign =>
            cases document with
            | array items => exact foreign.elim
            | _ => cases decoded
        | _ => cases decoded
  complete := by
    intro body values written
    cases written with
    | empty blank =>
        exact ⟨.array [], spells_array_nil blank, rfl⟩
    | given written =>
        obtain ⟨items, spells, decoded⟩ := reads.items_complete written
        exact ⟨.array items, spells.array, decoded⟩

/-- A text is decoded as a value if and only if it consists of the value in its form. -/
theorem Reads.decodeText_eq_ok (reads : Reads decode form) {text : String} {value : Value} :
    decodeText decode text = .ok value ↔ Document form text value := by
  constructor
  · intro decoded
    unfold decodeText parse? at decoded
    split at decoded
    · next document parsed =>
      obtain ⟨⟨found, rest⟩, read, parsed⟩ := Option.bind_eq_some_iff.mp parsed
      dsimp only at parsed
      split at parsed
      · next ends =>
        cases parsed
        obtain ⟨gap, body, blank, written, whole⟩ := reads.sound read decoded
        exact ⟨gap, body, rest, blank, written, gap_of_skipSpace (List.isEmpty_iff.mp ends), whole⟩
      · cases parsed
    · cases decoded
  · rintro ⟨gap, body, outer, blank, written, outerBlank, whole⟩
    obtain ⟨document, spells, decoded⟩ := reads.complete written
    have enough : body.length < stepsFor text.toList := by
      rw [whole, stepsFor, itemChars, List.length_append, List.length_append]
      omega
    have read := readValue_itemChars blank outerBlank spells enough closed_nil
    rw [List.append_nil, List.append_nil, ← whole] at read
    have parsed : parse? text = some document := by
      rw [parse?, readFront, read]
      simp [outerBlank.skipSpace]
    rw [decodeText, parsed]
    exact decoded

end Lists

end Json
end CheckBinding
