import CheckBinding.Json.Decode
import CheckBinding.Json.Writer
import CheckBinding.Proofs.Json.Strings

/-!
Reading a document gives back what was written.

`Spells` says that a text is a written form of a document whatever closes it off behind. It is put
together from the parts of a document, with white space where the format allows it, so that it
serves the compact writer and texts that are laid out in lines.
-/

namespace CheckBinding

open Text

/-! ### Numbers -/

/-- A character that a number in front of it would go on with. -/
def continuesNumber (character : Char) : Bool :=
  isDigit character || character = '.' || character = 'e' || character = 'E'

def Closed (rest : List Char) : Prop :=
  ∀ head ∈ rest.head?, continuesNumber head = false

theorem closed_nil : Closed [] := by
  intro head member
  cases member

theorem closed_cons {head : Char} (rest : List Char) (plain : continuesNumber head = false) :
    Closed (head :: rest) := by
  intro other member
  cases member
  exact plain

namespace Numeral

/-- A numeral as the format allows it: no zero in front of other digits, and digits wherever a
mark announces them. -/
structure WellFormed (numeral : Numeral) : Prop where
  whole : numeral.whole = ['0'] ∨ (numeral.whole ≠ [] ∧ numeral.whole.head? ≠ some '0')
  wholeDigits : ∀ digit ∈ numeral.whole, isDigit digit = true
  fractionDigits : ∀ digit ∈ numeral.fraction, isDigit digit = true
  exponentDigits : ∀ negative digits, numeral.exponent = some (negative, digits) →
    digits ≠ [] ∧ ∀ digit ∈ digits, isDigit digit = true

private def Undigited (rest : List Char) : Prop :=
  ∀ head ∈ rest.head?, isDigit head = false

private theorem takeWhile_digits {digits rest : List Char}
    (each : ∀ digit ∈ digits, isDigit digit = true) (ends : Undigited rest) :
    (digits ++ rest).takeWhile isDigit = digits ∧ (digits ++ rest).dropWhile isDigit = rest := by
  have stops : rest.takeWhile isDigit = [] ∧ rest.dropWhile isDigit = rest := by
    cases rest with
    | nil => exact ⟨rfl, rfl⟩
    | cons head tail =>
        have plain := ends head rfl
        exact ⟨List.takeWhile_cons_of_neg (by simp [plain]),
          List.dropWhile_cons_of_neg (by simp [plain])⟩
  rw [List.takeWhile_append_of_pos each, List.dropWhile_append_of_pos each, stops.1, stops.2,
    List.append_nil]
  exact ⟨rfl, rfl⟩

private theorem readWhole_append {numeral : Numeral} (wellFormed : numeral.WellFormed)
    {rest : List Char} (ends : Undigited rest) :
    readWhole (numeral.whole ++ rest) = some (numeral.whole, rest) := by
  obtain ⟨taken, dropped⟩ := takeWhile_digits wellFormed.wholeDigits ends
  unfold readWhole
  rw [taken, dropped]
  rcases wellFormed.whole with zero | ⟨present, notZero⟩
  · rw [zero]
    rfl
  · cases digits : numeral.whole with
    | nil => exact absurd digits present
    | cons head tail =>
        have headNotZero : head ≠ '0' := by
          intro same
          rw [digits, same] at notZero
          exact notZero rfl
        simp [headNotZero]

private theorem readFraction_append {numeral : Numeral} (wellFormed : numeral.WellFormed)
    {rest : List Char} (ends : Undigited rest) (notPoint : rest.head? ≠ some '.') :
    readFraction ((if numeral.fraction.isEmpty then [] else '.' :: numeral.fraction) ++ rest) =
      some (numeral.fraction, rest) := by
  cases digits : numeral.fraction with
  | nil =>
      cases rest with
      | nil => rfl
      | cons head tail =>
          have headNotPoint : head ≠ '.' := by
            intro same
            exact notPoint (congrArg some same)
          simp [readFraction, headNotPoint]
  | cons head tail =>
      have each := wellFormed.fractionDigits
      rw [digits] at each
      obtain ⟨taken, dropped⟩ := takeWhile_digits each ends
      rw [List.cons_append] at taken dropped
      simp [readFraction, taken, dropped]

private def exponentChars (exponent : Option (Bool × List Char)) : List Char :=
  match exponent with
  | none => []
  | some (negative, digits) => 'e' :: (if negative then ['-'] else []) ++ digits

private theorem readExponent_append {numeral : Numeral} (wellFormed : numeral.WellFormed)
    {rest : List Char} (closed : Closed rest) :
    readExponent (exponentChars numeral.exponent ++ rest) = some (numeral.exponent, rest) := by
  have ends : Undigited rest := by
    intro head member
    have plain := closed head member
    simp only [continuesNumber, Bool.or_eq_false_iff] at plain
    exact plain.1.1.1
  cases written : numeral.exponent with
  | none =>
      cases rest with
      | nil => rfl
      | cons head tail =>
          have plain := closed head rfl
          simp only [continuesNumber, Bool.or_eq_false_iff, decide_eq_false_iff_not] at plain
          simp [exponentChars, readExponent, plain.1.2, plain.2]
  | some exponent =>
      obtain ⟨negative, digits⟩ := exponent
      obtain ⟨present, each⟩ := wellFormed.exponentDigits negative digits written
      obtain ⟨taken, dropped⟩ := takeWhile_digits each ends
      cases digits with
      | nil => exact absurd rfl present
      | cons head tail =>
          have isDigitHead := each head List.mem_cons_self
          have notMinus : head ≠ '-' := by
            rintro rfl
            cases isDigitHead
          have notPlus : head ≠ '+' := by
            rintro rfl
            cases isDigitHead
          rw [List.cons_append] at taken dropped
          cases negative with
          | true => simp [exponentChars, readExponent, readExponentDigits, taken, dropped]
          | false =>
              simp [exponentChars, readExponent, readExponentDigits, taken, dropped, notMinus,
                notPlus]

private theorem render_eq (numeral : Numeral) :
    numeral.render = (if numeral.negative then ['-'] else []) ++ (numeral.whole ++
      ((if numeral.fraction.isEmpty then [] else '.' :: numeral.fraction) ++
        exponentChars numeral.exponent)) := by
  cases written : numeral.exponent with
  | none => simp [render, exponentChars, written]
  | some exponent => simp [render, exponentChars, written]

/-- The marks behind the whole digits are no digits, and neither is what closes the numeral. -/
private theorem undigited_exponent {exponent : Option (Bool × List Char)} {rest : List Char}
    (closed : Closed rest) : Undigited (exponentChars exponent ++ rest) ∧
      (exponentChars exponent ++ rest).head? ≠ some '.' := by
  cases exponent with
  | none =>
      constructor
      · intro head member
        have plain := closed head member
        simp only [continuesNumber, Bool.or_eq_false_iff] at plain
        exact plain.1.1.1
      · intro point
        cases closed '.' point
  | some exponent =>
      constructor
      · intro head member
        cases member
        rfl
      · intro point
        cases point

/-- Reading a numeral undoes writing it, where no character of a number follows. -/
theorem read_render {numeral : Numeral} (wellFormed : numeral.WellFormed) {rest : List Char}
    (closed : Closed rest) : read (numeral.render ++ rest) = some (numeral, rest) := by
  obtain ⟨undigited, notPoint⟩ := @undigited_exponent numeral.exponent rest closed
  have undigitedFraction : Undigited ((if numeral.fraction.isEmpty then [] else
      '.' :: numeral.fraction) ++ (exponentChars numeral.exponent ++ rest)) := by
    by_cases none : numeral.fraction.isEmpty = true
    · rw [if_pos none]
      exact undigited
    · rw [if_neg none]
      intro head member
      cases member
      rfl
  have whole := readWhole_append wellFormed undigitedFraction
  have fraction := readFraction_append wellFormed undigited notPoint
  have exponent := readExponent_append wellFormed closed
  rw [render_eq]
  simp only [List.append_assoc]
  generalize (if numeral.fraction.isEmpty then [] else '.' :: numeral.fraction) ++
    (exponentChars numeral.exponent ++ rest) = behind at whole fraction ⊢
  obtain ⟨negative, digits, fractionDigits, written⟩ := numeral
  cases negative with
  | true => simp [read, whole, fraction, exponent]
  | false =>
      cases digits with
      | nil =>
          rcases wellFormed.whole with zero | ⟨present, -⟩
          · cases zero
          · exact absurd rfl present
      | cons head tail =>
          have isDigitHead := wellFormed.wholeDigits head List.mem_cons_self
          have notMinus : head ≠ '-' := by
            rintro rfl
            cases isDigitHead
          rw [List.cons_append] at whole
          simp [read, notMinus, whole, fraction, exponent]

end Numeral

namespace Json

/-! ### Texts that spell a document -/

@[simp]
theorem skipSpace_skipSpace (text : List Char) : skipSpace (skipSpace text) = skipSpace text := by
  induction text with
  | nil => rfl
  | cons head rest ih =>
      cases space : isSpace head with
      | true =>
          have skips : skipSpace (head :: rest) = skipSpace rest :=
            List.dropWhile_cons_of_pos space
          rw [skips, ih]
      | false =>
          have stays : skipSpace (head :: rest) = head :: rest :=
            List.dropWhile_cons_of_neg (by simp [space])
          rw [stays, stays]

theorem skipSpace_append {gap : List Char} (blank : ∀ space ∈ gap, isSpace space = true)
    (text : List Char) : skipSpace (gap ++ text) = skipSpace text :=
  List.dropWhile_append_of_pos blank

theorem skipSpace_cons {head : Char} (solid : isSpace head = false) (rest : List Char) :
    skipSpace (head :: rest) = head :: rest :=
  List.dropWhile_cons_of_neg (by simp [solid])

theorem closed_space {head : Char} (space : isSpace head = true) (rest : List Char) :
    Closed (head :: rest) := by
  simp only [isSpace, Bool.or_eq_true, decide_eq_true_eq] at space
  rcases space with ((rfl | rfl) | rfl) | rfl <;> exact closed_cons rest (by decide)

theorem closed_append {gap rest : List Char} (blank : ∀ space ∈ gap, isSpace space = true)
    (closed : Closed rest) : Closed (gap ++ rest) := by
  cases gap with
  | nil => exact closed
  | cons head tail => exact closed_space (blank head List.mem_cons_self) _

theorem readValue_skipSpace (steps : Nat) (text : List Char) :
    readValue steps (skipSpace text) = readValue steps text := by
  cases steps with
  | zero => rfl
  | succ steps => simp only [readValue, skipSpace_skipSpace]

theorem readItems_skipSpace (steps : Nat) (text : List Char) :
    readItems steps (skipSpace text) = readItems steps text := by
  cases steps with
  | zero => rfl
  | succ steps => simp only [readItems, readValue_skipSpace]

theorem readMembers_skipSpace (steps : Nat) (text : List Char) :
    readMembers steps (skipSpace text) = readMembers steps text := by
  cases steps with
  | zero => rfl
  | succ steps => simp only [readMembers, skipSpace_skipSpace]

/-- A text is a written form of a document: it begins like a value, and with enough steps it is
read as the document wherever something closes it off. -/
structure Spells (document : Json) (text : List Char) : Prop where
  starts : ∃ head tail, text = head :: tail ∧ isSpace head = false ∧ head ≠ ']'
  reads : ∀ steps rest, text.length < steps → Closed rest →
    readValue steps (text ++ rest) = some (document, rest)

structure SpellsItems (items : List Json) (text : List Char) : Prop where
  starts : ∀ rest, ∃ head tail, skipSpace (text ++ rest) = head :: tail ∧ head ≠ ']'
  reads : ∀ steps rest, text.length < steps →
    readItems steps (text ++ rest) = some (items, rest)

structure SpellsMembers (members : List (StringToken × Json)) (text : List Char) : Prop where
  starts : ∀ rest, ∃ tail, skipSpace (text ++ rest) = '"' :: tail
  reads : ∀ steps rest, text.length < steps →
    readMembers steps (text ++ rest) = some (members, rest)

/-! ### Values -/

theorem spells_null : Spells .null ['n', 'u', 'l', 'l'] where
  starts := ⟨_, _, rfl, by decide, by decide⟩
  reads := by
    intro steps rest enough _
    obtain ⟨steps, rfl⟩ := Nat.exists_eq_succ_of_ne_zero (Nat.ne_zero_of_lt enough)
    rfl

theorem spells_true : Spells (.boolean true) ['t', 'r', 'u', 'e'] where
  starts := ⟨_, _, rfl, by decide, by decide⟩
  reads := by
    intro steps rest enough _
    obtain ⟨steps, rfl⟩ := Nat.exists_eq_succ_of_ne_zero (Nat.ne_zero_of_lt enough)
    rfl

theorem spells_false : Spells (.boolean false) ['f', 'a', 'l', 's', 'e'] where
  starts := ⟨_, _, rfl, by decide, by decide⟩
  reads := by
    intro steps rest enough _
    obtain ⟨steps, rfl⟩ := Nat.exists_eq_succ_of_ne_zero (Nat.ne_zero_of_lt enough)
    rfl

theorem spells_string {token : StringToken} (wellFormed : token.WellFormed) :
    Spells (.string token) token.render where
  starts := ⟨_, _, rfl, by decide, by decide⟩
  reads := by
    intro steps rest enough _
    obtain ⟨steps, rfl⟩ := Nat.exists_eq_succ_of_ne_zero (Nat.ne_zero_of_lt enough)
    have read := wellFormed rest
    simp [StringToken.render, readValue, skipSpace_cons (show isSpace '"' = false by decide), read]

theorem spells_number {numeral : Numeral} (wellFormed : numeral.WellFormed) :
    Spells (.number numeral) numeral.render := by
  have begins : ∃ head tail, numeral.render = head :: tail ∧
      (head = '-' ∨ isDigit head = true) := by
    obtain ⟨negative, digits, fraction, exponent⟩ := numeral
    cases negative with
    | true => exact ⟨'-', _, rfl, Or.inl rfl⟩
    | false =>
        cases digits with
        | nil =>
            rcases wellFormed.whole with zero | ⟨present, -⟩
            · cases zero
            · exact absurd rfl present
        | cons head tail =>
            exact ⟨head, _, rfl, Or.inr (wellFormed.wholeDigits head List.mem_cons_self)⟩
  obtain ⟨head, tail, written, kind⟩ := begins
  -- The reader decides by the first character, which begins no other kind of value.
  have different : ∀ other, isDigit other = false → other ≠ '-' → head ≠ other := by
    rintro other notDigit notMinus rfl
    rcases kind with minus | digit
    · exact notMinus minus
    · rw [notDigit] at digit
      cases digit
  have solid : isSpace head = false := by
    simp [isSpace, different ' ' (by decide) (by decide), different '\n' (by decide) (by decide),
      different '\r' (by decide) (by decide), different '\t' (by decide) (by decide)]
  refine ⟨⟨head, tail, written, solid, different ']' (by decide) (by decide)⟩, ?_⟩
  intro steps rest enough closed
  obtain ⟨steps, rfl⟩ := Nat.exists_eq_succ_of_ne_zero (Nat.ne_zero_of_lt enough)
  have read := Numeral.read_render wellFormed closed
  rw [written, List.cons_append] at read ⊢
  have notNull := different 'n' (by decide) (by decide)
  have notTrue := different 't' (by decide) (by decide)
  have notFalse := different 'f' (by decide) (by decide)
  have notQuote := different '"' (by decide) (by decide)
  have notBracket := different '[' (by decide) (by decide)
  have notBrace := different '\x7b' (by decide) (by decide)
  simp [readValue, skipSpace_cons solid, read, notNull, notTrue, notFalse, notQuote, notBracket,
    notBrace]

/-! ### Arrays -/

theorem spells_array_nil {gap : List Char} (blank : ∀ space ∈ gap, isSpace space = true) :
    Spells (.array []) ('[' :: (gap ++ [']'])) where
  starts := ⟨_, _, rfl, by decide, by decide⟩
  reads := by
    intro steps rest enough _
    obtain ⟨steps, rfl⟩ := Nat.exists_eq_succ_of_ne_zero (Nat.ne_zero_of_lt enough)
    rw [List.cons_append, List.append_assoc, List.singleton_append]
    simp only [readValue, skipSpace_cons (show isSpace '[' = false by decide),
      skipSpace_append blank, skipSpace_cons (show isSpace ']' = false by decide)]

theorem SpellsItems.array {items : List Json} {text : List Char}
    (spells : SpellsItems items text) : Spells (.array items) ('[' :: text) where
  starts := ⟨_, _, rfl, by decide, by decide⟩
  reads := by
    intro steps rest enough _
    obtain ⟨steps, rfl⟩ := Nat.exists_eq_succ_of_ne_zero (Nat.ne_zero_of_lt enough)
    have shorter : text.length < steps := by
      rw [List.length_cons] at enough
      omega
    have read := spells.reads steps rest shorter
    obtain ⟨head, tail, begins, notEnd⟩ := spells.starts rest
    rw [← readItems_skipSpace, begins] at read
    simp [readValue, skipSpace_cons (show isSpace '[' = false by decide), begins, notEnd, read]

def itemChars (gap text outer : List Char) : List Char :=
  gap ++ (text ++ outer)

section Items

variable {gap outer : List Char} {first : Json} {text : List Char}

private theorem itemChars_starts (blank : ∀ space ∈ gap, isSpace space = true)
    (spells : Spells first text) (rest : List Char) :
    ∃ head tail, skipSpace (itemChars gap text outer ++ rest) = head :: tail ∧ head ≠ ']' := by
  obtain ⟨head, tail, rfl, solid, notEnd⟩ := spells.starts
  rw [itemChars, List.append_assoc, skipSpace_append blank]
  exact ⟨head, _, skipSpace_cons solid _, notEnd⟩

theorem readValue_itemChars (blank : ∀ space ∈ gap, isSpace space = true)
    (outerBlank : ∀ space ∈ outer, isSpace space = true) (spells : Spells first text)
    {steps : Nat} {rest : List Char} (enough : text.length < steps) (closed : Closed rest) :
    readValue steps (itemChars gap text outer ++ rest) = some (first, outer ++ rest) := by
  rw [itemChars, List.append_assoc, ← readValue_skipSpace, skipSpace_append blank,
    readValue_skipSpace, List.append_assoc]
  exact spells.reads steps _ enough (closed_append outerBlank closed)

theorem Spells.lastItem (spells : Spells first text) (blank : ∀ space ∈ gap, isSpace space = true)
    (outerBlank : ∀ space ∈ outer, isSpace space = true) :
    SpellsItems [first] (itemChars gap text outer ++ [']']) where
  starts := by
    intro rest
    rw [List.append_assoc]
    exact itemChars_starts blank spells _
  reads := by
    intro steps rest enough
    simp only [itemChars, List.length_append, List.length_singleton] at enough
    obtain ⟨steps, rfl⟩ := Nat.exists_eq_succ_of_ne_zero (Nat.ne_zero_of_lt enough)
    have read : readValue steps (itemChars gap text outer ++ ']' :: rest) =
        some (first, outer ++ ']' :: rest) :=
      readValue_itemChars blank outerBlank spells (by omega) (closed_cons rest (by decide))
    rw [List.append_assoc, List.singleton_append]
    simp [readItems, read, skipSpace_append outerBlank,
      skipSpace_cons (show isSpace ']' = false by decide)]

theorem Spells.item (spells : Spells first text) (blank : ∀ space ∈ gap, isSpace space = true)
    (outerBlank : ∀ space ∈ outer, isSpace space = true) {items : List Json}
    {others : List Char} (further : SpellsItems items others) :
    SpellsItems (first :: items) (itemChars gap text outer ++ ',' :: others) where
  starts := by
    intro rest
    rw [List.append_assoc]
    exact itemChars_starts blank spells _
  reads := by
    intro steps rest enough
    simp only [itemChars, List.length_append, List.length_cons] at enough
    obtain ⟨steps, rfl⟩ := Nat.exists_eq_succ_of_ne_zero (Nat.ne_zero_of_lt enough)
    have read : readValue steps (itemChars gap text outer ++ ',' :: (others ++ rest)) =
        some (first, outer ++ ',' :: (others ++ rest)) :=
      readValue_itemChars blank outerBlank spells (by omega) (closed_cons _ (by decide))
    have readOthers := further.reads steps rest (by omega)
    rw [List.append_assoc, List.cons_append]
    simp [readItems, read, readOthers, skipSpace_append outerBlank,
      skipSpace_cons (show isSpace ',' = false by decide)]

end Items

/-! ### Objects -/

theorem spells_object_nil : Spells (.object []) ['\x7b', '\x7d'] where
  starts := ⟨_, _, rfl, by decide, by decide⟩
  reads := by
    intro steps rest enough _
    obtain ⟨steps, rfl⟩ := Nat.exists_eq_succ_of_ne_zero (Nat.ne_zero_of_lt enough)
    rfl

theorem SpellsMembers.object {members : List (StringToken × Json)} {text : List Char}
    (spells : SpellsMembers members text) : Spells (.object members) ('\x7b' :: text) where
  starts := ⟨_, _, rfl, by decide, by decide⟩
  reads := by
    intro steps rest enough _
    obtain ⟨steps, rfl⟩ := Nat.exists_eq_succ_of_ne_zero (Nat.ne_zero_of_lt enough)
    have shorter : text.length < steps := by
      rw [List.length_cons] at enough
      omega
    have read := spells.reads steps rest shorter
    obtain ⟨tail, begins⟩ := spells.starts rest
    rw [← readMembers_skipSpace, begins] at read
    simp [readValue, skipSpace_cons (show isSpace '\x7b' = false by decide), begins, read]

def memberChars (gap : List Char) (name : StringToken) (inner value : List Char) : List Char :=
  gap ++ (name.render ++ ':' :: (inner ++ value))

section Members

variable {gap inner : List Char} {name : StringToken} {value : Json} {text : List Char}

private theorem memberChars_starts (blank : ∀ space ∈ gap, isSpace space = true)
    (rest : List Char) :
    ∃ tail, skipSpace (memberChars gap name inner text ++ rest) = '"' :: tail := by
  rw [memberChars, List.append_assoc, skipSpace_append blank]
  exact ⟨_, skipSpace_cons (by decide) _⟩

private def readBehind (steps : Nat) (member : StringToken × Json) (rest : List Char) :
    Option (List (StringToken × Json) × List Char) :=
  match skipSpace rest with
  | ',' :: rest => do
      let (members, rest) ← readMembers steps rest
      some (member :: members, rest)
  | '\x7d' :: rest => some ([member], rest)
  | _ => none

private theorem readMembers_memberChars (blank : ∀ space ∈ gap, isSpace space = true)
    (innerBlank : ∀ space ∈ inner, isSpace space = true) (wellFormed : name.WellFormed)
    (spells : Spells value text) {steps : Nat} {rest : List Char} (enough : text.length < steps)
    (closed : Closed rest) :
    readMembers (steps + 1) (memberChars gap name inner text ++ rest) =
      readBehind steps (name, value) rest := by
  have readName := wellFormed (':' :: (inner ++ (text ++ rest)))
  have readRest : readValue steps (inner ++ (text ++ rest)) = some (value, rest) := by
    rw [← readValue_skipSpace, skipSpace_append innerBlank, readValue_skipSpace]
    exact spells.reads steps rest enough closed
  rw [← readMembers_skipSpace, memberChars, List.append_assoc, skipSpace_append blank,
    readMembers_skipSpace]
  simp only [StringToken.render, List.cons_append, List.append_assoc, List.nil_append, readMembers,
    skipSpace_cons (show isSpace '"' = false by decide), readName, Option.bind_eq_bind,
    Option.bind_some, skipSpace_cons (show isSpace ':' = false by decide), readRest]
  rfl

theorem Spells.lastMember (spells : Spells value text)
    (blank : ∀ space ∈ gap, isSpace space = true)
    (innerBlank : ∀ space ∈ inner, isSpace space = true) (wellFormed : name.WellFormed)
    {outer : List Char} (outerBlank : ∀ space ∈ outer, isSpace space = true) :
    SpellsMembers [(name, value)] (memberChars gap name inner text ++ (outer ++ ['\x7d'])) where
  starts := by
    intro rest
    rw [List.append_assoc]
    exact memberChars_starts blank _
  reads := by
    intro steps rest enough
    simp only [memberChars, List.length_append, List.length_cons, List.length_nil] at enough
    obtain ⟨steps, rfl⟩ := Nat.exists_eq_succ_of_ne_zero (Nat.ne_zero_of_lt enough)
    have closed : Closed (outer ++ '\x7d' :: rest) :=
      closed_append outerBlank (closed_cons rest (by decide))
    rw [List.append_assoc, List.append_assoc, List.singleton_append,
      readMembers_memberChars blank innerBlank wellFormed spells (by omega) closed, readBehind,
      skipSpace_append outerBlank, skipSpace_cons (by decide)]
    rfl

theorem Spells.member (spells : Spells value text)
    (blank : ∀ space ∈ gap, isSpace space = true)
    (innerBlank : ∀ space ∈ inner, isSpace space = true) (wellFormed : name.WellFormed)
    {members : List (StringToken × Json)} {others : List Char}
    (further : SpellsMembers members others) :
    SpellsMembers ((name, value) :: members)
      (memberChars gap name inner text ++ ',' :: others) where
  starts := by
    intro rest
    rw [List.append_assoc]
    exact memberChars_starts blank _
  reads := by
    intro steps rest enough
    simp only [memberChars, List.length_append, List.length_cons] at enough
    obtain ⟨steps, rfl⟩ := Nat.exists_eq_succ_of_ne_zero (Nat.ne_zero_of_lt enough)
    rw [List.append_assoc, List.cons_append,
      readMembers_memberChars blank innerBlank wellFormed spells (by omega)
        (closed_cons _ (by decide)),
      readBehind, skipSpace_cons (by decide)]
    simp [further.reads steps rest (by omega)]

end Members

/-! ### What the compact writer writes -/

/-- A document whose tokens may stand in a text. -/
inductive WellFormed : Json → Prop where
  | null : WellFormed .null
  | boolean (value : Bool) : WellFormed (.boolean value)
  | number {numeral : Numeral} (wellFormed : numeral.WellFormed) : WellFormed (.number numeral)
  | string {token : StringToken} (wellFormed : token.WellFormed) : WellFormed (.string token)
  | array {items : List Json} (each : ∀ item ∈ items, WellFormed item) : WellFormed (.array items)
  | object {members : List (StringToken × Json)}
      (names : ∀ member ∈ members, member.1.WellFormed)
      (values : ∀ member ∈ members, WellFormed member.2) : WellFormed (.object members)

private theorem spellsItems_render (item : Json) (items : List Json)
    (each : ∀ other ∈ item :: items, Spells other other.render) :
    SpellsItems (item :: items) (item.render ++ renderItems items) := by
  have noGap : ∀ space ∈ ([] : List Char), isSpace space = true := by
    intro space member
    cases member
  have spells := each item List.mem_cons_self
  induction items generalizing item with
  | nil =>
      have last := spells.lastItem noGap noGap
      simp only [itemChars, List.nil_append, List.append_nil] at last
      exact last
  | cons next items ih =>
      have further := ih next (fun other member => each other (List.mem_cons_of_mem item member))
        (each next (List.mem_cons_of_mem item List.mem_cons_self))
      have longer := spells.item noGap noGap further
      simp only [itemChars, List.nil_append, List.append_nil] at longer
      rw [renderItems, List.cons_append]
      exact longer

private theorem spellsMembers_render (name : StringToken) (value : Json)
    (members : List (StringToken × Json))
    (names : ∀ member ∈ (name, value) :: members, member.1.WellFormed)
    (values : ∀ member ∈ (name, value) :: members, Spells member.2 member.2.render) :
    SpellsMembers ((name, value) :: members)
      (name.render ++ ':' :: value.render ++ renderMembers members) := by
  have noGap : ∀ space ∈ ([] : List Char), isSpace space = true := by
    intro space member
    cases member
  have wellFormed := names _ List.mem_cons_self
  have spells := values _ List.mem_cons_self
  induction members generalizing name value with
  | nil =>
      have last := spells.lastMember noGap noGap wellFormed noGap
      simp only [memberChars, List.nil_append] at last
      exact last
  | cons next members ih =>
      obtain ⟨nextName, nextValue⟩ := next
      have further := ih nextName nextValue
        (fun other member => names other (List.mem_cons_of_mem _ member))
        (fun other member => values other (List.mem_cons_of_mem _ member))
        (names _ (List.mem_cons_of_mem _ List.mem_cons_self))
        (values _ (List.mem_cons_of_mem _ List.mem_cons_self))
      have longer := spells.member noGap noGap wellFormed further
      simp only [memberChars, List.nil_append, List.append_assoc, List.cons_append] at longer
      simp only [renderMembers, List.append_assoc, List.cons_append]
      exact longer

/-- What the writer makes of a document spells it. -/
theorem WellFormed.spells_render {document : Json} (wellFormed : document.WellFormed) :
    Spells document document.render := by
  induction wellFormed with
  | null => exact spells_null
  | boolean value =>
      cases value with
      | true => exact spells_true
      | false => exact spells_false
  | number wellFormed => exact spells_number wellFormed
  | string wellFormed => exact spells_string wellFormed
  | @array items each ih =>
      cases items with
      | nil => exact @spells_array_nil [] (List.forall_mem_nil _)
      | cons item items => exact (spellsItems_render item items ih).array
  | @object members names values ih =>
      cases members with
      | nil => exact spells_object_nil
      | cons member members =>
          obtain ⟨name, value⟩ := member
          exact (spellsMembers_render name value members names ih).object

/-! ### Whole texts -/

/-- A text that spells a document is read as that document. -/
theorem Spells.parse? {document : Json} {text : List Char} (spells : Spells document text) :
    Json.parse? (String.ofList text) = some document := by
  have read := spells.reads (stepsFor text) [] (Nat.lt_succ_self _) closed_nil
  rw [List.append_nil] at read
  rw [Json.parse?, readFront, String.toList_ofList, read]
  rfl

theorem fromUTF8?_toUTF8 (text : String) : String.fromUTF8? text.toUTF8 = some text := by
  have valid : text.toUTF8.IsValidUTF8 := text.isValidUTF8
  rw [String.fromUTF8?, dif_pos valid]
  rfl

theorem Spells.decodeBytes {Value : Type} {document : Json} {text : List Char}
    (spells : Spells document text) (decode : Decoder Value) :
    Json.decodeBytes decode (String.ofList text).toUTF8 = decode document := by
  simp only [Json.decodeBytes, parseBytes?, fromUTF8?_toUTF8, Option.bind_eq_bind,
    Option.bind_some, spells.parse?]

theorem WellFormed.decodeBytes_toBytes {Value : Type} {document : Json}
    (wellFormed : document.WellFormed) (decode : Decoder Value) :
    Json.decodeBytes decode document.toBytes = decode document :=
  wellFormed.spells_render.decodeBytes decode

end Json
end CheckBinding
