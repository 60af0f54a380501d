import CheckBinding.Json.Token

/-!
Strings of a document: reading a token gives back what writing it put there.

Every fact follows the three written forms of a character that `escapeChar_cases` tells apart: by
itself, by a letter after a backslash, by its code point.
-/

namespace CheckBinding.StringToken

open Text

/-! ### The written form of one character -/

private theorem hexQuad?_control : ∀ point : Fin 32,
    hexQuad? '0' '0' (hexDigit (point.val / 16)) (hexDigit (point.val % 16)) =
      some point.val := by
  decide

private theorem hexDigit_plain : ∀ value : Fin 16,
    hexDigit value.val ≠ '"' ∧ hexDigit value.val ≠ '\\' := by
  decide

/-- A character is written by a letter, by its code point, or by itself. -/
theorem escapeChar_cases (character : Char) :
    (∃ mark, escapeChar character = ['\\', mark] ∧ mark ≠ 'u' ∧
      shortEscape? mark = some character) ∨
    (∃ high low, escapeChar character = ['\\', 'u', '0', '0', high, low] ∧
      (high ≠ '"' ∧ high ≠ '\\') ∧ (low ≠ '"' ∧ low ≠ '\\') ∧ character.toNat < 32 ∧
      hexQuad? '0' '0' high low = some character.toNat) ∨
    (escapeChar character = [character] ∧ character ≠ '"' ∧ character ≠ '\\' ∧
      32 ≤ character.toNat) := by
  have named : ∀ point, character.toNat = point → character = Char.ofNat point := by
    intro point same
    rw [← same, Char.ofNat_toNat]
  by_cases quote : character = '"'
  · subst quote
    exact Or.inl ⟨'"', by decide⟩
  by_cases backslash : character = '\\'
  · subst backslash
    exact Or.inl ⟨'\\', by decide⟩
  by_cases backspace : character.toNat = 8
  · rw [named 8 backspace]
    exact Or.inl ⟨'b', by decide⟩
  by_cases tab : character.toNat = 9
  · rw [named 9 tab]
    exact Or.inl ⟨'t', by decide⟩
  by_cases newline : character.toNat = 10
  · rw [named 10 newline]
    exact Or.inl ⟨'n', by decide⟩
  by_cases feed : character.toNat = 12
  · rw [named 12 feed]
    exact Or.inl ⟨'f', by decide⟩
  by_cases back : character.toNat = 13
  · rw [named 13 back]
    exact Or.inl ⟨'r', by decide⟩
  by_cases control : character.toNat < 32
  · refine Or.inr (Or.inl ⟨hexDigit (character.toNat / 16), hexDigit (character.toNat % 16),
      ?_, hexDigit_plain ⟨_, by omega⟩, hexDigit_plain ⟨_, by omega⟩, control,
      hexQuad?_control ⟨_, control⟩⟩)
    simp [escapeChar, quote, backslash, backspace, tab, newline, feed, back, control]
  · refine Or.inr (Or.inr ⟨?_, quote, backslash, by omega⟩)
    simp [escapeChar, quote, backslash, backspace, tab, newline, feed, back, control]

/-! ### Reading it -/

theorem unescape?_mark {mark character : Char} (different : mark ≠ 'u')
    (known : shortEscape? mark = some character) (rest : List Char) :
    unescape? ('\\' :: mark :: rest) = (unescape? rest).map (character :: ·) := by
  have notPoint : ∀ a b c d tail, mark = 'u' → rest = a :: b :: c :: d :: tail → False := by
    intro a b c d tail same
    exact absurd same different
  rw [unescape?.eq_4 mark rest (fun a b c d _ _ _ _ _ same => notPoint a b c d _ same) notPoint,
    known]
  cases unescape? rest <;> rfl

theorem unescape?_plain {character : Char} (notBackslash : character ≠ '\\')
    (printable : 32 ≤ character.toNat) (rest : List Char) :
    unescape? (character :: rest) = (unescape? rest).map (character :: ·) := by
  have bare : ¬ (character = '\\' ∨ character.toNat < 32) := by
    rintro (same | control)
    · exact notBackslash same
    · omega
  rw [unescape?.eq_5 character rest (fun _ _ _ _ _ _ _ _ _ same => absurd same notBackslash)
    (fun _ _ _ _ _ same => absurd same notBackslash) (fun _ _ same => absurd same notBackslash),
    if_neg bare]
  cases unescape? rest <;> rfl

theorem unescape?_point {a b c d : Char} {point : Nat} (known : hexQuad? a b c d = some point)
    (whole : point < 0xD800 ∨ 0xE000 ≤ point) (rest : List Char) :
    unescape? ('\\' :: 'u' :: a :: b :: c :: d :: rest) =
      (unescape? rest).map (Char.ofNat point :: ·) := by
  have notHigh : ¬ (0xD800 ≤ point ∧ point < 0xDC00) := by omega
  have notLow : ¬ (0xDC00 ≤ point ∧ point < 0xE000) := by omega
  have notHalf : ¬ (0xD800 ≤ point ∧ point < 0xE000) := by omega
  by_cases pair : ∃ e f g h tail, rest = '\\' :: 'u' :: e :: f :: g :: h :: tail
  · obtain ⟨e, f, g, h, tail, rfl⟩ := pair
    rw [unescape?]
    simp only [known, Option.bind_eq_bind, Option.bind_some, if_neg notHigh, if_neg notLow]
    cases unescape? ('\\' :: 'u' :: e :: f :: g :: h :: tail) <;> rfl
  · have single : ∀ e f g h tail, rest = '\\' :: 'u' :: e :: f :: g :: h :: tail → False := by
      intro e f g h tail same
      exact pair ⟨e, f, g, h, tail, same⟩
    rw [unescape?.eq_3 a b c d rest single]
    simp only [known, Option.bind_eq_bind, Option.bind_some, if_neg notHalf]
    cases unescape? rest <;> rfl

theorem unescape?_escapeChar (character : Char) (rest : List Char) :
    unescape? (escapeChar character ++ rest) = (unescape? rest).map (character :: ·) := by
  rcases escapeChar_cases character with
    ⟨mark, written, different, known⟩ | ⟨high, low, written, -, -, control, known⟩ |
      ⟨written, -, notBackslash, printable⟩
  · rw [written]
    exact unescape?_mark different known rest
  · rw [written]
    have read := unescape?_point known (Or.inl (by omega)) rest
    rw [Char.ofNat_toNat] at read
    exact read
  · rw [written]
    exact unescape?_plain notBackslash printable rest

theorem wellEscaped_escapeChar (character : Char) (rest : List Char) :
    wellEscaped (escapeChar character ++ rest) = wellEscaped rest := by
  rcases escapeChar_cases character with
    ⟨mark, written, different, known⟩ | ⟨high, low, written, -, -, -, known⟩ |
      ⟨written, -, notBackslash, printable⟩
  · rw [written]
    simp [wellEscaped, different, known]
  · rw [written]
    simp [wellEscaped, known]
  · rw [written]
    simp [wellEscaped, notBackslash, printable]

/-- No quote that ends a token is inside the written form of a character. -/
theorem splitAtQuote_escapeChar (character : Char) (rest : List Char) :
    splitAtQuote (escapeChar character ++ rest) =
      (splitAtQuote rest).map (fun split => (escapeChar character ++ split.1, split.2)) := by
  rcases escapeChar_cases character with
    ⟨mark, written, -, -⟩ | ⟨high, low, written, plainHigh, plainLow, -, -⟩ |
      ⟨written, notQuote, notBackslash, -⟩
  · rw [written]
    simp only [List.cons_append, List.nil_append, splitAtQuote]
  · rw [written]
    simp [splitAtQuote, plainHigh, plainLow, Function.comp_def]
  · rw [written]
    simp [splitAtQuote, notBackslash]

/-! ### Whole tokens -/

private theorem unescape?_escaped (characters : List Char) :
    unescape? (characters.flatMap escapeChar) = some characters := by
  induction characters with
  | nil => simp [unescape?]
  | cons head rest ih =>
      rw [List.flatMap_cons, unescape?_escapeChar, ih]
      rfl

private theorem wellEscaped_escaped (characters : List Char) :
    wellEscaped (characters.flatMap escapeChar) = true := by
  induction characters with
  | nil => rfl
  | cons head rest ih => rw [List.flatMap_cons, wellEscaped_escapeChar, ih]

private theorem splitAtQuote_escaped (characters rest : List Char) :
    splitAtQuote (characters.flatMap escapeChar ++ '"' :: rest) =
      some (characters.flatMap escapeChar, rest) := by
  induction characters with
  | nil => rfl
  | cons head characters ih =>
      rw [List.flatMap_cons, List.append_assoc, splitAtQuote_escapeChar, ih]
      rfl

@[simp]
theorem text?_ofText (text : String) : (ofText text).text? = some text := by
  rw [text?, ofText, unescape?_escaped, Option.map_some, String.ofList_toList]

def WellFormed (token : StringToken) : Prop :=
  ∀ rest, read (token.raw ++ '"' :: rest) = some (token, rest)

theorem wellFormed_ofText (text : String) : (ofText text).WellFormed := by
  intro rest
  have split := splitAtQuote_escaped text.toList rest
  have wellEscaped := wellEscaped_escaped text.toList
  simp only [read, ofText, split, Option.bind_eq_bind, Option.bind_some, wellEscaped, if_true]
  rfl

end CheckBinding.StringToken
