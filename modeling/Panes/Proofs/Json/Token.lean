import Panes.Json.Printer
import Panes.Json.Token

/-!
# Tokens of printed values

A value that is made of integers of 64 bits, or nothing but texts and words, is printed as the
tokens that it stands for. The one token that could run on into what follows is a number, so the
text after a value has to end it.
-/

namespace Panes.Json

/-! ## Texts -/

/-- The control characters that are named by a letter. -/
def namedControls : List Char := ['\n', '\r', '\t', Char.ofNat 0x08, Char.ofNat 0x0c]

/-- The part of a text that a character is printed as. -/
def Piece.ofChar (char : Char) : Piece :=
  if char.toNat < 0x20 ∧ char ∉ namedControls then .unit char.toNat else .char char

theorem escapeChar_of_unnamed {char : Char} (control : char.toNat < 0x20)
    (unnamed : char ∉ namedControls) :
    escapeChar char = ['\\', 'u', '0', '0', hexDigit (char.toNat / 16), hexDigit char.toNat] := by
  simp only [namedControls, List.mem_cons, List.not_mem_nil, or_false, not_or] at unnamed
  obtain ⟨newline, carriage, tab, backspace, feed⟩ := unnamed
  have unquoted : char ≠ '"' := by rintro rfl; revert control; decide
  have unescaped : char ≠ '\\' := by rintro rfl; revert control; decide
  simp [escapeChar, *]

theorem escapeChar_of_plain {char : Char} (unquoted : char ≠ '"') (unescaped : char ≠ '\\')
    (visible : ¬ char.toNat < 0x20) : escapeChar char = [char] := by
  have uncontrolled (code : Nat) (control : (Char.ofNat code).toNat < 0x20) :
      char ≠ Char.ofNat code := by
    rintro rfl
    exact visible control
  have newline : char ≠ '\n' := uncontrolled 0x0a (by decide)
  have carriage : char ≠ '\r' := uncontrolled 0x0d (by decide)
  have tab : char ≠ '\t' := uncontrolled 0x09 (by decide)
  have backspace := uncontrolled 0x08 (by decide)
  have feed := uncontrolled 0x0c (by decide)
  simp [escapeChar, *]

theorem hexUnit_hexDigit : ∀ code < 0x20,
    hexUnit? '0' '0' (hexDigit (code / 16)) (hexDigit code) = some code := by
  decide

theorem takePieces_of_plain {char : Char} (unquoted : char ≠ '"') (unescaped : char ≠ '\\')
    (visible : ¬ char.toNat < 0x20) (text : List Char) :
    takePieces? (char :: text) =
      (takePieces? text).map fun (pieces, rest) => (.char char :: pieces, rest) := by
  rw [takePieces?]
  · simp only [visible, unescaped, or_self, if_false]
    cases takePieces? text <;> rfl
  · exact unquoted
  · intro _ _ _ _ _ escaped
    exact absurd escaped unescaped
  · intro _ _ escaped
    exact absurd escaped unescaped

/-- A printed character is read as its part of the text. -/
theorem takePieces_escapeChar (char : Char) (text : List Char) :
    takePieces? (escapeChar char ++ text) =
      (takePieces? text).map fun (pieces, rest) => (.ofChar char :: pieces, rest) := by
  have named (known : char ∈ ['"', '\\'] ++ namedControls) :
      takePieces? (escapeChar char ++ text) =
        (takePieces? text).map fun (pieces, rest) => (.ofChar char :: pieces, rest) := by
    simp only [namedControls, List.cons_append, List.nil_append, List.mem_cons, List.not_mem_nil,
      or_false] at known
    rcases known with rfl | rfl | rfl | rfl | rfl | rfl | rfl <;>
      cases taken : takePieces? text <;> simp [escapeChar, takePieces?, namedEscape?, taken] <;> rfl
  by_cases known : char ∈ ['"', '\\'] ++ namedControls
  · exact named known
  · simp only [List.mem_append, List.mem_cons, List.not_mem_nil, or_false, not_or] at known
    obtain ⟨⟨unquoted, unescaped⟩, unnamed⟩ := known
    by_cases control : char.toNat < 0x20
    · have unit_eq := hexUnit_hexDigit char.toNat control
      rw [escapeChar_of_unnamed control unnamed, Piece.ofChar, if_pos ⟨control, unnamed⟩]
      simp only [List.cons_append, List.nil_append, takePieces?, unit_eq]
      cases takePieces? text <;> rfl
    · rw [escapeChar_of_plain unquoted unescaped control, Piece.ofChar, if_neg (by simp [control])]
      exact takePieces_of_plain unquoted unescaped control text

theorem takePieces_escaped (chars rest : List Char) :
    takePieces? (chars.flatMap escapeChar ++ '"' :: rest) =
      some (chars.map Piece.ofChar, rest) := by
  induction chars with
  | nil => rfl
  | cons char chars ih =>
    rw [List.flatMap_cons, List.append_assoc, takePieces_escapeChar, ih]
    rfl

/-- A code unit that is no half of a pair is a character of its own. -/
theorem joinPieces_unit {code : Nat} (below : code < 0xd800) (pieces : List Piece) :
    joinPieces? (.unit code :: pieces) = (joinPieces? pieces).map (Char.ofNat code :: ·) := by
  have high : isHighSurrogate code = false := by simp [isHighSurrogate]; omega
  have low : isLowSurrogate code = false := by simp [isLowSurrogate]; omega
  cases pieces with
  | nil => simp only [joinPieces?, high, low, Bool.or_self, Bool.false_eq_true, if_false]
  | cons piece pieces =>
    cases piece with
    | char char => simp only [joinPieces?, high, low, Bool.or_self, Bool.false_eq_true, if_false]
    | unit next => simp only [joinPieces?, high, low, Bool.false_eq_true, if_false]

/-- The parts of a printed text are its characters. -/
theorem joinPieces_ofChar (chars : List Char) :
    joinPieces? (chars.map Piece.ofChar) = some chars := by
  induction chars with
  | nil => rfl
  | cons char chars ih =>
    rw [List.map_cons, Piece.ofChar]
    split
    · rename_i control
      rw [joinPieces_unit (by omega), ih, Option.map_some, Char.ofNat_toNat]
    · rw [joinPieces?, ih]
      rfl

/-! ## Numbers -/

/-- The digits of a natural number. -/
def digits (number : Nat) : List Nat :=
  (Nat.toDigits 10 number).map fun char => char.toNat - '0'.toNat

theorem ofDigits_digits (number : Nat) : ofDigits (digits number) = number := by
  rw [ofDigits, digits, List.foldl_map]
  calc
    _ = Nat.ofDigitChars 10 (Nat.toDigits 10 number) 0 := by
      rw [Nat.ofDigitChars_eq_foldl]
      simp only [Nat.mul_comm]
    _ = number := Nat.ofDigitChars_ten_toDigits

/-- A natural number is written without zeros in front. -/
theorem digits_head (number : Nat) :
    ∃ first rest, digits number = first :: rest ∧ (first = 0 → rest = []) := by
  induction number using Nat.strongRecOn with
  | ind number ih =>
    by_cases small : number < 10
    · refine ⟨(Nat.digitChar number).toNat - '0'.toNat, [], ?_, fun _ => rfl⟩
      rw [digits, Nat.toDigits_of_lt_base small]
      rfl
    · obtain ⟨first, rest, digits_eq, single⟩ := ih (number / 10) (by omega)
      refine ⟨first, rest ++ [(Nat.digitChar (number % 10)).toNat - '0'.toNat], ?_, ?_⟩
      · rw [digits, Nat.toDigits_of_base_le (by decide) (by omega), List.map_append]
        exact congrArg (· ++ _) digits_eq
      · rintro rfl
        have value : ofDigits (digits (number / 10)) = 0 := by
          rw [digits_eq, single rfl]
          rfl
        rw [ofDigits_digits] at value
        omega

theorem toDigits_head (number : Nat) :
    ∃ char chars, Nat.toDigits 10 number = char :: chars ∧ char.isDigit = true := by
  obtain ⟨char, chars, written⟩ := List.exists_cons_of_ne_nil (Nat.toDigits_ne_nil (n := number))
  refine ⟨char, chars, written, ?_⟩
  exact Nat.isDigit_of_mem_toDigits (by decide) (by decide) (written ▸ List.mem_cons_self)

/-- The text does not go on with what could belong to a number before it. -/
def EndsNumber (text : List Char) : Prop :=
  ∀ char ∈ text.head?, char.isDigit = false ∧ char ∉ ['.', 'e', 'E']

theorem takeDigits_toDigits (number : Nat) {rest : List Char} (ends : EndsNumber rest) :
    takeDigits (Nat.toDigits 10 number ++ rest) = (digits number, rest) := by
  have written : ∀ char ∈ Nat.toDigits 10 number, char.isDigit = true := by
    intro char member
    exact Nat.isDigit_of_mem_toDigits (by decide) (by decide) member
  have stops : rest.takeWhile Char.isDigit = [] ∧ rest.dropWhile Char.isDigit = rest := by
    cases rest with
    | nil => exact ⟨rfl, rfl⟩
    | cons char rest =>
      have plain := (ends char rfl).1
      simp [plain]
  rw [takeDigits, List.takeWhile_append_of_pos written, List.dropWhile_append_of_pos written,
    stops.1, stops.2, List.append_nil, digits]

theorem takeUnsigned_toDigits (negative : Bool) (number : Nat) {rest : List Char}
    (ends : EndsNumber rest) :
    takeUnsigned? negative (Nat.toDigits 10 number ++ rest) =
      some (⟨negative, digits number, none, none⟩, rest) := by
  have fraction : takeFractionDigits? rest = some (none, rest) := by
    cases rest with
    | nil => rfl
    | cons char rest =>
      have plain := (ends char rfl).2
      unfold takeFractionDigits?
      split <;> simp_all
  have exponent : takeExponent? rest = some (none, rest) := by
    cases rest with
    | nil => rfl
    | cons char rest =>
      have plain := (ends char rfl).2
      unfold takeExponent?
      dsimp only
      split <;> simp_all
  obtain ⟨first, later, digits_eq, single⟩ := digits_head number
  have digits_read := takeDigits_toDigits number ends
  rw [takeUnsigned?, digits_read, digits_eq]
  cases first with
  | zero =>
    rw [single rfl]
    simp [fraction, exponent]
  | succ first => simp [fraction, exponent]

/-- An integer that a number can hold without becoming a decimal. -/
def IsWord (value : Int) : Prop := -(maxMagnitude : Int) ≤ value ∧ value ≤ maxUnsigned

theorem number_of_digits {value : Int} (word : IsWord value) :
    Numeral.number? ⟨decide (value < 0), digits value.natAbs, none, none⟩ = some (.int value) := by
  obtain ⟨least, greatest⟩ := word
  have integer : Numeral.integer? ⟨decide (value < 0), digits value.natAbs, none, none⟩ =
      some value := by
    simp only [Numeral.integer?, ofDigits_digits, Option.isSome_none, Bool.false_eq_true, or_self,
      if_false, decide_eq_true_eq]
    by_cases negative : value < 0
    · rw [if_pos negative, if_pos (by omega)]
      congr 1
      omega
    · rw [if_neg negative, if_pos (by omega)]
      congr 1
      omega
  rw [Numeral.number?, integer]

theorem takeNumeral_chars (value : Int) {rest : List Char} (ends : EndsNumber rest) :
    takeNumeral? ((Number.int value).chars ++ rest) =
      some (⟨decide (value < 0), digits value.natAbs, none, none⟩, rest) := by
  rw [Number.chars]
  by_cases negative : value < 0
  · rw [if_pos negative, decide_eq_true negative]
    exact takeUnsigned_toDigits true value.natAbs ends
  · rw [if_neg negative, decide_eq_false negative]
    have unsigned := takeUnsigned_toDigits false value.natAbs ends
    obtain ⟨char, chars, written, digit⟩ := toDigits_head value.natAbs
    rw [written, List.cons_append] at unsigned ⊢
    rw [takeNumeral?]
    · exact unsigned
    · intro text starts
      obtain ⟨rfl, -⟩ := List.cons.inj starts
      revert digit
      decide

/-- A number starts with a sign or a digit. -/
theorem chars_head (value : Int) : ∃ char chars, (Number.int value).chars = char :: chars ∧
    (char = '-' ∨ char.isDigit = true) := by
  rw [Number.chars]
  split
  · exact ⟨'-', _, rfl, .inl rfl⟩
  · obtain ⟨char, chars, written, digit⟩ := toDigits_head value.natAbs
    exact ⟨char, chars, written, .inr digit⟩

/-! ## Tokens -/

/-- A number stands at the front of a text that starts like one. -/
theorem takeToken_of_number {char : Char} (starts : char = '-' ∨ char.isDigit = true)
    (text : List Char) :
    takeToken? (char :: text) =
      (takeNumeral? (char :: text)).map fun (numeral, rest) => (.number numeral.number?, rest) := by
  have unlike : char ∉ ['[', ']', '{', '}', ',', ':', 'n', 't', 'f', '"'] := by
    intro member
    simp only [List.mem_cons, List.not_mem_nil, or_false] at member
    rcases member with rfl | rfl | rfl | rfl | rfl | rfl | rfl | rfl | rfl | rfl <;>
      revert starts <;> decide
  simp only [List.mem_cons, List.not_mem_nil, or_false, not_or] at unlike
  unfold takeToken?
  split
  case h_11 => cases takeNumeral? (char :: text) <;> rfl
  all_goals simp_all

theorem tokensWithin_mono {fuel more : Nat} (enough : fuel ≤ more) {text : List Char}
    {tokens : List Token} (cut : tokensWithin fuel text = some tokens) :
    tokensWithin more text = some tokens := by
  induction fuel generalizing more text tokens with
  | zero =>
    cases text with
    | nil => cases more <;> exact cut
    | cons char text => cases cut
  | succ fuel ih =>
    obtain ⟨more, rfl⟩ : ∃ least, more = least + 1 := ⟨more - 1, by omega⟩
    have enough : fuel ≤ more := by omega
    cases text with
    | nil => exact cut
    | cons char text =>
      rw [tokensWithin] at cut ⊢
      split at cut
      · rename_i space
        rw [if_pos space]
        exact ih enough cut
      · rename_i visible
        rw [if_neg visible]
        obtain ⟨⟨token, rest⟩, taken, cut⟩ := Option.bind_eq_some_iff.mp cut
        obtain ⟨later, cut, whole⟩ := Option.bind_eq_some_iff.mp cut
        have cut := ih enough cut
        simp only [taken, cut, Option.bind_eq_bind, Option.bind_some]
        exact whole

theorem tokens_of_takeToken {char : Char} {text rest : List Char} {token : Token}
    {tokens : List Token} (visible : isSpace char = false)
    (taken : takeToken? (char :: text) = some (token, rest)) (shorter : rest.length ≤ text.length)
    (cut : tokens? rest = some tokens) : tokens? (char :: text) = some (token :: tokens) := by
  have later : tokensWithin text.length rest = some tokens := tokensWithin_mono shorter cut
  rw [tokens?, List.length_cons, tokensWithin, visible, taken]
  simp [later]

/-! ## Values -/

mutual

/-- The value is made of words and texts, of integers of 64 bits, and of no more lists and objects
within one another than the given number. -/
def Plain : Nat → Json → Prop
  | _, null | _, bool _ | _, string _ => True
  | _, number (.int value) => IsWord value
  | _, number (.decimal _) => False
  | depth + 1, array elements => PlainElements depth elements
  | depth + 1, object members => PlainMembers depth members
  | 0, array _ | 0, object _ => False

/-- The elements of a list are plain. -/
def PlainElements : Nat → List Json → Prop
  | _, [] => True
  | depth, element :: elements => Plain depth element ∧ PlainElements depth elements

/-- The values of the members of an object are plain. -/
def PlainMembers : Nat → List (String × Json) → Prop
  | _, [] => True
  | depth, (_, value) :: members => Plain depth value ∧ PlainMembers depth members

end

mutual

/-- The tokens that a value is printed as. -/
def tokens : Json → List Token
  | null => [.null]
  | bool value => [.bool value]
  | number value => [.number (some value)]
  | string value => [.string (some value)]
  | array [] => [.openArray, .closeArray]
  | array (element :: elements) => .openArray :: (tokens element ++ elementTokens elements)
  | object [] => [.openObject, .closeObject]
  | object ((key, value) :: members) =>
    .openObject :: .string (some key) :: .colon :: (tokens value ++ memberTokens members)

/-- The tokens of the further elements of a list and its closing bracket. -/
def elementTokens : List Json → List Token
  | [] => [.closeArray]
  | element :: elements => .comma :: (tokens element ++ elementTokens elements)

/-- The tokens of the further members of an object and its closing brace. -/
def memberTokens : List (String × Json) → List Token
  | [] => [.closeObject]
  | (key, value) :: members =>
    .comma :: .string (some key) :: .colon :: (tokens value ++ memberTokens members)

end

theorem endsNumber_nil : EndsNumber [] := by
  intro char member
  cases member

theorem endsNumber_elementChars (elements : List Json) (rest : List Char) :
    EndsNumber (elementChars elements ++ rest) := by
  cases elements <;> simp [EndsNumber, elementChars]

theorem endsNumber_memberChars (members : List (String × Json)) (rest : List Char) :
    EndsNumber (memberChars members ++ rest) := by
  cases members <;> simp [EndsNumber, memberChars]

/-- A mark that is a token by itself comes first. -/
theorem tokens_of_mark {mark : Char} {token : Token} {rest : List Char} {tokens : List Token}
    (visible : isSpace mark = false) (taken : takeToken? (mark :: rest) = some (token, rest))
    (cut : tokens? rest = some tokens) : tokens? (mark :: rest) = some (token :: tokens) :=
  tokens_of_takeToken visible taken (Nat.le_refl _) cut

theorem tokens_stringChars (text : String) {rest : List Char} {tokens : List Token}
    (cut : tokens? rest = some tokens) :
    tokens? (stringChars text ++ rest) = some (.string (some text) :: tokens) := by
  have taken : takeToken? (stringChars text ++ rest) = some (.string (some text), rest) := by
    rw [stringChars, List.cons_append, List.append_assoc, List.singleton_append, takeToken?,
      takePieces_escaped]
    simp [joinPieces_ofChar]
  rw [stringChars, List.cons_append] at taken ⊢
  refine tokens_of_takeToken (by decide) taken ?_ cut
  simp only [List.length_append]
  omega

/-- A key and a colon come before a value. -/
theorem tokens_keyed (key : String) {rest : List Char} {tokens : List Token}
    (cut : tokens? rest = some tokens) :
    tokens? (stringChars key ++ ':' :: rest) = some (.string (some key) :: .colon :: tokens) :=
  tokens_stringChars key (tokens_of_mark rfl rfl cut)

theorem tokens_number {value : Int} (word : IsWord value) {rest : List Char} {tokens : List Token}
    (ends : EndsNumber rest) (cut : tokens? rest = some tokens) :
    tokens? ((number (.int value)).chars ++ rest) =
      some (.number (some (.int value)) :: tokens) := by
  have numeral := takeNumeral_chars value ends
  obtain ⟨char, chars, chars_eq, starts⟩ := chars_head value
  rw [Json.chars]
  rw [chars_eq, List.cons_append] at numeral ⊢
  have taken := takeToken_of_number starts (chars ++ rest)
  simp only [numeral, Option.map_some, number_of_digits word] at taken
  have visible : isSpace char = false := by
    rcases starts with rfl | digit
    · decide
    · cases space : isSpace char with
      | false => rfl
      | true =>
        simp only [isSpace, Bool.or_eq_true, beq_iff_eq] at space
        rcases space with ((rfl | rfl) | rfl) | rfl <;> cases digit
  refine tokens_of_takeToken visible taken ?_ cut
  simp only [List.length_append]
  omega

mutual

/-- A plain value is printed as its tokens. -/
theorem tokens_chars : ∀ {depth : Nat} (json : Json), json.Plain depth → ∀ {rest : List Char}
    {later : List Token}, EndsNumber rest → tokens? rest = some later →
      tokens? (json.chars ++ rest) = some (json.tokens ++ later)
  | _, null, _, _, _, _, cut => tokens_of_takeToken rfl rfl (by simp +arith) cut
  | _, bool true, _, _, _, _, cut => tokens_of_takeToken rfl rfl (by simp +arith) cut
  | _, bool false, _, _, _, _, cut => tokens_of_takeToken rfl rfl (by simp +arith) cut
  | _, number (.int _), word, _, _, ends, cut => tokens_number word ends cut
  | _, string text, _, _, _, _, cut => tokens_stringChars text cut
  | _, array [], _, _, _, _, cut => tokens_of_mark rfl rfl (tokens_of_mark rfl rfl cut)
  | depth + 1, array (element :: elements), ⟨first, others⟩, rest, later, _, cut => by
    have further := tokens_elementChars elements others cut
    have whole := tokens_chars element first (endsNumber_elementChars elements rest) further
    rw [chars, tokens, List.cons_append, List.cons_append, List.append_assoc, List.append_assoc]
    exact tokens_of_mark rfl rfl whole
  | _, object [], _, _, _, _, cut => tokens_of_mark rfl rfl (tokens_of_mark rfl rfl cut)
  | depth + 1, object ((key, value) :: members), ⟨first, others⟩, rest, later, _, cut => by
    have further := tokens_memberChars members others cut
    have whole := tokens_chars value first (endsNumber_memberChars members rest) further
    simp only [chars, tokens, List.cons_append, List.append_assoc]
    exact tokens_of_mark rfl rfl (tokens_keyed key whole)

/-- The further elements of a plain list are printed as their tokens. -/
theorem tokens_elementChars : ∀ {depth : Nat} (elements : List Json),
    PlainElements depth elements → ∀ {rest : List Char} {later : List Token},
      tokens? rest = some later →
        tokens? (elementChars elements ++ rest) = some (elementTokens elements ++ later)
  | _, [], _, _, _, cut => tokens_of_mark rfl rfl cut
  | depth, element :: elements, ⟨first, others⟩, rest, later, cut => by
    have further := tokens_elementChars elements others cut
    have whole := tokens_chars element first (endsNumber_elementChars elements rest) further
    simp only [elementChars, elementTokens, List.cons_append, List.append_assoc]
    exact tokens_of_mark rfl rfl whole

/-- The further members of a plain object are printed as their tokens. -/
theorem tokens_memberChars : ∀ {depth : Nat} (members : List (String × Json)),
    PlainMembers depth members → ∀ {rest : List Char} {later : List Token},
      tokens? rest = some later →
        tokens? (memberChars members ++ rest) = some (memberTokens members ++ later)
  | _, [], _, _, _, cut => tokens_of_mark rfl rfl cut
  | depth, (key, value) :: members, ⟨first, others⟩, rest, later, cut => by
    have further := tokens_memberChars members others cut
    have whole := tokens_chars value first (endsNumber_memberChars members rest) further
    simp only [memberChars, memberTokens, List.cons_append, List.append_assoc]
    exact tokens_of_mark rfl rfl (tokens_keyed key whole)

end

end Panes.Json
