import ReviewAssignment.Json.Numeral
import ReviewAssignment.Json.Symbol
import ReviewAssignment.Text.Characters

/-!
# Tokens of a JSON text

`Token.scan` cuts a text into tokens and drops the white space between them.  Where the text stops
being JSON, the list ends in `Token.broken`; whoever reads the tokens in order meets a fault there and
not before.  A byte that is part of no character is a fault anywhere but inside a string.

A string is scanned by its grammar alone.  Its content is missing if it has no reading as text,
because of ill-formed bytes or of half a surrogate pair; that matters only to a reader who wants the
content.

`dropTokens` finds the text after a number of tokens again.
-/

namespace ReviewAssignment.Json

inductive Token where
  | openBrace
  | closeBrace
  | openBracket
  | closeBracket
  | colon
  | comma
  | null
  | flag (value : Bool)
  | number (value : Numeral)
  | text (content : Option String)
  | broken
deriving DecidableEq, Repr, Inhabited

/-! ### Strings -/

inductive Piece where
  | char (c : Char)
  | unit (value : Nat)
  | illFormed
deriving DecidableEq, Repr, Inhabited

def escaped? (c : Char) : Option Char :=
  match c with
  | '"' => some '"'
  | '\\' => some '\\'
  | '/' => some '/'
  | 'b' => some '\x08'
  | 'f' => some '\x0c'
  | 'n' => some '\n'
  | 'r' => some '\r'
  | 't' => some '\t'
  | _ => none

def unit? (a b c d : Char) : Option Nat := do
  return (((← Text.hexValue? a) * 16 + (← Text.hexValue? b)) * 16 + (← Text.hexValue? c)) * 16 +
    (← Text.hexValue? d)

def before (piece : Piece) (scanned : List Piece × List Symbol) : List Piece × List Symbol :=
  (piece :: scanned.1, scanned.2)

/-- The pieces of a string after its opening quotation mark, and what follows the closing one. -/
def scanText : List Symbol → Option (List Piece × List Symbol)
  | [] => none
  | none :: rest => (scanText rest).map (before .illFormed)
  | some '"' :: rest => some ([], rest)
  | some '\\' :: some 'u' :: some a :: some b :: some c :: some d :: rest =>
    match unit? a b c d with
    | some value => (scanText rest).map (before (.unit value))
    | none => none
  | some '\\' :: some letter :: rest =>
    match escaped? letter with
    | some c => (scanText rest).map (before (.char c))
    | none => none
  | some '\\' :: _ => none
  | some c :: rest =>
    if c.toNat < 32 then none else (scanText rest).map (before (.char c))

/-- The text that the pieces stand for.  An escaped unit of the upper half of a surrogate pair has to
be followed by one of the lower half. -/
def content : List Piece → Option (List Char)
  | [] => some []
  | .char c :: rest => (content rest).map (c :: ·)
  | .unit high :: .unit low :: rest =>
    if 0xD800 ≤ high ∧ high < 0xDC00 then
      if 0xDC00 ≤ low ∧ low < 0xE000 then
        (content rest).map (Char.ofNat (0x10000 + (high - 0xD800) * 0x400 + (low - 0xDC00)) :: ·)
      else none
    else if 0xDC00 ≤ high ∧ high < 0xE000 then none
    else (content (.unit low :: rest)).map (Char.ofNat high :: ·)
  | .unit value :: rest =>
    if 0xD800 ≤ value ∧ value < 0xE000 then none
    else (content rest).map (Char.ofNat value :: ·)
  | .illFormed :: _ => none

/-! ### Numerals -/

def spanDigits : List Symbol → List Char × List Symbol
  | some c :: rest =>
    if Decimal.isDigit c then
      let spanned := spanDigits rest
      (c :: spanned.1, spanned.2)
    else ([], some c :: rest)
  | rest => ([], rest)

def scanFraction : List Symbol → Option (Option (List Char) × List Symbol)
  | some '.' :: rest =>
    let (digits, rest) := spanDigits rest
    if digits.isEmpty then none else some (some digits, rest)
  | rest => some (none, rest)

/-- The sign of an exponent: whether it is negative. -/
def scanSign : List Symbol → Bool × List Symbol
  | some '+' :: rest => (false, rest)
  | some '-' :: rest => (true, rest)
  | rest => (false, rest)

def scanExponent : List Symbol → Option (Option (Bool × List Char) × List Symbol)
  | some 'e' :: rest | some 'E' :: rest =>
    let (negative, rest) := scanSign rest
    let (digits, rest) := spanDigits rest
    if digits.isEmpty then none else some (some (negative, digits), rest)
  | rest => some (none, rest)

/-- A numeral after its sign.  A zero is not followed by more digits before the point. -/
def scanNumeral (negative : Bool) (text : List Symbol) : Option (Numeral × List Symbol) :=
  let (whole, rest) := spanDigits text
  if whole.isEmpty ∨ whole.head? = some '0' ∧ whole.length ≠ 1 then none
  else do
    let (fraction, rest) ← scanFraction rest
    let (exponent, rest) ← scanExponent rest
    return (⟨negative, whole, fraction, exponent⟩, rest)

/-! ### The whole text -/

def takeWord : List Char → List Symbol → Option (List Symbol)
  | [], rest => some rest
  | c :: word, some d :: rest => if c = d then takeWord word rest else none
  | _ :: _, _ => none

def scanToken (c : Char) (rest : List Symbol) : Option (Token × List Symbol) :=
  match c with
  | '\x7b' => some (.openBrace, rest)
  | '\x7d' => some (.closeBrace, rest)
  | '[' => some (.openBracket, rest)
  | ']' => some (.closeBracket, rest)
  | ':' => some (.colon, rest)
  | ',' => some (.comma, rest)
  | 'n' => (takeWord ['u', 'l', 'l'] rest).map fun rest => (.null, rest)
  | 't' => (takeWord ['r', 'u', 'e'] rest).map fun rest => (.flag true, rest)
  | 'f' => (takeWord ['a', 'l', 's', 'e'] rest).map fun rest => (.flag false, rest)
  | '"' => (scanText rest).map fun scanned =>
    (.text ((content scanned.1).map String.ofList), scanned.2)
  | '-' => (scanNumeral true rest).map fun scanned => (.number scanned.1, scanned.2)
  | c =>
    if Decimal.isDigit c then
      (scanNumeral false (some c :: rest)).map fun scanned => (.number scanned.1, scanned.2)
    else none

/-! ### Scanning consumes the text -/

theorem eq_some_of_map_before {piece : Piece} {scanned : Option (List Piece × List Symbol)}
    {pieces : List Piece} {rest : List Symbol}
    (h : scanned.map (before piece) = some (pieces, rest)) : ∃ later, scanned = some (later, rest) := by
  obtain ⟨⟨later, left⟩, rfl, hEq⟩ := Option.map_eq_some_iff.1 h
  cases hEq
  exact ⟨later, rfl⟩

theorem length_scanText {text rest : List Symbol} {pieces : List Piece}
    (h : scanText text = some (pieces, rest)) : rest.length < text.length := by
  fun_induction scanText text generalizing pieces with
  | case1 => simp at h
  | case2 tail ih =>
    obtain ⟨later, hLater⟩ := eq_some_of_map_before h
    have := ih hLater
    simp only [List.length_cons]
    omega
  | case3 tail =>
    simp only [Option.some.injEq, Prod.mk.injEq] at h
    simp [h.2]
  | case4 a b c d tail value hUnit ih =>
    obtain ⟨later, hLater⟩ := eq_some_of_map_before h
    have := ih hLater
    simp only [List.length_cons]
    omega
  | case5 => simp at h
  | case6 letter tail _ c hEscape ih =>
    obtain ⟨later, hLater⟩ := eq_some_of_map_before h
    have := ih hLater
    simp only [List.length_cons]
    omega
  | case7 => simp at h
  | case8 => simp at h
  | case9 => simp at h
  | case10 c tail _ _ _ _ _ ih =>
    obtain ⟨later, hLater⟩ := eq_some_of_map_before h
    have := ih hLater
    simp only [List.length_cons]
    omega

theorem length_spanDigits (text : List Symbol) :
    (spanDigits text).1.length + (spanDigits text).2.length = text.length := by
  fun_induction spanDigits text with
  | case1 c rest hDigit spanned ih =>
    simp only [List.length_cons, spanned] at ih ⊢
    omega
  | case2 => simp
  | case3 => simp

theorem length_scanFraction {text rest : List Symbol} {fraction : Option (List Char)}
    (h : scanFraction text = some (fraction, rest)) : rest.length ≤ text.length := by
  unfold scanFraction at h
  split at h
  · next tail =>
    have := length_spanDigits tail
    simp only [Option.ite_none_left_eq_some, Option.some.injEq, Prod.mk.injEq] at h
    simp only [List.length_cons, ← h.2.2]
    omega
  · simp only [Option.some.injEq, Prod.mk.injEq] at h
    simp [h.2]

theorem length_scanSign (text : List Symbol) : (scanSign text).2.length ≤ text.length := by
  unfold scanSign
  split <;> simp

theorem length_scanExponent {text rest : List Symbol} {exponent : Option (Bool × List Char)}
    (h : scanExponent text = some (exponent, rest)) : rest.length ≤ text.length := by
  have hDigits (tail : List Symbol) :
      (spanDigits (scanSign tail).2).2.length ≤ tail.length := by
    have := length_spanDigits (scanSign tail).2
    have := length_scanSign tail
    omega
  unfold scanExponent at h
  split at h
  · next tail =>
    have := hDigits tail
    simp only [Option.ite_none_left_eq_some, Option.some.injEq, Prod.mk.injEq] at h
    simp only [List.length_cons, ← h.2.2]
    omega
  · next tail =>
    have := hDigits tail
    simp only [Option.ite_none_left_eq_some, Option.some.injEq, Prod.mk.injEq] at h
    simp only [List.length_cons, ← h.2.2]
    omega
  · simp only [Option.some.injEq, Prod.mk.injEq] at h
    simp [h.2]

theorem length_scanNumeral {negative : Bool} {text rest : List Symbol} {numeral : Numeral}
    (h : scanNumeral negative text = some (numeral, rest)) : rest.length < text.length := by
  unfold scanNumeral at h
  simp only [Option.ite_none_left_eq_some, Option.bind_eq_bind, Option.bind_eq_some_iff,
    Option.pure_def, Option.some.injEq, Prod.mk.injEq, not_or] at h
  obtain ⟨⟨hSome, _⟩, ⟨fraction, afterFraction⟩, hFraction, ⟨exponent, afterExponent⟩, hExponent,
    _, rfl⟩ := h
  have hSpan := length_spanDigits text
  have : afterFraction.length ≤ _ := length_scanFraction hFraction
  have : afterExponent.length ≤ afterFraction.length := length_scanExponent hExponent
  have : 0 < (spanDigits text).1.length :=
    List.length_pos_iff.2 fun hNil => hSome (by simp [hNil])
  show afterExponent.length < text.length
  omega

theorem length_takeWord {word : List Char} {text rest : List Symbol}
    (h : takeWord word text = some rest) : rest.length ≤ text.length := by
  fun_induction takeWord word text with
  | case1 => simp_all
  | case2 c word tail ih =>
    have := ih h
    simp only [List.length_cons]
    omega
  | case3 => simp at h
  | case4 => simp at h

theorem eq_some_of_map_word {token found : Token} {scanned : Option (List Symbol)}
    {rest : List Symbol} (h : (scanned.map fun rest => (found, rest)) = some (token, rest)) :
    scanned = some rest := by
  obtain ⟨left, rfl, hEq⟩ := Option.map_eq_some_iff.1 h
  cases hEq
  rfl

theorem eq_some_of_map_token {α : Type} {token : Token} (found : α → Token)
    {scanned : Option (α × List Symbol)} {rest : List Symbol}
    (h : (scanned.map fun pair => (found pair.1, pair.2)) = some (token, rest)) :
    ∃ value, scanned = some (value, rest) := by
  obtain ⟨⟨value, left⟩, rfl, hEq⟩ := Option.map_eq_some_iff.1 h
  cases hEq
  exact ⟨value, rfl⟩

/-- A token takes at least its first character. -/
theorem length_scanToken {c : Char} {text rest : List Symbol} {token : Token}
    (h : scanToken c text = some (token, rest)) : rest.length ≤ text.length := by
  unfold scanToken at h
  split at h
  case h_7 | h_8 | h_9 => exact length_takeWord (eq_some_of_map_word h)
  case h_10 =>
    obtain ⟨pieces, hText⟩ := eq_some_of_map_token
      (fun pieces => .text ((content pieces).map String.ofList)) h
    exact Nat.le_of_lt (length_scanText hText)
  case h_11 =>
    obtain ⟨numeral, hNumeral⟩ := eq_some_of_map_token _ h
    exact Nat.le_of_lt (length_scanNumeral hNumeral)
  case h_12 =>
    split at h
    · obtain ⟨numeral, hNumeral⟩ := eq_some_of_map_token _ h
      have := length_scanNumeral hNumeral
      simp only [List.length_cons] at this
      omega
    · simp at h
  all_goals
    simp only [Option.some.injEq, Prod.mk.injEq] at h
    simp [h.2]

def scan : List Symbol → List Token
  | [] => []
  | none :: _ => [.broken]
  | some c :: rest =>
    if isSpace c then scan rest
    else
      match _h : scanToken c rest with
      | some (token, left) => token :: scan left
      | none => [.broken]
termination_by text => text.length
decreasing_by
  · simp
  · have := length_scanToken _h
    simp only [List.length_cons]
    omega

def dropTokens : Nat → List Symbol → List Symbol
  | 0, rest => rest
  | count + 1, rest =>
    match dropSpace rest with
    | some c :: rest =>
      match scanToken c rest with
      | some (_, left) => dropTokens count left
      | none => some c :: rest
    | rest => rest

end ReviewAssignment.Json
