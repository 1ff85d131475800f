import ReviewAssignment.Proofs.Json.Spelling

/-!
# Scanning undoes spelling

`scan` gives back the tokens that a text was made of, whatever white space stands between them
(`scan_spaced`).  A token is known by its first character; strings are read back character by character,
because each character has an escape of its own or stands for itself (`scanText_escapeChar`), and a numeral
ends where its digits end, because no numeral follows it (`scanNumeral_toDigits`).
-/

namespace ReviewAssignment.Json

/-! ### Strings -/

/-- A unit that is no half of a surrogate pair is a character. -/
theorem content_unit {unit : Nat} (hUnit : unit < 0xD800) (pieces : List Piece) :
    content (.unit unit :: pieces) = (content pieces).map (Char.ofNat unit :: ·) := by
  have hUpper : ¬(0xD800 ≤ unit ∧ unit < 0xDC00) := fun h => Nat.not_le.2 hUnit h.1
  have hLower : ¬(0xDC00 ≤ unit ∧ unit < 0xE000) := fun h => by omega
  have hHalf : ¬(0xD800 ≤ unit ∧ unit < 0xE000) := fun h => Nat.not_le.2 hUnit h.1
  -- Only before another unit it is asked whether this one is an upper half.
  rcases pieces with _ | ⟨_ | low | _, rest⟩
  · simp [content, hHalf]
  · simp [content, hHalf]
  · simp [content, hUpper, hLower]
  · simp [content]

theorem unit?_hexDigit {n : Nat} (hn : n < 256) :
    unit? '0' '0' (Text.hexDigit (n / 16)) (Text.hexDigit (n % 16)) = some n := by
  have hZero : Text.hexValue? '0' = some 0 := by decide
  rw [unit?, hZero, Text.hexValue?_hexDigit _ (by omega), Text.hexValue?_hexDigit _ (by omega)]
  simp only [Option.bind_eq_bind, Option.bind_some, Option.pure_def, Option.some.injEq]
  omega

theorem scanText_plain {c : Char} (hQuote : c ≠ '"') (hBackslash : c ≠ '\\') (hControl : ¬c.toNat < 32)
    (rest : List Symbol) :
    scanText (some c :: rest) = (scanText rest).map (before (.char c)) := by
  rw [scanText.eq_def]
  split <;> simp_all

/-- **A character is read back** from how it stands in a string. -/
theorem scanText_escapeChar (c : Char) (rest : List Symbol) :
    ∃ piece, scanText ((escapeChar c).map some ++ rest) = (scanText rest).map (before piece) ∧
      ∀ pieces, content (piece :: pieces) = (content pieces).map (c :: ·) := by
  rw [escapeChar]
  split_ifs with hQuote hBackslash hBackspace hFeed hLine hReturn hTab hControl
  · exact ⟨.char c, by simp [scanText, escaped?, hQuote], fun _ => by rw [content]⟩
  · exact ⟨.char c, by simp [scanText, escaped?, hBackslash], fun _ => by rw [content]⟩
  · exact ⟨.char c, by simp [scanText, escaped?, hBackspace], fun _ => by rw [content]⟩
  · exact ⟨.char c, by simp [scanText, escaped?, hFeed], fun _ => by rw [content]⟩
  · exact ⟨.char c, by simp [scanText, escaped?, hLine], fun _ => by rw [content]⟩
  · exact ⟨.char c, by simp [scanText, escaped?, hReturn], fun _ => by rw [content]⟩
  · exact ⟨.char c, by simp [scanText, escaped?, hTab], fun _ => by rw [content]⟩
  · refine ⟨.unit c.toNat, ?_, fun pieces => ?_⟩
    · simp only [List.map_cons, List.map_nil, List.cons_append, List.nil_append, scanText]
      rw [unit?_hexDigit (by omega)]
    · rw [content_unit (by omega), Char.ofNat_toNat]
  · exact ⟨.char c, scanText_plain hQuote hBackslash hControl rest, fun _ => by rw [content]⟩

/-- A string is read back. -/
theorem scanText_quoted (text : List Char) (rest : List Symbol) :
    ∃ pieces, scanText ((text.flatMap escapeChar).map some ++ some '"' :: rest) = some (pieces, rest) ∧
      content pieces = some text := by
  induction text with
  | nil => exact ⟨[], by simp [scanText], rfl⟩
  | cons c text ih =>
    obtain ⟨pieces, hScan, hContent⟩ := ih
    obtain ⟨piece, hPiece, hChar⟩ :=
      scanText_escapeChar c ((text.flatMap escapeChar).map some ++ some '"' :: rest)
    refine ⟨piece :: pieces, ?_, ?_⟩
    · rw [List.flatMap_cons, List.map_append, List.append_assoc, hPiece, hScan]
      rfl
    · rw [hChar, hContent]
      rfl

/-! ### Numerals -/

def breaksNumeral (c : Char) : Bool :=
  !Decimal.isDigit c && c != '.' && c != 'e' && c != 'E'

def EndsNumeral (rest : List Symbol) : Prop :=
  ∀ c, rest.head? = some (some c) → breaksNumeral c = true

theorem isDigit_of_isDigit {c : Char} (h : c.isDigit = true) : Decimal.isDigit c = true := by
  have hRange : '0' ≤ c ∧ c ≤ '9' := by
    rw [Char.isDigit, Bool.and_eq_true, decide_eq_true_iff, decide_eq_true_iff] at h
    exact h
  rw [Decimal.isDigit, Decimal.digitValue?, if_pos hRange]
  rfl

theorem isDigit_of_mem_toDigits {c : Char} {n : Nat} (hc : c ∈ Nat.toDigits 10 n) :
    Decimal.isDigit c = true :=
  isDigit_of_isDigit (Nat.isDigit_of_mem_toDigits (by decide) (by decide) hc)

theorem eq_zero_of_head?_toDigits (n : Nat) (h : (Nat.toDigits 10 n).head? = some '0') : n = 0 := by
  induction n using Nat.strongRecOn with
  | ind n ih =>
    by_cases hSmall : n < 10
    · rw [Nat.toDigits_of_lt_base hSmall] at h
      have hFirst : ∀ n < 10, n.digitChar = '0' → n = 0 := by decide
      exact hFirst n hSmall (Option.some.inj h)
    · rw [Nat.toDigits_of_base_le (by decide) (Nat.not_lt.1 hSmall),
        List.head?_append_of_ne_nil _ Nat.toDigits_ne_nil] at h
      have := ih (n / 10) (by omega) h
      omega

theorem spanDigits_append {digits : List Char} (hDigits : ∀ c ∈ digits, Decimal.isDigit c = true)
    {rest : List Symbol} (hRest : EndsNumeral rest) :
    spanDigits (digits.map some ++ rest) = (digits, rest) := by
  induction digits with
  | nil =>
    rw [List.map_nil, List.nil_append, spanDigits.eq_def]
    split
    · next c tail =>
      have hBreaks : breaksNumeral c = true := hRest c rfl
      have hOther : Decimal.isDigit c = false := by simp_all [breaksNumeral]
      rw [if_neg (by simp [hOther])]
    · rfl
  | cons c digits ih =>
    obtain ⟨hFirst, hOthers⟩ := List.forall_mem_cons.1 hDigits
    rw [List.map_cons, List.cons_append, spanDigits, if_pos hFirst, ih hOthers]

theorem scanFraction_of_endsNumeral {rest : List Symbol} (hRest : EndsNumeral rest) :
    scanFraction rest = some (none, rest) := by
  rw [scanFraction.eq_def]
  split
  · exact absurd (hRest '.' rfl) (by decide)
  · rfl

theorem scanExponent_of_endsNumeral {rest : List Symbol} (hRest : EndsNumeral rest) :
    scanExponent rest = some (none, rest) := by
  rw [scanExponent.eq_def]
  split
  · exact absurd (hRest 'e' rfl) (by decide)
  · exact absurd (hRest 'E' rfl) (by decide)
  · rfl

/-- **A numeral is read back**, to where its digits end. -/
theorem scanNumeral_toDigits (n : Nat) {rest : List Symbol} (hRest : EndsNumeral rest) :
    scanNumeral false ((Nat.toDigits 10 n).map some ++ rest) =
      some (⟨false, Nat.toDigits 10 n, none, none⟩, rest) := by
  have hNonempty : (Nat.toDigits 10 n).isEmpty = false :=
    List.isEmpty_eq_false_iff.2 Nat.toDigits_ne_nil
  have hZero : ¬((Nat.toDigits 10 n).head? = some '0' ∧ (Nat.toDigits 10 n).length ≠ 1) := by
    rintro ⟨hHead, hLength⟩
    rw [eq_zero_of_head?_toDigits n hHead] at hLength
    exact hLength rfl
  rw [scanNumeral, spanDigits_append (fun c => isDigit_of_mem_toDigits) hRest]
  simp only [hNonempty, Bool.false_eq_true, false_or]
  rw [if_neg hZero, scanFraction_of_endsNumeral hRest]
  change (scanExponent rest >>= _) = _
  rw [scanExponent_of_endsNumeral hRest]
  rfl

/-! ### Tokens -/

theorem scan_of_scanToken {c : Char} {rest left : List Symbol} {token : Token}
    (hSpace : isSpace c = false) (hToken : scanToken c rest = some (token, left)) :
    scan (some c :: rest) = token :: scan left := by
  rw [scan, if_neg (by simp [hSpace])]
  split
  · next found after hFound =>
    obtain ⟨rfl, rfl⟩ := Prod.mk.inj (Option.some.inj (hFound.symm.trans hToken))
    rfl
  · next hNone => cases hNone.symm.trans hToken

theorem scan_space {space : List Char} (hSpace : ∀ c ∈ space, isSpace c = true) (rest : List Symbol) :
    scan (space.map some ++ rest) = scan rest := by
  induction space with
  | nil => rfl
  | cons c space ih =>
    obtain ⟨hFirst, hOthers⟩ := List.forall_mem_cons.1 hSpace
    rw [List.map_cons, List.cons_append, scan, if_pos hFirst, ih hOthers]

theorem scanToken_digit {c : Char} (hDigit : Decimal.isDigit c = true) (rest : List Symbol) :
    scanToken c rest =
      (scanNumeral false (some c :: rest)).map fun scanned => (.number scanned.1, scanned.2) := by
  rw [scanToken.eq_def]
  split
  case h_12 => rw [if_pos hDigit]
  all_goals exact absurd hDigit (by decide)

/-- A token is read back, if nothing goes on with a numeral. -/
theorem scan_word {token : Token} {word : List Char} (hWord : token.SpelledAs word) {rest : List Symbol}
    (hRest : token.isNumber = true → EndsNumeral rest) :
    scan (word.map some ++ rest) = token :: scan rest := by
  cases hWord with
  | text content =>
    obtain ⟨pieces, hScan, hContent⟩ := scanText_quoted content.toList rest
    have hQuoted : (quoted content).map some ++ rest =
        some '"' :: ((content.toList.flatMap escapeChar).map some ++ some '"' :: rest) := by
      simp [quoted]
    rw [hQuoted]
    refine scan_of_scanToken (by decide) ?_
    rw [scanToken, hScan, Option.map_some, hContent, Option.map_some, String.ofList_toList]
  | number value =>
    cases hDigits : Nat.toDigits 10 value with
    | nil => exact absurd hDigits Nat.toDigits_ne_nil
    | cons c digits =>
      have hFirst : Decimal.isDigit c = true :=
        isDigit_of_mem_toDigits (hDigits ▸ List.mem_cons_self)
      have hSpace : isSpace c = false := by
        by_contra hSpace
        simp only [isSpace, Bool.not_eq_false, Bool.or_eq_true, beq_iff_eq] at hSpace
        rcases hSpace with ((rfl | rfl) | rfl) | rfl <;> exact absurd hFirst (by decide)
      have hNumeral := scanNumeral_toDigits value (hRest rfl)
      rw [hDigits] at hNumeral
      refine scan_of_scanToken hSpace ?_
      rw [scanToken_digit hFirst]
      change (scanNumeral false ((c :: digits).map some ++ rest)).map _ = _
      rw [hNumeral]
      rfl
  | _ => exact scan_of_scanToken (by decide) rfl

/-! ### Texts -/

theorem breaksNumeral_of_isSpace {c : Char} (h : isSpace c = true) : breaksNumeral c = true := by
  simp only [isSpace, Bool.or_eq_true, beq_iff_eq] at h
  rcases h with ((rfl | rfl) | rfl) | rfl <;> decide

/-- No token but a numeral goes on with a numeral. -/
theorem Token.SpelledAs.breaksNumeral {token : Token} {word : List Char} (h : token.SpelledAs word)
    (hToken : token.isNumber = false) : ∃ c rest, word = c :: rest ∧ Json.breaksNumeral c = true := by
  cases h with
  | number value => cases hToken
  | _ => exact ⟨_, _, rfl, by decide⟩

theorem endsNumeral_of_spaced {tokens : List Token} {text : List Char} (h : Spaced tokens text)
    (hHead : ∀ token ∈ tokens.head?, token.isNumber = false) : EndsNumeral (text.map some) := by
  have hStart : ∀ {space rest : List Char}, (∀ c ∈ space, isSpace c = true) →
      EndsNumeral (rest.map some) → EndsNumeral ((space ++ rest).map some) := by
    intro space rest hSpace hRest
    cases space with
    | nil => exact hRest
    | cons first others =>
      rintro c ⟨⟩
      exact breaksNumeral_of_isSpace (hSpace first List.mem_cons_self)
  cases h with
  | nil hSpace =>
    rw [← List.append_nil text]
    exact hStart hSpace fun c hc => nomatch hc
  | @cons token rest space word text hSpace hWord hRest =>
    rw [List.append_assoc]
    refine hStart hSpace ?_
    obtain ⟨first, others, rfl, hFirst⟩ := hWord.breaksNumeral (hHead token rfl)
    rintro c ⟨⟩
    exact hFirst

/-- **Scanning undoes spelling**, whatever white space there is, as long as no numerals run together. -/
theorem scan_spaced {tokens : List Token} {text : List Char} (h : Spaced tokens text)
    (hApart : Apart tokens) : scan (text.map some) = tokens := by
  induction h with
  | @nil space hSpace =>
    have hScan := scan_space hSpace []
    rw [List.append_nil] at hScan
    rw [hScan, scan]
  | @cons token rest space word text hSpace hWord hRest ih =>
    obtain ⟨hNext, hApart⟩ := List.isChain_cons.1 hApart
    rw [List.map_append, List.map_append, List.append_assoc, scan_space hSpace, scan_word hWord, ih hApart]
    exact fun hNumber => endsNumeral_of_spaced hRest fun next hMem => hNext next hMem hNumber

end ReviewAssignment.Json
