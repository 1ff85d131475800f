import ReviewAssignment.Json.Basic
import ReviewAssignment.Json.Token
import Mathlib.Data.List.Chain

/-!
# How values are spelled

A value is a list of tokens (`Json.tokens`), each token has a spelling (`Token.SpelledAs`), and a text is a
list of tokens if it is their spellings with any white space around them (`Spaced`).  The compact text of a
value is the one without white space (`spaced_chars`).

White space is never needed: two numerals would run together, but they are never next to each other in the
tokens of a value (`apart_tokens`).
-/

namespace ReviewAssignment.Json

/-! ### Tokens of values -/

mutual

def tokens : Json → List Token
  | .null => [.null]
  | .flag value => [.flag value]
  | .number value => [.number ⟨false, Nat.toDigits 10 value, none, none⟩]
  | .text value => [.text (some value)]
  | .array [] => [.openBracket, .closeBracket]
  | .array (item :: rest) => .openBracket :: tokens item ++ itemTokens rest
  | .object [] => [.openBrace, .closeBrace]
  | .object ((name, value) :: rest) =>
    .openBrace :: .text (some name) :: .colon :: tokens value ++ fieldTokens rest

/-- The tokens of the items after the first, up to the closing bracket. -/
def itemTokens : List Json → List Token
  | [] => [.closeBracket]
  | item :: rest => .comma :: tokens item ++ itemTokens rest

/-- The tokens of the fields after the first, up to the closing brace. -/
def fieldTokens : List (String × Json) → List Token
  | [] => [.closeBrace]
  | (name, value) :: rest =>
    .comma :: .text (some name) :: .colon :: tokens value ++ fieldTokens rest

end

def Token.isNumber : Token → Bool
  | .number _ => true
  | _ => false

def Apart (tokens : List Token) : Prop :=
  tokens.IsChain fun before after => before.isNumber = true → after.isNumber = false

theorem Apart.cons {token : Token} {rest : List Token} (hToken : token.isNumber = false)
    (hRest : Apart rest) : Apart (token :: rest) :=
  List.isChain_cons.2 ⟨fun _ _ hNumber => absurd hNumber (by simp [hToken]), hRest⟩

mutual

/-- **The tokens of a value are apart**, and from what follows it, unless this is a numeral. -/
theorem apart_tokens : ∀ (value : Json) {after : List Token}, Apart after →
    (∀ token ∈ after.head?, token.isNumber = false) → Apart (value.tokens ++ after)
  | .null, _, hAfter, _ | .flag _, _, hAfter, _ | .text _, _, hAfter, _ => .cons rfl hAfter
  | .number _, _, hAfter, hHead => List.isChain_cons.2 ⟨fun token hToken _ => hHead token hToken, hAfter⟩
  | .array [], _, hAfter, _ | .object [], _, hAfter, _ => .cons rfl (.cons rfl hAfter)
  | .array (item :: rest), after, hAfter, _ => by
    rw [tokens, List.append_assoc]
    obtain ⟨hRest, hHead⟩ := apart_itemTokens rest hAfter
    exact .cons rfl (apart_tokens item hRest hHead)
  | .object ((name, value) :: rest), after, hAfter, _ => by
    rw [tokens, List.append_assoc]
    obtain ⟨hRest, hHead⟩ := apart_fieldTokens rest hAfter
    exact .cons rfl (.cons rfl (.cons rfl (apart_tokens value hRest hHead)))

theorem apart_itemTokens : ∀ (items : List Json) {after : List Token}, Apart after →
    Apart (itemTokens items ++ after) ∧
      ∀ token ∈ (itemTokens items ++ after).head?, token.isNumber = false
  | [], _, hAfter => by
    rw [itemTokens]
    exact ⟨.cons rfl hAfter, by simp [Token.isNumber]⟩
  | item :: rest, after, hAfter => by
    rw [itemTokens, List.append_assoc]
    obtain ⟨hRest, hHead⟩ := apart_itemTokens rest hAfter
    exact ⟨.cons rfl (apart_tokens item hRest hHead), by simp [Token.isNumber]⟩

theorem apart_fieldTokens : ∀ (fields : List (String × Json)) {after : List Token}, Apart after →
    Apart (fieldTokens fields ++ after) ∧
      ∀ token ∈ (fieldTokens fields ++ after).head?, token.isNumber = false
  | [], _, hAfter => by
    rw [fieldTokens]
    exact ⟨.cons rfl hAfter, by simp [Token.isNumber]⟩
  | (name, value) :: rest, after, hAfter => by
    rw [fieldTokens, List.append_assoc]
    obtain ⟨hRest, hHead⟩ := apart_fieldTokens rest hAfter
    exact ⟨.cons rfl (.cons rfl (.cons rfl (apart_tokens value hRest hHead))), by simp [Token.isNumber]⟩

end

/-! ### Texts -/

/-- **The spelling of a token.** -/
inductive Token.SpelledAs : Token → List Char → Prop where
  | openBrace : SpelledAs .openBrace ['\x7b']
  | closeBrace : SpelledAs .closeBrace ['\x7d']
  | openBracket : SpelledAs .openBracket ['[']
  | closeBracket : SpelledAs .closeBracket [']']
  | colon : SpelledAs .colon [':']
  | comma : SpelledAs .comma [',']
  | null : SpelledAs .null ['n', 'u', 'l', 'l']
  | yes : SpelledAs (.flag true) ['t', 'r', 'u', 'e']
  | no : SpelledAs (.flag false) ['f', 'a', 'l', 's', 'e']
  | number (value : Nat) :
    SpelledAs (.number ⟨false, Nat.toDigits 10 value, none, none⟩) (Nat.toDigits 10 value)
  | text (content : String) : SpelledAs (.text (some content)) (quoted content)

/-- **Tokens as they may be written**: their spellings one after the other, with any white space before
each of them and at the end. -/
inductive Spaced : List Token → List Char → Prop where
  | nil {space : List Char} (hSpace : ∀ c ∈ space, isSpace c = true) : Spaced [] space
  | cons {token : Token} {rest : List Token} {space word text : List Char}
    (hSpace : ∀ c ∈ space, isSpace c = true) (hWord : token.SpelledAs word) (hRest : Spaced rest text) :
    Spaced (token :: rest) (space ++ word ++ text)

theorem Spaced.next {token : Token} {rest : List Token} {word text : List Char}
    (hWord : token.SpelledAs word) (hRest : Spaced rest text) : Spaced (token :: rest) (word ++ text) :=
  .cons (List.forall_mem_nil _) hWord hRest

theorem Spaced.mark {token : Token} {rest : List Token} {c : Char} {text : List Char}
    (hWord : token.SpelledAs [c]) (hRest : Spaced rest text) : Spaced (token :: rest) (c :: text) :=
  .next hWord hRest

mutual

/-- **The compact text has no white space** of its own. -/
theorem spaced_chars : ∀ (value : Json) {after : List Token} {text : List Char}, Spaced after text →
    Spaced (value.tokens ++ after) (value.chars ++ text)
  | .null, _, _, hAfter => .next .null hAfter
  | .flag true, _, _, hAfter => .next .yes hAfter
  | .flag false, _, _, hAfter => .next .no hAfter
  | .number value, _, _, hAfter => .next (.number value) hAfter
  | .text content, _, _, hAfter => .next (.text content) hAfter
  | .array [], _, _, hAfter => .mark .openBracket (.mark .closeBracket hAfter)
  | .object [], _, _, hAfter => .mark .openBrace (.mark .closeBrace hAfter)
  | .array (item :: rest), _, _, hAfter => by
    simp only [tokens, chars, List.cons_append, List.append_assoc]
    exact .mark .openBracket (spaced_chars item (spaced_itemChars rest hAfter))
  | .object ((name, value) :: rest), _, _, hAfter => by
    simp only [tokens, chars, List.cons_append, List.append_assoc]
    refine .mark .openBrace (.next (.text name) (.mark .colon ?_))
    exact spaced_chars value (spaced_fieldChars rest hAfter)

theorem spaced_itemChars : ∀ (items : List Json) {after : List Token} {text : List Char},
    Spaced after text → Spaced (itemTokens items ++ after) (itemChars items ++ text)
  | [], _, _, hAfter => .mark .closeBracket hAfter
  | item :: rest, _, _, hAfter => by
    simp only [itemTokens, itemChars, List.cons_append, List.append_assoc]
    exact .mark .comma (spaced_chars item (spaced_itemChars rest hAfter))

theorem spaced_fieldChars : ∀ (fields : List (String × Json)) {after : List Token} {text : List Char},
    Spaced after text → Spaced (fieldTokens fields ++ after) (fieldChars fields ++ text)
  | [], _, _, hAfter => .mark .closeBrace hAfter
  | (name, value) :: rest, _, _, hAfter => by
    simp only [fieldTokens, fieldChars, List.cons_append, List.append_assoc]
    refine .mark .comma (.next (.text name) (.mark .colon ?_))
    exact spaced_chars value (spaced_fieldChars rest hAfter)

end

end ReviewAssignment.Json
