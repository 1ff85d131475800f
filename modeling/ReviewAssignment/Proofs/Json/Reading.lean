import ReviewAssignment.Json.Reader
import ReviewAssignment.Proofs.Json.Spelling
import Mathlib.Data.List.Forall2
import Mathlib.Data.List.Nodup
import Mathlib.Logic.Function.Basic

/-!
# What readers make of values

`Reader.Reads` says what a reader makes of the tokens of a value, whatever follows them.  There is one lemma
for each way of reading: a string, a truth value, a value that is skipped, an array, a record.

A record is read from an object whose fields have different names (`record_reads`).  Their order does not
matter, because the fields found are looked up by name at the end; and a field that is not declared does not
matter, because every value can be skipped (`skip_tokens`).
-/

namespace ReviewAssignment.Json

/-- A value does not begin with a bracket that closes. -/
theorem tokens_eq_cons (value : Json) :
    ∃ token rest, value.tokens = token :: rest ∧ token ≠ .closeBracket := by
  rcases value with _ | _ | _ | _ | (_ | _) | (_ | _)
  all_goals
    rw [tokens]
    exact ⟨_, _, rfl, by simp⟩

namespace Reader

/-- **What a reader makes of a value**, whatever follows it. -/
def Reads {α : Type} (read : Reader α) (value : Json) (result : α) : Prop :=
  ∀ rest, read (value.tokens ++ rest) = .ok (result, rest)

theorem text_reads (content : String) : Reads text (.text content) (.text content) := by
  intro rest
  rw [tokens]
  rfl

theorem flag_reads (value : Bool) : Reads flag (.flag value) (.flag value) := by
  intro rest
  rw [tokens]
  rfl

/-! ### Skipping -/

mutual

/-- Every value can be skipped. -/
theorem skipValue_tokens : ∀ (value : Json) (nests : List Nest) (rest : List Token),
    skipValue nests (value.tokens ++ rest) = skipRest nests rest
  | .null, nests, rest | .flag _, nests, rest | .number _, nests, rest | .text _, nests, rest
  | .array [], nests, rest | .object [], nests, rest => by
    simp only [tokens, List.cons_append, List.nil_append, skipValue]
  | .array (item :: others), nests, rest => by
    -- The token after the bracket decides whether there is an item at all.
    obtain ⟨token, more, hTokens, hToken⟩ := tokens_eq_cons item
    have hItem := skipValue_tokens item (.array :: nests) (itemTokens others ++ rest)
    rw [hTokens, List.cons_append] at hItem
    rw [tokens, hTokens, List.append_assoc, List.cons_append, List.cons_append, skipValue, hItem,
      skipRest_itemTokens others]
    · rintro _ ⟨⟩
      exact hToken rfl
    · exact List.cons_ne_nil _ _
  | .object ((name, value) :: others), nests, rest => by
    simp only [tokens, List.cons_append, List.append_assoc, skipValue, skipMember]
    rw [skipValue_tokens value, skipRest_fieldTokens others]

theorem skipRest_itemTokens : ∀ (items : List Json) (nests : List Nest) (rest : List Token),
    skipRest (.array :: nests) (itemTokens items ++ rest) = skipRest nests rest
  | [], nests, rest => by simp only [itemTokens, List.cons_append, List.nil_append, skipRest]
  | item :: others, nests, rest => by
    simp only [itemTokens, List.cons_append, List.append_assoc, skipRest]
    rw [skipValue_tokens item, skipRest_itemTokens others]

theorem skipRest_fieldTokens : ∀ (fields : List (String × Json)) (nests : List Nest) (rest : List Token),
    skipRest (.object :: nests) (fieldTokens fields ++ rest) = skipRest nests rest
  | [], nests, rest => by simp only [fieldTokens, List.cons_append, List.nil_append, skipRest]
  | (name, value) :: others, nests, rest => by
    simp only [fieldTokens, List.cons_append, List.append_assoc, skipRest, skipMember]
    rw [skipValue_tokens value, skipRest_fieldTokens others]

end

theorem skip_tokens (value : Json) (rest : List Token) : skip (value.tokens ++ rest) = .ok rest := by
  rw [skip, skipValue_tokens, skipRest]

/-! ### Arrays -/

variable {read : Reader Json} {value result : Json} {values results : List Json}

theorem item_reads (hItem : Reads read value result) (index : Nat) (rest : List Token) :
    item read index (value.tokens ++ rest) = .ok (result, rest) := by
  obtain ⟨token, more, hTokens, hToken⟩ := tokens_eq_cons value
  have hRead := hItem rest
  rw [hTokens, List.cons_append] at hRead ⊢
  rw [item.eq_def]
  split
  · next hClosed => exact absurd (List.cons.inj hClosed).1 hToken
  · rw [hRead]
    rfl

theorem length_le_itemTokens (values : List Json) : values.length ≤ (itemTokens values).length := by
  induction values with
  | nil => exact Nat.zero_le _
  | cons value rest ih =>
    rw [itemTokens, List.length_append, List.length_cons, List.length_cons]
    omega

theorem items_reads (hRest : List.Forall₂ (Reads read) values results) (hFirst : Reads read value result)
    {fuel : Nat} (hFuel : values.length < fuel) (index : Nat) (rest : List Token) :
    items read fuel index (value.tokens ++ (itemTokens values ++ rest)) =
      .ok (result :: results, rest) := by
  induction hRest generalizing value result fuel index with
  | nil =>
    cases fuel with
    | zero => exact absurd hFuel (Nat.not_lt_zero _)
    | succ fuel =>
      rw [items, item_reads hFirst, itemTokens]
      rfl
  | @cons second secondRead others othersRead hSecond _ ih =>
    cases fuel with
    | zero => exact absurd hFuel (Nat.not_lt_zero _)
    | succ fuel =>
      have hLater := ih hSecond (Nat.lt_of_succ_lt_succ hFuel) (index + 1)
      rw [items, item_reads hFirst, itemTokens, List.append_assoc, List.cons_append]
      change (items read fuel (index + 1) (second.tokens ++ (itemTokens others ++ rest)) >>= _) = _
      rw [hLater]
      rfl

/-- An array is read item by item. -/
theorem sequence_reads (h : List.Forall₂ (Reads read) values results) :
    Reads (sequence read) (.array values) (.array results) := by
  intro rest
  cases h with
  | nil =>
    rw [tokens]
    rfl
  | @cons value result values results hFirst hRest =>
    obtain ⟨token, more, hTokens, hToken⟩ := tokens_eq_cons value
    have hFuel : values.length < (value.tokens ++ (itemTokens values ++ rest)).length := by
      have := length_le_itemTokens values
      rw [hTokens, List.length_append, List.length_append, List.length_cons]
      omega
    have hItems := items_reads hRest hFirst hFuel 0 rest
    rw [tokens, List.append_assoc, List.cons_append]
    rw [hTokens, List.cons_append] at hItems ⊢
    rw [sequence]
    · rw [hItems]
      rfl
    · rintro _ ⟨⟩
      exact hToken rfl
    · exact List.cons_ne_nil _ _

/-! ### Records -/

variable {fields : List Field} {found : String → Json}

def findings (found : String → Json) (names : List String) : List (String × Json) :=
  names.map fun name => (name, found name)

theorem length_le_fieldTokens (given : List (String × Json)) :
    given.length ≤ (fieldTokens given).length := by
  induction given with
  | nil => exact Nat.zero_le _
  | cons member rest ih =>
    rw [fieldTokens, List.length_append]
    simp only [List.length_cons]
    omega

theorem lookup_findings_of_notMem {name : String} {names : List String} (h : name ∉ names) :
    List.lookup name (findings found names) = none := by
  rw [List.lookup_eq_none_iff]
  intro pair hPair
  obtain ⟨other, hOther, rfl⟩ := List.mem_map.1 hPair
  exact bne_iff_ne.2 fun hSame => h (hSame ▸ hOther)

/-- The fields that were found, in the order of their declaration. -/
theorem declared_findings (found : String → Json) (names : List String) (left : Nat)
    (hFound : ∀ field ∈ fields, field.name ∈ names) :
    declared left (findings found names) fields =
      .ok (fields.map fun field => (field.name, found field.name)) := by
  induction fields with
  | nil => rfl
  | cons field fields ih =>
    obtain ⟨hFirst, hOthers⟩ := List.forall_mem_cons.1 hFound
    rw [declared, findings, List.lookup_graph found hFirst, ← findings, ih hOthers]
    rfl

/-- The names under which something has been found, after one more member of an object. -/
def seenWith (fields : List Field) (name : String) (names : List String) : List String :=
  if name ∈ fields.map Field.name then name :: names else names

theorem mem_seenWith {name other : String} {names : List String} (h : other ∈ seenWith fields name names) :
    other = name ∨ other ∈ names := by
  rw [seenWith] at h
  split at h
  · exact List.mem_cons.1 h
  · exact Or.inr h

theorem mem_seenWith_of_declared {name other : String} {names : List String}
    (hDeclared : other ∈ fields.map Field.name) (h : other = name ∨ other ∈ names) :
    other ∈ seenWith fields name names := by
  rw [seenWith]
  rcases h with rfl | hMem
  · rw [if_pos hDeclared]
    exact List.mem_cons_self
  · split
    · exact List.mem_cons_of_mem name hMem
    · exact hMem

/-- A member of an object is added to what was found, or skipped. -/
theorem member_reads {name : String} {names : List String} (hNew : name ∉ names)
    (hReads : ∀ field ∈ fields, field.name = name → Reads field.read value (found name))
    (rest : List Token) :
    member fields name (findings found names) (.colon :: (value.tokens ++ rest)) =
      .ok (findings found (seenWith fields name names), rest) := by
  rw [member, seenWith]
  cases hField : fields.find? fun field => field.name == name with
  | none =>
    have hOut : name ∉ fields.map Field.name := by simpa using hField
    rw [if_neg hOut]
    change (inside (.field name) (skip (value.tokens ++ rest)) >>= _) = _
    rw [skip_tokens]
    rfl
  | some field =>
    have hMem := List.mem_of_find?_eq_some hField
    have hName : field.name = name := by simpa using List.find?_some hField
    rw [if_pos (hName ▸ List.mem_map_of_mem hMem), lookup_findings_of_notMem hNew]
    change (inside (.field name) (field.read (value.tokens ++ rest)) >>= _) = _
    rw [hReads field hMem hName]
    rfl

/-- A name that is not found yet is neither found by the member before it. -/
theorem notMem_seenWith {name : String} {later names : List String} (hDistinct : (name :: later).Nodup)
    (hNew : ∀ other ∈ name :: later, other ∉ names) :
    ∀ other ∈ later, other ∉ seenWith fields name names := by
  intro other hOther hSeen
  rcases mem_seenWith hSeen with rfl | hOld
  · exact (List.nodup_cons.1 hDistinct).1 hOther
  · exact hNew other (List.mem_cons_of_mem name hOther) hOld

/-- The members of an object from a name on: each declared field among them is found. -/
theorem members_reads {given : List (String × Json)} {name : String} {names : List String}
    (hDistinct : (name :: given.map Prod.fst).Nodup)
    (hNew : ∀ other ∈ name :: given.map Prod.fst, other ∉ names)
    (hFirst : ∀ field ∈ fields, field.name = name → Reads field.read value (found name))
    (hReads : ∀ member ∈ given, ∀ field ∈ fields, field.name = member.1 →
      Reads field.read member.2 (found member.1))
    {fuel : Nat} (hFuel : given.length < fuel) (due : Due) (rest : List Token) :
    ∃ seen, members fields fuel due (findings found names)
        (.text (some name) :: .colon :: (value.tokens ++ (fieldTokens given ++ rest))) =
          .ok (findings found seen, rest) ∧
      ∀ other ∈ fields.map Field.name, other ∈ name :: given.map Prod.fst ∨ other ∈ names →
        other ∈ seen := by
  have hMember := member_reads (hNew name List.mem_cons_self) hFirst (fieldTokens given ++ rest)
  -- What has been found has none of the names to come, so none of them is refused as a repeat.
  induction given generalizing name value names fuel due with
  | nil =>
    cases fuel with
    | zero => exact absurd hFuel (Nat.not_lt_zero _)
    | succ fuel =>
      refine ⟨seenWith fields name names, ?_, fun other hDeclared hOther => ?_⟩
      · rw [members, hMember, fieldTokens]
        rfl
      · refine mem_seenWith_of_declared hDeclared (hOther.imp_left fun hMem => ?_)
        exact List.mem_singleton.1 hMem
  | cons member given ih =>
    obtain ⟨second, secondValue⟩ := member
    cases fuel with
    | zero => exact absurd hFuel (Nat.not_lt_zero _)
    | succ fuel =>
      obtain ⟨hSecond, hReads⟩ := List.forall_mem_cons.1 hReads
      have hStillNew : ∀ other ∈ second :: given.map Prod.fst,
          other ∉ seenWith fields name names := notMem_seenWith hDistinct hNew
      obtain ⟨seen, hMembers, hSeen⟩ := ih hDistinct.of_cons hStillNew hSecond hReads
        (Nat.lt_of_succ_lt_succ hFuel) .name
        (member_reads (hStillNew second List.mem_cons_self) hSecond (fieldTokens given ++ rest))
      refine ⟨seen, ?_, fun other hDeclared hOther => hSeen other hDeclared ?_⟩
      · simp only [fieldTokens, List.cons_append, List.append_assoc] at hMember ⊢
        rw [members, hMember]
        change (members fields fuel .name _ _ = _)
        exact hMembers
      · rw [List.map_cons, List.mem_cons] at hOther
        rcases hOther with (hFirstOne | hLater) | hOld
        · exact Or.inr (mem_seenWith_of_declared hDeclared (Or.inl hFirstOne))
        · exact Or.inl hLater
        · exact Or.inr (mem_seenWith_of_declared hDeclared (Or.inr hOld))

theorem record_reads_findings {given : List (String × Json)} (name : String)
    (hDistinct : (given.map Prod.fst).Nodup)
    (hReads : ∀ member ∈ given, ∀ field ∈ fields, field.name = member.1 →
      Reads field.read member.2 (found member.1))
    (hAll : ∀ field ∈ fields, field.name ∈ given.map Prod.fst) :
    Reads (record name fields) (.object given)
      (.object (fields.map fun field => (field.name, found field.name))) := by
  intro rest
  cases given with
  | nil =>
    have hDeclared := declared_findings found [] rest.length hAll
    rw [tokens, List.cons_append, List.cons_append, List.nil_append, record]
    change (declared rest.length (findings found []) fields >>= _) = _
    rw [hDeclared]
    rfl
  | cons member given =>
    obtain ⟨first, value⟩ := member
    obtain ⟨hFirst, hReads⟩ := List.forall_mem_cons.1 hReads
    let rest' : List Token :=
      .text (some first) :: .colon :: (value.tokens ++ (fieldTokens given ++ rest))
    have hFuel : given.length < rest'.length := by
      have := length_le_fieldTokens given
      simp only [rest', List.length_cons, List.length_append]
      omega
    have hNew : ∀ other ∈ first :: given.map Prod.fst, other ∉ ([] : List String) := fun _ _ =>
      List.not_mem_nil
    obtain ⟨seen, hMembers, hSeen⟩ :=
      members_reads hDistinct hNew hFirst hReads hFuel .firstName rest
    have hDeclared := declared_findings found seen rest.length fun field hField =>
      hSeen field.name (List.mem_map_of_mem hField) (Or.inl (hAll field hField))
    simp only [tokens, List.cons_append, List.append_assoc, record]
    change (members fields rest'.length .firstName (findings found []) rest' >>= _) = _
    rw [hMembers]
    change (declared rest.length (findings found seen) fields >>= _) = _
    rw [hDeclared]
    rfl

/-- What is read for some fields, as a function of their names. -/
theorem exists_found {results : List (String × Json)} (reads : Field → Json → Prop)
    (hNames : (fields.map Field.name).Nodup)
    (hResults : List.Forall₂ (fun field result => field.name = result.1 ∧ reads field result.2)
      fields results) :
    ∃ found : String → Json, fields.map (fun field => (field.name, found field.name)) = results ∧
      ∀ field ∈ fields, reads field (found field.name) := by
  induction hResults with
  | nil => exact ⟨fun _ => .null, rfl, List.forall_mem_nil _⟩
  | @cons field result fields results hFirst _ ih =>
    obtain ⟨name, value⟩ := result
    obtain ⟨rfl, hReads⟩ := hFirst
    obtain ⟨hNew, hNames⟩ := List.nodup_cons.1 hNames
    obtain ⟨found, rfl, hFound⟩ := ih hNames
    have hKept : ∀ other ∈ fields,
        Function.update found field.name value other.name = found other.name := by
      intro other hOther
      refine Function.update_of_ne (fun hSame => hNew ?_) value found
      rw [← hSame]
      exact List.mem_map_of_mem hOther
    refine ⟨Function.update found field.name value, ?_, List.forall_mem_cons.2 ⟨?_, ?_⟩⟩
    · rw [List.map_cons, Function.update_self]
      exact congrArg _ (List.map_congr_left fun other hOther => by rw [hKept other hOther])
    · rw [Function.update_self]
      exact hReads
    · intro other hOther
      rw [hKept other hOther]
      exact hFound other hOther

/-- **A record** is read from an object that has its fields among others, in any order. -/
theorem record_reads {given results : List (String × Json)} (name : String)
    (hNames : (fields.map Field.name).Nodup) (hDistinct : (given.map Prod.fst).Nodup)
    (hResults : List.Forall₂ (fun field result => field.name = result.1 ∧
      ∃ value, (field.name, value) ∈ given ∧ Reads field.read value result.2) fields results) :
    Reads (record name fields) (.object given) (.object results) := by
  obtain ⟨found, rfl, hFound⟩ := exists_found
    (fun field result => ∃ value, (field.name, value) ∈ given ∧ Reads field.read value result)
    hNames hResults
  refine record_reads_findings name hDistinct (fun member hMember field hField hName => ?_)
    fun field hField => ?_
  · obtain ⟨value, hValue, hReads⟩ := hFound field hField
    have hSame : (field.name, value) = member := List.inj_on_of_nodup_map hDistinct hValue hMember hName
    rw [← hSame]
    exact hReads
  · obtain ⟨value, hValue, -⟩ := hFound field hField
    exact List.mem_map_of_mem (f := Prod.fst) hValue

end Reader

end ReviewAssignment.Json
