import ReviewAssignment.Json.Records
import ReviewAssignment.Proofs.Json.Reading
import ReviewAssignment.Proofs.Json.Scanning
import ReviewAssignment.Proofs.Utf8

/-!
# What is written can be read

A value may be written in many ways: its objects may have their fields in another order (`Reordered`), and
there may be white space between the tokens.  `SpelledAs` puts the two together; the compact text is one of
the spellings (`spelledAs_write`).

Every spelling of a user is read as the user, and every spelling of a team as the team; a spelling of a
profile is read as its user (`User.decodeText_of_spelledAs`, `Team.decodeText_of_spelledAs`,
`Profile.decodeText_of_spelledAs`).
-/

namespace ReviewAssignment

namespace Json

/-! ### Spellings -/

/-- **A value with the fields of its objects in another order**, on every level: the values of the fields
are reordered in themselves, and then the fields are. -/
inductive Reordered : Json → Json → Prop where
  | refl (value : Json) : Reordered value value
  | array {items others : List Json} (hItems : List.Forall₂ Reordered items others) :
    Reordered (.array items) (.array others)
  | object {fields between others : List (String × Json)}
    (hNames : fields.map Prod.fst = between.map Prod.fst)
    (hValues : List.Forall₂ Reordered (fields.map Prod.snd) (between.map Prod.snd))
    (hOrder : others.Perm between) : Reordered (.object fields) (.object others)

/-- **A text is a spelling of a value**: its tokens are those of the value, up to the order of fields, with
any white space around them. -/
def SpelledAs (value : Json) (text : String) : Prop :=
  ∃ reordered, value.Reordered reordered ∧ Spaced reordered.tokens text.toList

/-- **The compact text** is a spelling. -/
theorem spelledAs_write (value : Json) : value.SpelledAs value.write := by
  have hSpaced : Spaced (value.tokens ++ []) (value.chars ++ []) :=
    spaced_chars value (.nil (List.forall_mem_nil _))
  rw [List.append_nil, List.append_nil] at hSpaced
  refine ⟨value, .refl value, ?_⟩
  rw [write, String.toList_ofList]
  exact hSpaced

/-- A spelling is read as the value that it spells. -/
theorem decode_spaced {α : Type} {reader : Reader α} {value : Json} {result : α} {text : List Char}
    (hReads : reader.Reads value result) (hSpaced : Spaced value.tokens text) :
    decode reader (text.map some) = .ok result := by
  have hApart : Apart (value.tokens ++ []) := apart_tokens value .nil (by simp)
  have hTokens := hReads []
  rw [List.append_nil] at hApart hTokens
  rw [decode, scan_spaced hSpaced hApart, hTokens]

theorem Reader.Reads.into {α : Type} {reader : Reader Json} {build : Json → Option α} {value result : Json}
    {built : α} (hReads : reader.Reads value result) (hBuilt : build result = some built) :
    (reader.into build).Reads value built := by
  intro rest
  rw [Reader.into, hReads rest]
  simp only [hBuilt]

/-! ### The order of fields -/

theorem Reordered.of_array {items : List Json} {value : Json} (h : Reordered (.array items) value) :
    ∃ others, value = .array others ∧ List.Forall₂ Reordered items others := by
  cases h with
  | refl => exact ⟨items, rfl, List.forall₂_same.2 fun item _ => .refl item⟩
  | array hItems => exact ⟨_, rfl, hItems⟩

theorem Reordered.of_object {fields : List (String × Json)} {value : Json}
    (h : Reordered (.object fields) value) :
    ∃ between others, value = .object others ∧ fields.map Prod.fst = between.map Prod.fst ∧
      List.Forall₂ Reordered (fields.map Prod.snd) (between.map Prod.snd) ∧ others.Perm between := by
  cases h with
  | refl => exact ⟨fields, fields, rfl, rfl, List.forall₂_same.2 fun item _ => .refl item, .refl _⟩
  | object hNames hValues hOrder => exact ⟨_, _, rfl, hNames, hValues, hOrder⟩

def Plain (value : Json) : Prop :=
  ∀ other, Reordered value other → other = value

theorem plain_text (content : String) : Plain (.text content) := by
  intro other h
  cases h
  rfl

theorem plain_flag (content : Bool) : Plain (.flag content) := by
  intro other h
  cases h
  rfl

theorem eq_of_plain {fields between : List (String × Json)} (hPlain : ∀ field ∈ fields, field.2.Plain)
    (hNames : fields.map Prod.fst = between.map Prod.fst)
    (hValues : List.Forall₂ Reordered (fields.map Prod.snd) (between.map Prod.snd)) :
    between = fields := by
  induction fields generalizing between with
  | nil => exact List.map_eq_nil_iff.1 hNames.symm
  | cons field fields ih =>
    obtain ⟨hFirst, hRest⟩ := List.forall_mem_cons.1 hPlain
    cases between with
    | nil => cases hValues
    | cons other between =>
      obtain ⟨hName, hNames⟩ := List.cons.inj hNames
      obtain ⟨hValue, hValues⟩ := List.forall₂_cons.1 hValues
      have hSame : other = field := Prod.ext hName.symm (hFirst other.2 hValue)
      rw [hSame, ih hRest hNames hValues]

/-- Of an object with plain values, only the fields are reordered. -/
theorem Reordered.of_plain {fields : List (String × Json)} {value : Json}
    (hPlain : ∀ field ∈ fields, field.2.Plain) (h : Reordered (.object fields) value) :
    ∃ others, value = .object others ∧ others.Perm fields := by
  obtain ⟨between, others, rfl, hNames, hValues, hOrder⟩ := h.of_object
  have hFields : between = fields := eq_of_plain hPlain hNames hValues
  exact ⟨others, rfl, hFields ▸ hOrder⟩

end Json

/-! ### Records -/

open Json Json.Reader

/-- A user is read from an object that has its fields among others, in any order. -/
theorem User.fields_read (user : User) {given : List (String × Json)}
    (hDistinct : (given.map Prod.fst).Nodup) (hGiven : ∀ field ∈ user.fields, field ∈ given) :
    Reads userRecord (.object given) user.toJson := by
  refine record_reads "User" (by decide) hDistinct ?_
  simp only [User.fields, List.forall_mem_cons] at hGiven
  obtain ⟨hId, hName, hActive, -⟩ := hGiven
  refine .cons ⟨rfl, _, hId, text_reads _⟩ (.cons ⟨rfl, _, hName, text_reads _⟩ (.cons ?_ .nil))
  exact ⟨rfl, _, hActive, flag_reads _⟩

theorem User.reads (user : User) {value : Json} (h : user.toJson.Reordered value) :
    Reads userRecord value user.toJson := by
  have hPlain : ∀ field ∈ user.fields, field.2.Plain := by
    simp [User.fields, plain_text, plain_flag]
  obtain ⟨given, rfl, hOrder⟩ := h.of_plain hPlain
  refine user.fields_read ?_ fun field hField => hOrder.mem_iff.2 hField
  rw [(hOrder.map Prod.fst).nodup_iff]
  simp [User.fields]

theorem Profile.reads (profile : Profile) {value : Json} (h : profile.toJson.Reordered value) :
    Reads userRecord value profile.user.toJson := by
  have hPlain : ∀ field ∈ profile.user.fields ++ [("team_name", .text profile.teamName)],
      field.2.Plain := by
    simp [User.fields, plain_text, plain_flag]
  obtain ⟨given, rfl, hOrder⟩ := h.of_plain hPlain
  refine profile.user.fields_read ?_ fun field hField => ?_
  · rw [(hOrder.map Prod.fst).nodup_iff]
    simp [User.fields]
  · exact hOrder.mem_iff.2 (List.mem_append_left _ hField)

theorem mapM_ofJson?_toJson (users : List User) :
    (users.map User.toJson).mapM User.ofJson? = some users := by
  induction users with
  | nil => rfl
  | cons user users ih =>
    rw [List.map_cons, List.mapM_cons, ih]
    rfl

/-- A team is read from whatever order its fields and those of its members are in. -/
theorem Team.reads (team : Team) {value : Json} (h : team.toJson.Reordered value) :
    Reads Reader.team value team := by
  obtain ⟨between, given, rfl, hNames, hValues, hOrder⟩ := h.of_object
  -- Under the two names stand the name of the team as it is and the members, each of them reordered.
  obtain ⟨⟨_, name⟩, _, rfl, rfl, hRest⟩ := List.map_eq_cons_iff.1 hNames.symm
  obtain ⟨⟨_, members⟩, _, rfl, rfl, hNone⟩ := List.map_eq_cons_iff.1 hRest
  obtain rfl := List.map_eq_nil_iff.1 hNone
  obtain ⟨hName, hValues⟩ := List.forall₂_cons.1 hValues
  obtain ⟨hMembers, -⟩ := List.forall₂_cons.1 hValues
  obtain rfl := plain_text team.name name hName
  obtain ⟨users, rfl, hUsers⟩ := hMembers.of_array
  have hItems : List.Forall₂ (Reads userRecord) users (team.members.map User.toJson) := by
    rw [List.forall₂_map_left_iff] at hUsers
    rw [List.forall₂_map_right_iff]
    exact hUsers.flip.imp fun _ user hUser => user.reads hUser
  have hDistinct : (given.map Prod.fst).Nodup := by
    rw [(hOrder.map Prod.fst).nodup_iff]
    simp
  have hRecord : Reads (record "Team" [textField "team_name", ⟨"members", sequence userRecord⟩])
      (.object given) team.toJson := by
    refine record_reads "Team" (by decide) hDistinct (.cons ?_ (.cons ?_ .nil))
    · exact ⟨rfl, _, hOrder.mem_iff.2 List.mem_cons_self, text_reads _⟩
    · refine ⟨rfl, _, hOrder.mem_iff.2 (List.mem_cons_of_mem _ List.mem_cons_self), ?_⟩
      exact sequence_reads hItems
  refine hRecord.into ?_
  change (do return ⟨team.name, ← (team.members.map User.toJson).mapM User.ofJson?⟩ : Option Team) = _
  rw [mapM_ofJson?_toJson]
  rfl

/-! ### Texts -/

def Json.decodeText {α : Type} (reader : Reader α) (text : String) : Except Fault α :=
  decode reader (Text.Utf8.decodeExact (Text.Utf8.encode text))

/-- **A spelling is read**, whatever the order of the fields, as what a reader makes of every order. -/
theorem Json.decodeText_of_spelledAs {α : Type} {reader : Reader α} {value : Json} {result : α}
    {text : String} (hReads : ∀ reordered, value.Reordered reordered → reader.Reads reordered result)
    (hText : value.SpelledAs text) : decodeText reader text = .ok result := by
  obtain ⟨reordered, hReordered, hSpaced⟩ := hText
  rw [decodeText, Text.Utf8.decodeExact_encode]
  exact decode_spaced (hReads reordered hReordered) hSpaced

/-- **Every spelling of a user** is read as the user. -/
theorem User.decodeText_of_spelledAs (user : User) {text : String} (hText : user.toJson.SpelledAs text) :
    decodeText Reader.user text = .ok user :=
  Json.decodeText_of_spelledAs (fun _ hOrder => (user.reads hOrder).into rfl) hText

example : decodeText Reader.user
    " \x7b\"is_active\" : true,\n\"username\":\"\\\"é\", \"user_id\":\"\\u0000\"\x7d" =
      .ok ⟨"\x00", "\"é", true⟩ := by
  decide +kernel

/-- **Every spelling of a profile** is read as its user. -/
theorem Profile.decodeText_of_spelledAs (profile : Profile) {text : String}
    (hText : profile.toJson.SpelledAs text) : decodeText Reader.user text = .ok profile.user :=
  Json.decodeText_of_spelledAs (fun _ hOrder => (profile.reads hOrder).into rfl) hText

/-- **Every spelling of a team** is read as the team. -/
theorem Team.decodeText_of_spelledAs (team : Team) {text : String} (hText : team.toJson.SpelledAs text) :
    decodeText Reader.team text = .ok team :=
  Json.decodeText_of_spelledAs (fun _ hOrder => team.reads hOrder) hText

end ReviewAssignment
