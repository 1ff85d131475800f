import ReviewAssignment.Proofs.Alone.Readings
import ReviewAssignment.Proofs.Alone.Served
import ReviewAssignment.Proofs.Http.Envelope
import ReviewAssignment.Proofs.Json.RoundTrip

/-!
# A team that was posted is read back

The texts of users, teams and profiles are read as what they were written from, whatever the order of the
fields and the white space between the tokens.  A team goes through such texts twice: it is posted as one,
and whoever asks for it by its name gets another.  Between the two the store keeps it as it was handed in,
so both texts stand for the same team (`records_read_back`).

Of the store nothing is assumed.  A post that is accepted has written the team in full
(`post_yields`), and a lookup shows what the team's row and memberships say (`run_get`).
-/

namespace ReviewAssignment

variable {α : Type} {store : Store}

namespace Program

variable {program : Program α}

theorem run_attempt (outside : Surroundings) (program : Program α) (session : Session) :
    (program.attempt.run outside session).1 = .ok (program.run outside session).1 := by
  induction program generalizing session with
  | done result => rfl
  | fail cause => rfl
  | call asked rest ih => exact ih _ { session with store := (session.store.perform asked).2 }
  | draw others rest ih => exact ih _ { session with draws := session.draws + 1 }
  | clock rest ih => exact ih _ { session with readings := session.readings + 1 }
  | note entry rest ih => exact ih session

end Program

namespace Http

open Program (Surroundings Session)

/-! ### Query strings -/

namespace Form

def escape (value : String) : List Char :=
  (Text.Utf8.encode value).flatMap fun byte =>
    ['%', Text.hexDigit (byte.toNat / 16), Text.hexDigit (byte.toNat % 16)]

def query (name value : String) : String :=
  String.ofList (escape name ++ '=' :: escape value)

theorem unescape_escape (value : String) : unescape (escape value) = Text.Utf8.encode value := by
  rw [escape]
  induction Text.Utf8.encode value with
  | nil => rfl
  | cons byte rest ih =>
    have hByte : byte.toNat < 256 := byte.toNat_lt
    have hParts : (16 * (byte.toNat / 16) + byte.toNat % 16).toUInt8 = byte := by
      rw [Nat.div_add_mod]
      exact UInt8.ofNat_toNat
    rw [List.flatMap_cons, List.cons_append, List.cons_append, List.cons_append, List.nil_append,
      unescape, Text.hexValue?_hexDigit _ (by omega), Text.hexValue?_hexDigit _ (by omega)]
    simp only
    rw [hParts, ih]

theorem decodePart_escape (value : String) : decodePart (escape value) = value := by
  rw [decodePart, unescape_escape, Text.Utf8.decodeLossy_encode]

/-- What is escaped does not look like a mark between fields or inside one. -/
theorem of_mem_escape {value : String} {c : Char} (h : c ∈ escape value) : c ≠ '&' ∧ c ≠ '=' := by
  have hDigit : ∀ n < 16, Text.hexDigit n ≠ '&' ∧ Text.hexDigit n ≠ '=' := by decide
  obtain ⟨byte, -, hMem⟩ := List.mem_flatMap.1 h
  have hByte : byte.toNat < 256 := byte.toNat_lt
  simp only [List.mem_cons, List.not_mem_nil, or_false] at hMem
  rcases hMem with rfl | rfl | rfl
  · decide
  · exact hDigit _ (by omega)
  · exact hDigit _ (by omega)

/-- Every value can be asked for. -/
theorem values_query (name value : String) : values name (decode (query name value)) = [value] := by
  have hName : ∀ c ∈ escape name, (c != '=') = true := fun c hMem => by
    simpa using (of_mem_escape hMem).2
  have hMarks : ∀ c ∈ escape name ++ '=' :: escape value, (c == '&') = false := by
    intro c hMem
    rcases List.mem_append.1 hMem with hLeft | hRight
    · simpa using (of_mem_escape hLeft).1
    · rcases List.mem_cons.1 hRight with rfl | hRight
      · decide
      · simpa using (of_mem_escape hRight).1
  have hFields : (escape name ++ '=' :: escape value).splitOn '&' =
      [escape name ++ '=' :: escape value] := List.splitOnP_eq_singleton hMarks
  have hField : decodeField (escape name ++ '=' :: escape value) = (name, value) := by
    rw [decodeField, List.takeWhile_append_of_pos hName, List.dropWhile_append_of_pos hName]
    simp [decodePart_escape]
  rw [decode, query, String.toList_ofList, hFields]
  simp [hField, values]

end Form

variable {request : Request} {team : Team} {settings : Settings}

theorem statusOf_ne_ok (cause : Failure) : statusOf cause ≠ 200 := by
  cases cause <;> simp [statusOf]

/-! ### Posting a team -/

structure Request.Posts (request : Request) (team : Team) : Prop where
  method : request.method = "POST"
  path : request.path = "/team/add"
  body : Json.decode Json.Reader.team (Text.Utf8.decodeExact request.body) = .ok team

theorem decode_upsertTeamBody (text : List Json.Symbol) :
    Json.decode Json.Reader.upsertTeamBody text =
      (Json.decode Json.Reader.team text).map .upsertTeam := by
  rw [Json.decode, Json.decode, Json.Reader.upsertTeamBody]
  rcases Json.Reader.team (Json.scan text) with _ | ⟨team, _ | _⟩ <;> rfl

/-- A body that is accepted is read as the team that is posted. -/
theorem Request.Posts.readBody (h : request.Posts team) {asked : ReviewAssignment.Request}
    (hBody : readBody Json.Reader.upsertTeamBody request = .ok asked) : asked = .upsertTeam team := by
  rw [Http.readBody] at hBody
  split_ifs at hBody
  simp only [decode_upsertTeamBody, h.body] at hBody
  cases hBody
  rfl

theorem program_upsertTeam_yields (settings : Settings) (team : Team) :
    ((ReviewAssignment.Request.upsertTeam team).program settings).Yields (fun _ left =>
      Operation.teamFault? team = none ∧ store.upsertTeam team = .ok left) store := by
  apply Program.Obeys.reporting
  apply Program.Obeys.bind
  exact (Operation.upsertTeam_yields team).imp fun _ left hLeft => hLeft

/-- **A post that is accepted** leaves a store that shows the team under its name, which is not blank. -/
theorem post_yields (h : request.Posts team) :
    (respond (ReviewAssignment.Request.program settings) request).Yields (fun response left =>
      response.status = 200 →
        Text.isBlank team.name = false ∧ left.teamShown? team.name = some team) store := by
  have hEndpoint : (⟨"/team/add", .body .upsertTeamBody⟩ : Endpoint) ∈ endpoints := by
    simp [endpoints]
  rw [respond_eq _ hEndpoint h.path h.method]
  apply Program.Obeys.bind
  rw [Endpoint.answer]
  simp only
  cases hBody : readBody Json.Reader.upsertTeamBody request with
  | error fault =>
    intro hStatus
    exact absurd hStatus (statusOf_ne_ok (.invalidBody fault.message))
  | ok asked =>
    obtain rfl := h.readBody hBody
    apply Program.Obeys.bind
    rw [Program.obeys_attempt]
    apply (program_upsertTeam_yields settings team).mono
    · intro reply left hLeft _
      obtain ⟨hTeam, hWritten⟩ := hLeft
      refine ⟨(Operation.not_blank_of_teamFault? hTeam).1, ?_⟩
      exact Store.teamShown?_upsertTeam_self hWritten (Operation.nodup_of_teamFault? hTeam)
    · intro cause left _ hStatus
      exact absurd hStatus (statusOf_ne_ok cause)

theorem posts_of_spelledAs {text : String} (hText : team.toJson.SpelledAs text)
    (headers : List Header) :
    (⟨"POST", "/team/add", "", headers, Text.Utf8.encode text⟩ : Request).Posts team :=
  ⟨rfl, rfl, team.decodeText_of_spelledAs hText⟩

/-! ### Asking for a team -/

/-- A request asks for a team by its name, which stands once in the query string. -/
structure Request.AsksFor (request : Request) (name : TeamName) : Prop where
  method : request.method = "GET"
  path : request.path = "/team/get"
  query : Form.values "team_name" (Form.decode request.query) = [name]

/-- **Who asks for a team that is shown** gets its text. -/
theorem run_get {name : TeamName} (h : request.AsksFor name) (outside : Surroundings) {session : Session}
    (hName : Text.isBlank name = false) (hShown : session.store.teamShown? name = some team) :
    ((respond (ReviewAssignment.Request.program settings) request).run outside session).1 =
      .ok (Response.json 200 team.toJson).sent := by
  have hEndpoint : (⟨"/team/get", .field "team_name" .teamByName⟩ : Endpoint) ∈ endpoints := by
    simp [endpoints]
  have hAnswer : (((ReviewAssignment.Request.teamByName name).program settings).run outside session).1 =
      .ok (.team team) :=
    ReviewAssignment.Request.run_teamByName_eq_ok_iff.2 ⟨hName, hShown⟩
  rw [respond_eq _ hEndpoint h.path h.method, Program.run_map, Endpoint.answer]
  simp only [h.query]
  rw [consult, Program.run_bind, Program.run_attempt, hAnswer]
  rfl

theorem asksFor_query (name : TeamName) (headers : List Header) (body : List UInt8) :
    (⟨"GET", "/team/get", Form.query "team_name" name, headers, body⟩ : Request).AsksFor name :=
  ⟨rfl, rfl, Form.values_query "team_name" name⟩

/-! ### Both -/

/-- **What was written is read back.**

* Every spelling of a user is read as the user, and every spelling of a team as the team, however the fields
  of the objects are ordered and whatever white space is between the tokens.
* Every spelling of a profile is read as its user.
* The compact text that is written is a spelling.
* In every store, whoever posts a team that is accepted, and then asks for the team by its name, gets a text
  that is read as this team. -/
theorem records_read_back :
    (∀ (user : User) (text : String), user.toJson.SpelledAs text →
      Json.decodeText Json.Reader.user text = .ok user) ∧
    (∀ (team : Team) (text : String), team.toJson.SpelledAs text →
      Json.decodeText Json.Reader.team text = .ok team) ∧
    (∀ (profile : Profile) (text : String), profile.toJson.SpelledAs text →
      Json.decodeText Json.Reader.user text = .ok profile.user) ∧
    (∀ value : Json, value.SpelledAs value.write) ∧
    ∀ (settings : Settings) (outside : Surroundings) (session : Session) (team : Team)
      (post get : Request) (accepted : Response), post.Posts team → get.AsksFor team.name →
      let posted := (respond (ReviewAssignment.Request.program settings) post).run outside session
      posted.1 = .ok accepted → accepted.status = 200 →
      ∃ shown,
        ((respond (ReviewAssignment.Request.program settings) get).run outside posted.2.session).1 =
          .ok shown ∧
        shown.status = 200 ∧ Json.decodeText Json.Reader.team shown.body = .ok team := by
  refine ⟨fun user text hText => user.decodeText_of_spelledAs hText,
    fun team text hText => team.decodeText_of_spelledAs hText,
    fun profile text hText => profile.decodeText_of_spelledAs hText, Json.spelledAs_write, ?_⟩
  intro settings outside session team post get accepted hPost hGet posted hAnswer hStatus
  obtain ⟨hName, hShown⟩ := (post_yields hPost).run outside session hAnswer hStatus
  refine ⟨_, run_get hGet outside hName hShown, rfl, ?_⟩
  exact team.decodeText_of_spelledAs (Json.spelledAs_write team.toJson)

/-- A team whose names need escapes is posted to the empty store and read back. -/
theorem escaped_team_read_back :
    let team : Team := ⟨"a&\"", [⟨"\x00", "😀", true⟩]⟩
    let post : Request := ⟨"POST", "/team/add", "", [("content-type", "application/json")],
      Text.Utf8.encode team.toJson.write⟩
    let get : Request := ⟨"GET", "/team/get", Form.query "team_name" team.name, [], []⟩
    let outside : Surroundings := ⟨fun _ => 0, fun _ => ⟨0, 0⟩⟩
    let posted :=
      (respond (ReviewAssignment.Request.program default) post).run outside ⟨.empty, 0, 0⟩
    ∃ shown,
      ((respond (ReviewAssignment.Request.program default) get).run outside posted.2.session).1 =
        .ok shown ∧ Json.decodeText Json.Reader.team shown.body = .ok team := by
  intro team post get outside posted
  have hPost : post.Posts team := posts_of_spelledAs (Json.spelledAs_write team.toJson) _
  have hGet : get.AsksFor team.name := asksFor_query team.name [] []
  have hAccepted : posted.1.map Response.status = .ok 200 := by
    decide +kernel
  cases hAnswer : posted.1 with
  | error cause =>
    rw [hAnswer] at hAccepted
    cases hAccepted
  | ok accepted =>
    rw [hAnswer] at hAccepted
    have hStatus : accepted.status = 200 := Except.ok.inj hAccepted
    obtain ⟨-, -, -, -, hBack⟩ := records_read_back
    obtain ⟨shown, hShown, -, hText⟩ :=
      hBack default outside ⟨.empty, 0, 0⟩ team post get accepted hPost hGet hAnswer hStatus
    exact ⟨shown, hShown, hText⟩

end Http

end ReviewAssignment
