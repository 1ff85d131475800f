import ReviewAssignment.Http.Routes
import ReviewAssignment.Proofs.Alone.Lock
import ReviewAssignment.Proofs.Rules
import ReviewAssignment.Proofs.Store.Consistent

/-!
# How failures leave

Every failure is promised to leave as a JSON object with a code and a message, under the status of the
code.  A request to a path of the service, with the method of the path, can fail in three places: where
its query string is read, where its body is read, and in the service.

* A failure of the service and a body that is not accepted leave in the envelope, whatever the service
  does behind it: `consult` turns every failure into a response, so that nothing is left to fail
  (`Endpoint.answer_always`).
* A query string is not accepted when it gives the field of the path more than once.  This is answered
  with a plain text, so that the promise is broken there (`repeated_field_not_enveloped`), and nowhere else
  (`failures_enveloped`).

That a program always comes to such a response is said of its text, `Program.Always`, for all answers of
the store at once; the store itself does not come into it.
-/

namespace ReviewAssignment

variable {α β : Type}

/-! ### Programs that always come to a result -/

/-- Any steps of a program, whatever it is told. -/
def Rules.anyhow : Rules Unit where
  call _ _ rest := ∀ given, rest given ()
  draw _ := True
  clock _ rest := ∀ moment, rest moment ()
  note _ rest := rest ()
  call_mono hRest hCall given := hRest given _ (hCall given)
  clock_mono hRest hClock moment := hRest moment _ (hClock moment)
  note_mono hRest hNote := hRest _ hNote

theorem Rules.free_anyhow : Rules.anyhow.Free where
  call _ _ _ hRest given := hRest given ()
  draw _ := trivial
  clock _ _ hRest moment := hRest moment ()
  note _ _ hRest := hRest ()

namespace Program

/-- **A program always comes to a result with a property**: it does not fail, whatever the store answers,
whatever is drawn and whatever the clock shows. -/
def Always (property : α → Prop) (program : Program α) : Prop :=
  program.Obeys .anyhow (fun result _ => property result) (fun _ _ => False) ()

/-- A run comes to a result with the property. -/
theorem Always.run {property : α → Prop} {program : Program α} (h : program.Always property)
    (outside : Surroundings) (session : Session) :
    ∃ result, (program.run outside session).1 = .ok result ∧ property result := by
  induction program generalizing session with
  | done result => exact ⟨result, rfl, h⟩
  | fail cause => exact absurd h id
  | call asked rest ih => exact ih _ (h _) { session with store := (session.store.perform asked).2 }
  | draw others rest ih => exact ih _ (h.2 _) { session with draws := session.draws + 1 }
  | clock rest ih => exact ih _ (h _) { session with readings := session.readings + 1 }
  | note entry rest ih => exact ih h session

end Program

namespace Http

open Program (Surroundings Session)

/-! ### The envelope -/

/-- The envelope of a failure: an object with a code and a message, under the status that all failures
with this code have. -/
structure Response.IsEnvelope (response : Response) (code message : String) : Prop where
  isCode : ∃ cause : Failure, cause.code = code
  status : ∀ cause : Failure, cause.code = code → statusOf cause = response.status
  body : response.body =
    (Json.object [("error", .object [("code", .text code), ("message", .text message)])]).write

def codeStatuses : List (String × Nat) :=
  [("VALIDATION_ERROR", 400), ("NOT_FOUND", 404), ("PR_EXISTS", 409), ("PR_MERGED", 409),
   ("NOT_ASSIGNED", 409), ("NO_CANDIDATE", 409), ("CONFLICT", 409), ("DEADLINE_EXCEEDED", 504),
   ("INTERNAL_ERROR", 500)]

theorem lookup_codeStatuses (cause : Failure) :
    codeStatuses.lookup cause.code = some (statusOf cause) := by
  cases cause <;> rfl

/-- A code has one status, also the code that a broken store and an internal contradiction share. -/
theorem statusOf_eq_of_code_eq {cause other : Failure} (h : cause.code = other.code) :
    statusOf cause = statusOf other := by
  have hCause : codeStatuses.lookup other.code = some (statusOf cause) := h ▸ lookup_codeStatuses cause
  exact Option.some.inj (hCause.symm.trans (lookup_codeStatuses other))

theorem isEnvelope_ofFailure (cause : Failure) :
    (Response.ofFailure cause).IsEnvelope cause.code (publicMessage cause) where
  isCode := ⟨cause, rfl⟩
  status _ hCode := statusOf_eq_of_code_eq hCode
  body := rfl

/-- Further headers neither make an envelope nor spoil one. -/
theorem isEnvelope_adding {response : Response} {headers : List Header} {code message : String} :
    (response.adding headers).IsEnvelope code message ↔ response.IsEnvelope code message :=
  ⟨fun h => ⟨h.isCode, h.status, h.body⟩, fun h => ⟨h.isCode, h.status, h.body⟩⟩

/-- An object is written with a brace at its start. -/
theorem head?_write_object (fields : List (String × Json)) :
    (Json.object fields).write.toList.head? = some '\x7b' := by
  cases fields with
  | nil => simp [Json.write, Json.chars]
  | cons field rest => simp [Json.write, Json.chars]

def repeatedText (name : String) : String :=
  "Failed to deserialize query string: duplicate field `" ++ name ++ "`"

theorem head?_repeatedText (name : String) : (repeatedText name).toList.head? = some 'F' := by
  have hStart : "Failed to deserialize query string: duplicate field `".toList.head? = some 'F' := by
    decide +kernel
  unfold repeatedText
  rw [String.toList_append, String.toList_append, List.head?_append, List.head?_append, hStart]
  exact Option.some_or

theorem not_isEnvelope_of_repeatedText {response : Response} {name : String}
    (h : response.body = repeatedText name) (code message : String) :
    ¬response.IsEnvelope code message := by
  intro hEnvelope
  have hBrace : response.body.toList.head? = some '\x7b' := by
    rw [hEnvelope.body]
    exact head?_write_object _
  rw [h, head?_repeatedText] at hBrace
  exact absurd hBrace (by decide)

/-! ### Paths and methods -/

def Endpoint.method (endpoint : Endpoint) : String :=
  match endpoint.input with
  | .body _ => "POST"
  | _ => "GET"

theorem Endpoint.method_mem_methods (endpoint : Endpoint) : endpoint.method ∈ endpoint.methods := by
  obtain ⟨path, input⟩ := endpoint
  cases input <;> exact List.mem_cons_self

theorem Endpoint.method_ne (endpoint : Endpoint) {other : String} (hPost : "POST" ≠ other)
    (hGet : "GET" ≠ other) : endpoint.method ≠ other := by
  obtain ⟨path, input⟩ := endpoint
  cases input with
  | body reader => exact hPost
  | _ => exact hGet

/-- A path leads to its endpoint: no two endpoints have the same. -/
theorem endpoint?_path {endpoint : Endpoint} (h : endpoint ∈ endpoints) :
    endpoint? endpoint.path = some endpoint := by
  have hPaths : (endpoints.map Endpoint.path).Nodup := by decide
  exact Store.find?_key hPaths h

/-- A response of an endpoint as it leaves, with the length of its content and with the headers that every
response has. -/
def Response.sent (response : Response) : Response :=
  response.measured.adding (openHeaders ++ [("access-control-expose-headers", "*")])

/-- A request to a path, with the method of the path, gets the answer of the endpoint. -/
theorem respond_eq {endpoint : Endpoint} {request : Request}
    (perform : ReviewAssignment.Request → Program Reply) (hEndpoint : endpoint ∈ endpoints)
    (hPath : request.path = endpoint.path) (hMethod : request.method = endpoint.method) :
    respond perform request =
      endpoint.answer perform request >>= fun response => pure response.sent := by
  have hKnown : endpoint.methods.contains request.method = true := by
    rw [List.contains_iff_mem, hMethod]
    exact endpoint.method_mem_methods
  have hNoOptions : request.method ≠ "OPTIONS" := by
    rw [hMethod]
    exact endpoint.method_ne (by decide) (by decide)
  have hNoHead : request.method ≠ "HEAD" := by
    rw [hMethod]
    exact endpoint.method_ne (by decide) (by decide)
  rw [respond, if_neg hNoOptions, dispatch, hPath, endpoint?_path hEndpoint]
  simp only [if_pos hKnown, if_neg hNoHead, bind_assoc, pure_bind]
  rfl

/-- The query string gives the field that the endpoint reads, which has this name, more than once. -/
def Endpoint.Repeats (endpoint : Endpoint) (request : Request) (name : String) : Prop :=
  match endpoint.input with
  | .field field _ => field = name ∧ 2 ≤ (Form.values field (Form.decode request.query)).length
  | _ => False

/-! ### What is answered -/

/-- What an endpoint may answer: the text about a repeated field if there is one, and if there is
none, a success or the envelope of a failure. -/
structure Endpoint.Answers (endpoint : Endpoint) (request : Request) (response : Response) :
    Prop where
  repeated : ∀ name, endpoint.Repeats request name →
    response.status = 400 ∧ response.body = repeatedText name
  enveloped : (∀ name, ¬endpoint.Repeats request name) →
    response.status = 200 ∨ ∃ code message, response.IsEnvelope code message

variable {endpoint : Endpoint} {request : Request} {response : Response}

theorem Endpoint.Answers.adding (h : endpoint.Answers request response) (headers : List Header) :
    endpoint.Answers request (response.adding headers) where
  repeated := h.repeated
  enveloped hOnce := by
    rcases h.enveloped hOnce with hSuccess | ⟨code, message, hEnvelope⟩
    · exact Or.inl hSuccess
    · exact Or.inr ⟨code, message, isEnvelope_adding.2 hEnvelope⟩

/-- Without a repeated field, a success or an envelope is all that is asked for. -/
theorem Endpoint.Answers.of_once (hOnce : ∀ name, ¬endpoint.Repeats request name)
    (h : response.status = 200 ∨ ∃ code message, response.IsEnvelope code message) :
    endpoint.Answers request response :=
  ⟨fun name hRepeats => absurd hRepeats (hOnce name), fun _ => h⟩

/-- Among the answers of an endpoint, the failures that are no envelopes are those about a repeated
field. -/
theorem Endpoint.Answers.isEnvelope_iff (h : endpoint.Answers request response)
    (hFailed : response.status ≠ 200) :
    (∃ code message, response.IsEnvelope code message) ↔
      ∀ name, ¬endpoint.Repeats request name := by
  constructor
  · rintro ⟨code, message, hEnvelope⟩ name hRepeats
    exact not_isEnvelope_of_repeatedText (h.repeated name hRepeats).2 code message hEnvelope
  · intro hOnce
    exact (h.enveloped hOnce).resolve_left hFailed

variable (perform : ReviewAssignment.Request → Program Reply)

/-- Asking the service gives a success or the envelope of its failure. -/
theorem consult_always (asked : ReviewAssignment.Request) :
    (consult perform asked).Always fun response =>
      response.status = 200 ∨ ∃ code message, response.IsEnvelope code message := by
  rw [Program.Always, consult, Program.obeys_bind, Program.obeys_attempt]
  refine Program.obeys_of_free Rules.free_anyhow _ (fun reply _ => Or.inl rfl) (fun cause _ => ?_) _
  exact Or.inr ⟨cause.code, publicMessage cause, isEnvelope_ofFailure cause⟩

/-- **An endpoint answers**: by the service where it is asked, by an envelope where the body is not
accepted, and by the text where a field is repeated. -/
theorem Endpoint.answer_always (endpoint : Endpoint) (request : Request) :
    (endpoint.answer perform request).Always (endpoint.Answers request) := by
  obtain ⟨path, input⟩ := endpoint
  cases input with
  | fixed answer => exact Answers.of_once (fun _ hRepeats => hRepeats) (Or.inl rfl)
  | always asked =>
    exact (consult_always perform asked).imp fun _ _ => Answers.of_once fun _ hRepeats => hRepeats
  | body reader =>
    have hOnce : ∀ name, ¬Endpoint.Repeats ⟨path, .body reader⟩ request name :=
      fun _ hRepeats => hRepeats
    cases hBody : readBody reader request with
    | ok asked =>
      simp only [Endpoint.answer, hBody]
      exact (consult_always perform asked).imp fun _ _ => Answers.of_once hOnce
    | error fault =>
      simp only [Endpoint.answer, hBody]
      have hEnvelope := isEnvelope_ofFailure (.invalidBody fault.message)
      exact Answers.of_once hOnce (Or.inr ⟨_, _, hEnvelope⟩)
  | field name asked =>
    rcases hValues : Form.values name (Form.decode request.query) with _ | ⟨value, _ | ⟨second, rest⟩⟩
    · have hOnce : ∀ other, ¬Endpoint.Repeats ⟨path, .field name asked⟩ request other := by
        rintro other ⟨-, hLength⟩
        rw [hValues] at hLength
        exact absurd hLength (by decide)
      simp only [Endpoint.answer, hValues]
      exact (consult_always perform (asked "")).imp fun _ _ => Answers.of_once hOnce
    · have hOnce : ∀ other, ¬Endpoint.Repeats ⟨path, .field name asked⟩ request other := by
        rintro other ⟨-, hLength⟩
        rw [hValues, List.length_singleton] at hLength
        exact absurd hLength (by decide)
      simp only [Endpoint.answer, hValues]
      exact (consult_always perform (asked value)).imp fun _ _ => Answers.of_once hOnce
    · have hTwice : Endpoint.Repeats ⟨path, .field name asked⟩ request name := by
        refine ⟨rfl, ?_⟩
        rw [hValues, List.length_cons, List.length_cons]
        exact Nat.le_add_left 2 rest.length
      simp only [Endpoint.answer, hValues]
      constructor
      · rintro other ⟨rfl, -⟩
        exact ⟨rfl, rfl⟩
      · intro hOnce
        exact absurd hTwice (hOnce name)

variable {perform}

/-- A request to a path, with the method of the path, is answered as the endpoint may answer. -/
theorem respond_always (hEndpoint : endpoint ∈ endpoints) (hPath : request.path = endpoint.path)
    (hMethod : request.method = endpoint.method) :
    (respond perform request).Always (endpoint.Answers request) := by
  rw [respond_eq perform hEndpoint hPath hMethod]
  exact .map _ ((endpoint.answer_always perform request).imp fun response _ hResponse =>
    (hResponse.adding _).adding _)

/-- **Failures leave in the envelope, but for repeated fields.**  A request to a path of the service, with
the method of the path and with any query string, headers and body, is answered whatever the service does
behind it and wherever it stands.  A response that is no success is the envelope of a failure exactly if
the query string does not repeat the field that the path reads; if it does, the response is a plain text
with the status of a malformed request. -/
theorem failures_enveloped (hEndpoint : endpoint ∈ endpoints) (hPath : request.path = endpoint.path)
    (hMethod : request.method = endpoint.method)
    (perform : ReviewAssignment.Request → Program Reply) (outside : Surroundings) (session : Session) :
    ∃ response, ((respond perform request).run outside session).1 = .ok response ∧
      (response.status ≠ 200 → ((∃ code message, response.IsEnvelope code message) ↔
        ∀ name, ¬endpoint.Repeats request name)) ∧
      ∀ name, endpoint.Repeats request name →
        response.status = 400 ∧ response.body = repeatedText name := by
  have hAlways : (respond perform request).Always (endpoint.Answers request) :=
    respond_always hEndpoint hPath hMethod
  obtain ⟨response, hRun, hAnswers⟩ := hAlways.run outside session
  exact ⟨response, hRun, hAnswers.isEnvelope_iff, hAnswers.repeated⟩

/-- A body that nothing announces as JSON is refused, and the refusal leaves in the envelope. -/
theorem unannounced_body_enveloped :
    let request : Request := ⟨"POST", "/pullRequest/create", "", [], []⟩
    let endpoint : Endpoint := ⟨"/pullRequest/create", .body .createBody⟩
    endpoint ∈ endpoints ∧ request.path = endpoint.path ∧ request.method = endpoint.method ∧
      ∃ response,
        ((respond (ReviewAssignment.Request.program default) request).run
          ⟨fun _ => 0, fun _ => ⟨0, 0⟩⟩ ⟨.empty, 0, 0⟩).1 = .ok response ∧
        response.status = 400 ∧ ∃ code message, response.IsEnvelope code message := by
  intro request endpoint
  have hEndpoint : endpoint ∈ endpoints := by simp [endpoint, endpoints]
  have hPath : request.path = endpoint.path := rfl
  have hMethod : request.method = endpoint.method := rfl
  obtain ⟨response, hRun, hEnvelope, -⟩ := failures_enveloped hEndpoint hPath hMethod
    (ReviewAssignment.Request.program default) ⟨fun _ => 0, fun _ => ⟨0, 0⟩⟩ ⟨.empty, 0, 0⟩
  have hStatus : response.status = 400 := by
    have hBare : (((respond (ReviewAssignment.Request.program default) request).run
        ⟨fun _ => 0, fun _ => ⟨0, 0⟩⟩ ⟨.empty, 0, 0⟩).1.map Response.status) = .ok 400 := by
      decide +kernel
    rw [hRun] at hBare
    exact Except.ok.inj hBare
  have hOnce : ∀ name, ¬endpoint.Repeats request name := fun _ hRepeats => hRepeats
  refine ⟨hEndpoint, hPath, hMethod, response, hRun, hStatus, (hEnvelope ?_).2 hOnce⟩
  rw [hStatus]
  decide

/-- **A failure that leaves without the envelope**: the name of a team is given twice. -/
theorem repeated_field_not_enveloped :
    let request : Request := ⟨"GET", "/team/get", "team_name=a&team_name=b", [], []⟩
    let endpoint : Endpoint := ⟨"/team/get", .field "team_name" .teamByName⟩
    endpoint ∈ endpoints ∧ request.path = endpoint.path ∧ request.method = endpoint.method ∧
      ∃ response,
        ((respond (ReviewAssignment.Request.program default) request).run
          ⟨fun _ => 0, fun _ => ⟨0, 0⟩⟩ ⟨.empty, 0, 0⟩).1 = .ok response ∧
        response.status = 400 ∧ ¬∃ code message, response.IsEnvelope code message := by
  intro request endpoint
  have hEndpoint : endpoint ∈ endpoints := by simp [endpoint, endpoints]
  have hPath : request.path = endpoint.path := rfl
  have hMethod : request.method = endpoint.method := rfl
  have hRepeats : endpoint.Repeats request "team_name" := by
    refine ⟨rfl, ?_⟩
    decide +kernel
  obtain ⟨response, hRun, hAnswers⟩ := (respond_always hEndpoint hPath hMethod).run _ _
  obtain ⟨hStatus, hBody⟩ := hAnswers.repeated _ hRepeats
  refine ⟨hEndpoint, hPath, hMethod, response, hRun, hStatus, ?_⟩
  rintro ⟨code, message, hEnvelope⟩
  exact not_isEnvelope_of_repeatedText hBody code message hEnvelope

end Http

end ReviewAssignment
