import Backoffice.App.Error
import Backoffice.Proofs.JsonRoundTrip

/-! # What an error answer shows

The answer to a failed request is a status and a JSON body holding an error code and, for
invalid input and refused authorization only, a message. No answer shows the algorithm a refused
token names, which the caller chose, nor the detail of a database or an internal fault.

* **`Http.Response.bodyField?`** — a member of the JSON body of an answer, as a client reads it.
* **`AppError.HiddenTextOnly`** — two faults that differ at most in a text their answer hides.
* **`AppError.parseValue_body`** — an error body reads back as the object of its code and
  message.
* **`errorAnswers_hide_caller_text`** — faults that differ only in a hidden text get the same
  answer; refused authorization is 401 with its own code, database and internal faults are 500
  with a body of the code alone, and the body has a message exactly for invalid input (its text)
  and refused authorization (the message shown for it). -/

namespace Backoffice

/-- **The member `k` of the JSON body of an answer**, as a client reads it; nothing for a body
that is not JSON. -/
def Http.Response.bodyField? (r : Http.Response) (k : String) : Option JsonValue :=
  (Json.parseValue r.body).toOption.bind (JsonValue.field? k)

namespace AppError

/-- **Two faults that differ at most in a text their answer hides**: the algorithm named by a
token refused for it, or the detail of a database or an internal fault. -/
inductive HiddenTextOnly : AppError → AppError → Prop
  | refl (e : AppError) : HiddenTextOnly e e
  | database (m m' : String) : HiddenTextOnly (.database m) (.database m')
  | internal (m m' : String) : HiddenTextOnly (.internal m) (.internal m')
  | unsupportedAlgorithm (alg alg' : String) :
      HiddenTextOnly (.unauthorized (.token (.unsupportedAlgorithm alg)))
        (.unauthorized (.token (.unsupportedAlgorithm alg')))

/-- The answer does not depend on a hidden text. -/
theorem response_eq_of_hiddenTextOnly {e e' : AppError} (h : e.HiddenTextOnly e') :
    e.response = e'.response := by
  cases h <;> rfl

/-- **An error body reads back as itself**: its members are strings, and `code` sorts before
`message`. -/
theorem parseValue_body (status : Nat) (code : ErrorCode) (m : Option String) :
    Json.parseValue (Http.Response.json status (body code m)).body = .ok (body code m) := by
  cases m with
  | none =>
    exact Json.parseValue_render_object (by simp [JsonValue.Scalar]) (List.pairwise_singleton _ _)
  | some m =>
    exact Json.parseValue_render_object (by simp [JsonValue.Scalar])
      (List.pairwise_pair.mpr (show ("code" : String) < "message" by decide))

theorem bodyField?_json (status : Nat) (code : ErrorCode) (m : Option String) (k : String) :
    (Http.Response.json status (body code m)).bodyField? k = (body code m).field? k := by
  rw [Http.Response.bodyField?, parseValue_body]
  rfl

/-- A body has a message exactly for invalid input and refused authorization. -/
theorem bodyField?_message (e : AppError) :
    (∃ v, e.response.bodyField? "message" = some v) ↔
      (∃ m, e = .invalidInput m) ∨ ∃ a, e = .unauthorized a := by
  cases e <;> simp only [response, bodyField?_json] <;>
    simp [body, JsonValue.field?, JsonValue.lookup]

theorem bodyField?_invalidInput (m : String) :
    (invalidInput m).response.bodyField? "message" = some (.string m) := by
  rw [response, bodyField?_json]
  simp [body, JsonValue.field?, JsonValue.lookup]

theorem bodyField?_unauthorized (a : AuthError) :
    (unauthorized a).response.bodyField? "code" = some (.string (ErrorCode.ofAuth a).text) ∧
    (unauthorized a).response.bodyField? "message" = some (.string (authMessage a)) := by
  rw [response, bodyField?_json, bodyField?_json]
  simp [body, JsonValue.field?, JsonValue.lookup]

end AppError

/-- **Error answers do not echo caller-controlled or internal text.** Two faults that differ only
in the algorithm a refused token names, or in the detail of a database or an internal fault, get
the same answer, status and body alike. Refused authorization answers 401 with the code of its
reason; a database fault and an internal fault answer 500 with a body that holds the code alone;
and the body has a message exactly for invalid input, where it is the input's reason, and for
refused authorization, where it is the message shown for the reason. -/
theorem errorAnswers_hide_caller_text :
    (∀ e e' : AppError, e.HiddenTextOnly e' → e.response = e'.response) ∧
    (∀ a : AuthError, (AppError.unauthorized a).response.status = 401 ∧
      (AppError.unauthorized a).response.bodyField? "code" =
        some (.string (ErrorCode.ofAuth a).text)) ∧
    (∀ m, (AppError.database m).response.status = 500 ∧
      Json.parseValue (AppError.database m).response.body =
        .ok (.object [("code", .string "DATABASE_ERROR")])) ∧
    (∀ m, (AppError.internal m).response.status = 500 ∧
      Json.parseValue (AppError.internal m).response.body =
        .ok (.object [("code", .string "INTERNAL_ERROR")])) ∧
    (∀ e : AppError, (∃ v, e.response.bodyField? "message" = some v) ↔
      (∃ m, e = .invalidInput m) ∨ ∃ a, e = .unauthorized a) ∧
    (∀ m, (AppError.invalidInput m).response.bodyField? "message" = some (.string m)) ∧
    (∀ a, (AppError.unauthorized a).response.bodyField? "message" =
      some (.string (AppError.authMessage a))) :=
  ⟨fun _ _ => AppError.response_eq_of_hiddenTextOnly,
    fun a => ⟨rfl, (AppError.bodyField?_unauthorized a).1⟩,
    fun _ => ⟨rfl, AppError.parseValue_body 500 .databaseError none⟩,
    fun _ => ⟨rfl, AppError.parseValue_body 500 .internalError none⟩,
    AppError.bodyField?_message, AppError.bodyField?_invalidInput,
    fun a => (AppError.bodyField?_unauthorized a).2⟩

/-- A token naming `<script>` as its algorithm and one naming `none` are refused with the same
answer. -/
theorem errorAnswers_hide_caller_text_script_alg :
    AppError.HiddenTextOnly (.unauthorized (.token (.unsupportedAlgorithm "<script>")))
      (.unauthorized (.token (.unsupportedAlgorithm "none"))) ∧
    (AppError.unauthorized (.token (.unsupportedAlgorithm "<script>"))).response =
      (AppError.unauthorized (.token (.unsupportedAlgorithm "none"))).response :=
  ⟨.unsupportedAlgorithm _ _, errorAnswers_hide_caller_text.1 _ _ (.unsupportedAlgorithm _ _)⟩

end Backoffice
