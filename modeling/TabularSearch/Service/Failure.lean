import TabularSearch.Backend.Execution
import TabularSearch.Rows.Export
import TabularSearch.Service.Message

/-!
# Failures of the service

Every failure has a message, a code for programs, and a status: 400 where the
request is at fault, 502 where the backend is, and 500 otherwise.
-/

namespace TabularSearch

open TabularSearch.Json

/-- Why the service refuses a request. -/
inductive ServiceFailure where
  /-- The request asks for something that is not there. -/
  | unacceptable (reason : String)
  | query (error : QueryError)
  /-- The rows could not be written out. -/
  | unwritten (failure : ExportFailure)
  /-- What was written could not be handed on. -/
  | exporting (reason : String)
  | internal (reason : String)
  | inputOutput (reason : String)
  deriving DecidableEq

namespace ServiceFailure

/-- The wording of a failure. -/
def message : ServiceFailure → String
  | unacceptable reason => "Validation error: " ++ reason
  | query error => "Query error: " ++ error.message
  | unwritten failure => "Export error: " ++ failure.message
  | exporting reason => "Export error: Failed to flush output: " ++ reason
  | internal reason => "Internal error: " ++ reason
  | inputOutput reason => "IO error: " ++ reason

/-- The code of a failure. -/
def code : ServiceFailure → String
  | unacceptable _ => "VALIDATION_ERROR"
  | query (.invalid _) => "INVALID_QUERY"
  | query (.backend .timeout) => "BACKEND_TIMEOUT"
  | query (.backend .unavailable) => "BACKEND_UNAVAILABLE"
  | query (.backend _) => "BACKEND_ERROR"
  | query (.unreadable _) => "DECODE_ERROR"
  | unwritten _ | exporting _ => "EXPORT_ERROR"
  | internal _ => "INTERNAL_ERROR"
  | inputOutput _ => "IO_ERROR"

/-- The status of the answer to a failure. -/
def status : ServiceFailure → Nat
  | unacceptable _ | query (.invalid _) => 400
  | query _ => 502
  | unwritten _ | exporting _ | internal _ | inputOutput _ => 500

/-- The answer to a failure. -/
def response
    (requestId : String)
    (failure : ServiceFailure) :
    HttpResponse :=
  .plain failure.status <| .json <| .object
    [("error",
        .object
          [("code", .string failure.code),
            ("message", .string failure.message)]),
      ("request_id", .string requestId)]

end ServiceFailure

end TabularSearch
