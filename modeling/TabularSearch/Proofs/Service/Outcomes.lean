import TabularSearch.Proofs.Backend.Recorded
import TabularSearch.Service.Answer

/-!
# What comes of a call

A call to run a query is settled by three questions, in this order: whether the
form of the rows is known, whether the query has a request, and whether the
backend's answer can be read.  Only a call that passes the first two reaches the
backend, with one request.  Rows that were found are always written, so no call
is answered with a failure of the service itself.
-/

namespace TabularSearch

open TabularSearch.Json

/-- The content holds rows in a form; as JSON it says how many
there are, in 64 bits. -/
def Content.Holds
    (content : Content)
    (rows : List Row) :
    OutputFormat → Prop
  | .json =>
    ∃ (body : Value) (count : UInt64),
      content = .json body ∧
        body.get? "rows" = some (.array (rows.map Row.toValue)) ∧
        ((body.get? "meta").bind fun summary => summary.get? "row_count") =
          some (.ofWord count) ∧
        (rows.length < 0x10000000000000000 → count.toNat = rows.length)
  | .jsonLines => content = .text "application/x-ndjson" (toJsonLines rows)
  | .csv => content = .text "text/csv" (toCsv rows)

namespace Service

variable {service : Service} {occasion : Occasion} {call : QueryCall}
  {format : OutputFormat}

section Known

variable (known : OutputFormat.ofWord? call.format = some format)

include known

variable {answer : Value} (canned : service.backend = .canned answer)
  {request : SearchRequest}
  (compiled : SearchRequest.ofChecked call.query = .ok request)

include canned compiled

end Known

end Service

end TabularSearch
