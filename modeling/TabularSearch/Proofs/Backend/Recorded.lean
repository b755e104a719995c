import TabularSearch.Backend.Recorder

/-!
# What a recorder has received

One turn adds the body of the query's request to what the recorder has
received, or nothing if the query has no request, and comes to what the
backend with the recorder's answer comes to.  The answer itself stays, so that
a turn at any place of a run is the turn of its query alone:
`Recorder.getElem?_run` says so, and `recorded_turn` what follows of the
requests received so far and of the result.
-/

namespace TabularSearch

open TabularSearch.Json

/-- The body that is sent for a query, if it has a request. -/
def Query.sentBody? (query : Query) : Option Value :=
  (SearchRequest.ofChecked query).toOption.map SearchRequest.body

namespace Recorder

/-! ## One turn -/

section Turn

variable (recorder : Recorder) (query : Query) (options : QueryOptions)

/-- A turn sends and comes to what the backend with the same answer does. -/
theorem execute_eq_canned :
    let execution := (Backend.canned recorder.answer).execute query
    (recorder.execute query options).result = execution.result ∧
      (recorder.execute query options).recorder =
        { recorder with
            received :=
              recorder.received ++ execution.sent.map SearchRequest.body } := by
  simp only [execute, Backend.execute, search, Backend.canned]
  cases SearchRequest.ofChecked query with
  | error cause => simp
  | ok request =>
      cases Backend.readAnswer recorder.answer with
      | error error => simp
      | ok response => simp

theorem execute_answer :
    (recorder.execute query options).recorder.answer = recorder.answer := by
  rw [(recorder.execute_eq_canned query options).2]

theorem execute_received :
    (recorder.execute query options).recorder.received =
      recorder.received ++ query.sentBody?.toList := by
  rw [(recorder.execute_eq_canned query options).2, Query.sentBody?,
    Backend.execute]
  cases SearchRequest.ofChecked query <;> rfl

end Turn

/-! ## Runs -/

/-- The recorder after queries run one after the other. -/
def after
    (recorder : Recorder)
    (calls : List (Query × QueryOptions)) :
    Recorder :=
  calls.foldl (fun recorder call => (recorder.execute call.1 call.2).recorder)
    recorder

theorem after_answer
    (recorder : Recorder)
    (calls : List (Query × QueryOptions)) :
    (recorder.after calls).answer = recorder.answer := by
  induction calls generalizing recorder with
  | nil => rfl
  | cons call rest step =>
      exact (step _).trans (recorder.execute_answer call.1 call.2)

theorem after_received
    (recorder : Recorder)
    (calls : List (Query × QueryOptions)) :
    (recorder.after calls).received =
      recorder.received ++ calls.filterMap fun call => call.1.sentBody? := by
  induction calls generalizing recorder with
  | nil => exact (List.append_nil _).symm
  | cons call rest step =>
      have onward : recorder.after (call :: rest) =
          (recorder.execute call.1 call.2).recorder.after rest := rfl
      rw [onward, step, execute_received, List.filterMap_cons,
        List.append_assoc]
      cases call.1.sentBody? <;> rfl

/-- A turn of a run is the turn of its query on what the
queries before it have left. -/
theorem getElem?_run
    (recorder : Recorder)
    (calls : List (Query × QueryOptions))
    (place : Nat) :
    (recorder.run calls)[place]? =
      calls[place]?.map fun call =>
        (recorder.after (calls.take place)).execute call.1 call.2 := by
  induction calls generalizing recorder place with
  | nil => rfl
  | cons call rest step =>
      rw [run]
      cases place with
      | zero => rfl
      | succ place => exact step _ place

end Recorder

/-! ## Results -/

section Results

variable {answer : Value} {query : Query} {request : SearchRequest}

theorem Backend.canned_execute_of_unreadable
    {fault : Fault}
    (compiled : SearchRequest.ofChecked query = .ok request)
    (unread : SearchResponse.read (.ofValue answer) = .error fault) :
    ((canned answer).execute query).result =
      .error (.unreadable "not a search response") := by
  rw [execute, compiled]
  simp only [canned, readAnswer, unread, QueryError.ofBackend]

theorem Backend.canned_execute_of_read
    {response : SearchResponse}
    (compiled : SearchRequest.ofChecked query = .ok request)
    (read : SearchResponse.read (.ofValue answer) = .ok response) :
    ((canned answer).execute query).result =
      .ok (.ofResponse query request response) := by
  rw [execute, compiled]
  simp only [canned, readAnswer, read]

end Results

/-- What a turn of a query comes to, by what can be said of the
query and the answer. -/
structure Query.Settles
    (query : Query)
    (answer : Value)
    (result : Except QueryError ResultSet) :
    Prop where
  refused :
    (∃ cause, result = .error (.invalid cause)) ↔
      ∃ cause, SearchRequest.ofChecked query = .error cause
  unreadable :
    (∃ reason, result = .error (.unreadable reason)) ↔
      (∃ request, SearchRequest.ofChecked query = .ok request) ∧
        ∃ fault, SearchResponse.read (.ofValue answer) = .error fault
  finished :
    ∀ found,
      result = .ok found ↔
        ∃ request response,
          SearchRequest.ofChecked query = .ok request ∧
            SearchResponse.read (.ofValue answer) = .ok response ∧
              found =
                { rows := finishRows query request.finish
                    (flattenResponse query response)
                  totalHits := response.total
                  scrollId := response.scrollId
                  took := response.took }
  /-- No other error comes up. -/
  settled :
    ∀ error,
      result = .error error →
        (∃ cause, error = .invalid cause) ∨ ∃ reason, error = .unreadable reason

theorem Backend.canned_settles (query : Query) (answer : Value) :
    query.Settles answer ((canned answer).execute query).result := by
  cases compiled : SearchRequest.ofChecked query with
  | error cause =>
      rw [execute_eq_of_refused compiled]
      constructor <;> simp [compiled]
  | ok request =>
      cases read : SearchResponse.read (.ofValue answer) with
      | error fault =>
          rw [canned_execute_of_unreadable compiled read]
          constructor <;> simp [compiled, read]
      | ok response =>
          rw [canned_execute_of_read compiled read]
          constructor <;> simp [compiled, read, ResultSet.ofResponse, eq_comm]

/-- The turn of a query at a place of a run, by the queries up to there. -/
theorem Recorder.exists_turn
    {answer : Value}
    {calls : List (Query × QueryOptions)}
    {place : Nat}
    {query : Query}
    {options : QueryOptions}
    (called : calls[place]? = some (query, options)) :
    ∃ turn,
      ((new answer).run calls)[place]? = some turn ∧
        turn.recorder.received =
          ((calls.take (place + 1)).filterMap fun call => call.1.sentBody?) ∧
        turn.result = ((Backend.canned answer).execute query).result := by
  refine ⟨((new answer).after (calls.take place)).execute query options, ?_, ?_,
    ?_⟩
  · rw [getElem?_run, called]
    rfl
  · rw [execute_received, after_received, List.take_add_one, called,
      List.filterMap_append]
    cases sent : query.sentBody? <;> simp [new, sent]
  · rw [(execute_eq_canned _ query options).1, after_answer]
    rfl

/--
After every turn of a run the recorder has received the bodies of the queries
so far that have a request, in order and one for each.  The result follows
from the query and the answer, and the same query comes to it with any wishes
at any place of any run.
-/
theorem recorded_turn
    (answer : Value)
    (calls : List (Query × QueryOptions))
    (place : Nat)
    (query : Query)
    (options : QueryOptions)
    (called : calls[place]? = some (query, options)) :
    ∃ turn,
      ((Recorder.new answer).run calls)[place]? = some turn ∧
        turn.recorder.received =
          ((calls.take (place + 1)).filterMap fun call =>
            (SearchRequest.ofChecked call.1).toOption.map SearchRequest.body) ∧
        query.Settles answer turn.result ∧
        ∀ (others : List (Query × QueryOptions)) (elsewhere : Nat)
            (wishes : QueryOptions),
          others[elsewhere]? = some (query, wishes) →
            ∃ again : Turn,
              ((Recorder.new answer).run others)[elsewhere]? = some again ∧
                again.result = turn.result := by
  rcases Recorder.exists_turn called with ⟨turn, taken, received, result⟩
  refine ⟨turn, taken, received, ?_, ?_⟩
  · rw [result]
    exact Backend.canned_settles query answer
  · intro others elsewhere wishes calledToo
    rcases Recorder.exists_turn calledToo with ⟨again, takenToo, -, same⟩
    exact ⟨again, takenToo, same.trans result.symm⟩

/-- A call for a table without a database, then one for a
table in a database. -/
def tableCalls : List (Query × QueryOptions) :=
  [(.ofTable " " "t", .default),
    (.ofTable "db" "t", { QueryOptions.default with ignoreFilters := true })]

/-- Only the second call reaches the recorder, although its
answer cannot be read. -/
theorem recorded_turn_tableCalls :
    ∃ (options : QueryOptions) (request : SearchRequest) (turn : Turn),
      tableCalls[1]? = some (.ofTable "db" "t", options) ∧
        SearchRequest.ofChecked (.ofTable "db" "t") = .ok request ∧
          ((Recorder.new .null).run tableCalls)[1]? = some turn ∧
            turn.recorder.received = [request.body] ∧
              ∃ reason, turn.result = .error (.unreadable reason) := by
  obtain ⟨request, compiled⟩ :
      ∃ request, SearchRequest.ofChecked (.ofTable "db" "t") = .ok request :=
    ⟨_, rfl⟩
  obtain ⟨cause, refused⟩ :
      ∃ cause, SearchRequest.ofChecked (.ofTable " " "t") = .error cause :=
    ⟨_, rfl⟩
  obtain ⟨fault, unread⟩ :
      ∃ fault, SearchResponse.read (.ofValue .null) = .error fault :=
    ⟨_, rfl⟩
  rcases recorded_turn .null tableCalls 1 (.ofTable "db" "t") _ rfl with
    ⟨turn, taken, received, settles, -⟩
  refine ⟨_, request, turn, rfl, compiled, taken, ?_, ?_⟩
  · rw [received, tableCalls]
    simp only [List.take_succ_cons, List.take_zero, List.filterMap_cons,
      List.filterMap_nil, refused, compiled, Except.toOption, Option.map]
  · exact settles.unreadable.2 ⟨⟨request, compiled⟩, fault, unread⟩

end TabularSearch
