import TabularSearch.Json.Decode

/-!
# Search responses

The envelope of an answer: how long it took, the cursor, the documents found,
and the aggregations as they come, since their shape follows the request.
Buckets and statistics are read from the members of an object; what is missing
or has another shape reads as nothing.
-/

namespace TabularSearch

open TabularSearch.Json

/-- A document found. -/
structure Hit where
  id : String
  source : Members

/-- An answer of the backend. -/
structure SearchResponse where
  /-- Milliseconds that the backend took. -/
  took : UInt64
  timedOut : Bool
  scrollId : Option String
  /-- The number of matching documents. -/
  total : UInt64
  hits : List Hit
  aggregations : Members

/-! ## Reading -/

/-- The parts of a tracked total read so far. -/
structure TotalParts where
  value : Option UInt64
  relation : Option (Option String)

/-- One member of a total. -/
def TotalParts.step
    (parts : TotalParts)
    (name : String)
    (document : Document) :
    Except Fault TotalParts :=
  match name with
  | "value" =>
    (fill parts.value readWord document).map fun value => { parts with value }
  | "relation" =>
    (fill parts.relation (readOption readString) document).map
      fun relation => { parts with relation }
  | _ => .ok parts

/-- The total, a bare number or an object with a value. -/
def readTotal (document : Document) : Except Fault UInt64 :=
  if document.toValue?.isNone then .error .text
  else
    match document with
    | .number _ => readWord document
    | .object members _ => do
      let parts ← readMembers TotalParts.step
        { value := none, relation := none } members
      required parts.value
    | _ => .error .shape

/-- The parts of a document found, read so far. -/
structure HitParts where
  id : Option String
  source : Option Members

/-- One member of a hit. -/
def HitParts.step
    (parts : HitParts)
    (name : String)
    (document : Document) :
    Except Fault HitParts :=
  match name with
  | "_id" => (fill parts.id readString document).map fun id => { parts with id }
  | "_source" =>
    (fill parts.source readObject document).map fun source =>
      { parts with source }
  | _ => (skip document).map fun _ => parts

/-- A hit with its fields, which may be left out. -/
def readHit (document : Document) : Except Fault Hit := do
  let parts ←
    readRecord .direct ["_id", "_source"] HitParts.step
      { id := none, source := none } document
  return { id := ← required parts.id, source := parts.source.getD [] }

/-- The parts of the documents section read so far. -/
structure HitsParts where
  total : Option UInt64
  hits : Option (List Hit)

/-- One member of the part about the documents. -/
def HitsParts.step
    (parts : HitsParts)
    (name : String)
    (document : Document) :
    Except Fault HitsParts :=
  match name with
  | "total" =>
    (fill parts.total readTotal document).map fun total => { parts with total }
  | "hits" =>
    (fill parts.hits (readList readHit) document).map fun hits =>
      { parts with hits }
  | _ => (skip document).map fun _ => parts

/-- The part about the documents. -/
def readHits (document : Document) : Except Fault HitsParts :=
  readRecord .direct ["total", "hits"] HitsParts.step
    { total := none, hits := none } document

/-- The parts of an answer read so far. -/
structure ResponseParts where
  took : Option UInt64
  timedOut : Option Bool
  scrollId : Option (Option String)
  hits : Option HitsParts
  aggregations : Option Members

/-- One member of an answer. -/
def ResponseParts.step
    (parts : ResponseParts)
    (name : String)
    (document : Document) :
    Except Fault ResponseParts :=
  match name with
  | "took" =>
    (fill parts.took readWord document).map fun took => { parts with took }
  | "timed_out" =>
    (fill parts.timedOut readBool document).map fun timedOut =>
      { parts with timedOut }
  | "_scroll_id" =>
    (fill parts.scrollId (readOption readString) document).map
      fun scrollId => { parts with scrollId }
  | "hits" =>
    (fill parts.hits readHits document).map fun hits => { parts with hits }
  | "aggregations" =>
    (fill parts.aggregations readObject document).map
      fun aggregations => { parts with aggregations }
  | _ => (skip document).map fun _ => parts

/-- The answer that a document writes; every part may be missing. -/
def SearchResponse.read (document : Document) :
    Except Fault SearchResponse := do
  let parts ←
    readRecord .direct
      ["took", "timed_out", "_scroll_id", "hits", "aggregations"]
      ResponseParts.step
      { took := none, timedOut := none, scrollId := none, hits := none,
        aggregations := none }
      document
  let hits := parts.hits.getD { total := none, hits := none }
  return {
    took := parts.took.getD 0
    timedOut := parts.timedOut.getD false
    scrollId := parts.scrollId.join
    total := hits.total.getD 0
    hits := hits.hits.getD []
    aggregations := parts.aggregations.getD [] }

/-! ## Looking into aggregations -/

/-- The buckets of the aggregation with a name, each by its members. -/
def bucketsOf
    (scope : Members)
    (name : String) :
    List Members :=
  match ((itemAt? name scope).bind fun found => found.get? "buckets").bind
    Value.asArray? with
  | some elements => elements.filterMap Value.asObject?
  | none => []

/-- One value of the statistics with a name; null counts as missing. -/
def statisticOf?
    (scope : Members)
    (name key : String) :
    Option Value :=
  ((itemAt? name scope).bind fun found => found.get? key).filter fun value =>
    !value.isNull

/-- The key of a bucket. -/
def bucketKey (bucket : Members) : Value :=
  (itemAt? "key" bucket).getD .null

/-- The key of a bucket in the requested format, where the backend gives one. -/
def bucketKeyText? (bucket : Members) : Option String :=
  (itemAt? "key_as_string" bucket).bind Value.asString?

/-- The number of documents in a bucket. -/
def bucketCount (bucket : Members) : UInt64 :=
  ((itemAt? "doc_count" bucket).bind Value.asWord?).getD 0

end TabularSearch
