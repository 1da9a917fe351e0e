/-
Records as JSON.  Reading ignores members that are not fields of a record
and takes null for a field that is absent; writing gives every field of a
record, and leaves out the absent ones of a user, a label or a pull
request.
-/
import Docket.Record
import Docket.Json.Reader
import Docket.Json.Writer
import Docket.Json.Fields

namespace Docket

open Json in
/-- Read a user. -/
def User.decode? (v : Json) : Option User := do
  let [login, htmlUrl, avatarUrl] ← fields? ["login", "html_url", "avatar_url"] v | none
  some {
    login := ← required asText? login
    htmlUrl := ← optional asText? htmlUrl
    avatarUrl := ← optional asText? avatarUrl }

open Json in
/-- Write a user. -/
def User.encode (u : User) : Json :=
  record ([("login", text u.login)] ++ given "html_url" (u.htmlUrl.map text)
    ++ given "avatar_url" (u.avatarUrl.map text))

open Json in
/-- Read a label. -/
def Label.decode? (v : Json) : Option Label := do
  let [name, color] ← fields? ["name", "color"] v | none
  some { name := ← required asText? name, color := ← optional asText? color }

open Json in
/-- Write a label. -/
def Label.encode (l : Label) : Json :=
  record ([("name", text l.name)] ++ given "color" (l.color.map text))

open Json in
/-- Read a pull request. -/
def Pull.decode? (v : Json) : Option Pull := do
  let [url, htmlUrl, number, mergedAt] ← fields? ["url", "html_url", "number", "merged_at"] v
    | none
  some {
    url := ← optional asText? url
    htmlUrl := ← optional asText? htmlUrl
    number := ← optional asWord? number
    mergedAt := ← optional asText? mergedAt }

open Json in
/-- Write a pull request. -/
def Pull.encode (p : Pull) : Json :=
  record (given "url" (p.url.map text) ++ given "html_url" (p.htmlUrl.map text)
    ++ given "number" (p.number.map fun n => natural n.toNat)
    ++ given "merged_at" (p.mergedAt.map text))

namespace Record

/-- The names of a record's fields. -/
def fieldNames : List String :=
  ["number", "title", "body", "state", "html_url", "user", "assignees", "labels", "closed_at",
    "pull_request"]

open Json in
/-- Read a record. -/
def decode? (v : Json) : Option Record := do
  let [number, title, body, state, htmlUrl, user, assignees, labels, closedAt, pull] ←
    fields? fieldNames v | none
  some {
    number := ← required asWord? number
    title := ← optional asText? title
    body := ← optional asText? body
    state := ← optional asText? state
    htmlUrl := ← optional asText? htmlUrl
    user := ← optional User.decode? user
    assignees := ← listed User.decode? assignees
    labels := ← listed Label.decode? labels
    closedAt := ← optional asText? closedAt
    pull := ← optional Pull.decode? pull }

open Json in
/-- Write a record. -/
def encode (r : Record) : Json :=
  record [
    ("number", natural r.number.toNat),
    ("title", orNull (r.title.map text)),
    ("body", orNull (r.body.map text)),
    ("state", orNull (r.state.map text)),
    ("html_url", orNull (r.htmlUrl.map text)),
    ("user", orNull (r.user.map User.encode)),
    ("assignees", array (r.assignees.map User.encode)),
    ("labels", array (r.labels.map Label.encode)),
    ("closed_at", orNull (r.closedAt.map text)),
    ("pull_request", orNull (r.pull.map Pull.encode))]

end Record

/-- Read a listing: an array of records. -/
def recordsOf? (v : Json) : Option (List Record) := do (← v.asArray?).mapM Record.decode?

/-- Read a listing of pull requests. -/
def pullsOf? (v : Json) : Option (List Pull) := do (← v.asArray?).mapM Pull.decode?

/-- Read the text of a listing. -/
def readRecords? (text : String) : Option (List Record) := do recordsOf? (← Json.ofString? text)

/-- Read the text of a listing of pull requests. -/
def readPulls? (text : String) : Option (List Pull) := do pullsOf? (← Json.ofString? text)

/-- A listing as JSON. -/
def encodeRecords (records : List Record) : Json := .array (records.map Record.encode)

end Docket
