import SyntaxAdvisor.Failure
import SyntaxAdvisor.Text.Search

/-!
# A scripted network

Requests to a service are posted to a network that answers from a script. Every request is
recorded. The script's answers are used front to back, and the last one is used again for
every later request; with no answers at all, a request cannot connect.

An answer is a body that is read as JSON, or one of the errors a request can meet: an HTTP
error status, a failed connection, a timeout, or a body that is not JSON. All of these are
request errors, and their text is the text they were given. A body given only as the text of a
reply is wrapped in the JSON shape of the service the request's address names.
-/

namespace SyntaxAdvisor

/-- A request posted to a service. -/
structure Request where
  /-- Where it is sent. -/
  url : String
  /-- Its headers. -/
  headers : Value
  /-- Its JSON body. -/
  body : Value
  /-- How many seconds it may take. -/
  timeout : Nat

/-- The recorded form of a request. -/
def Request.toValue (r : Request) : Value :=
  .dict [(.str "url", .str r.url), (.str "headers", r.headers), (.str "json", r.body),
         (.str "timeout", .int r.timeout)]

/-- What the network answers to a request. -/
inductive Answer where
  /-- A successful reply whose body carries this text, in the service's shape. -/
  | text (reply : Value)
  /-- A successful reply whose body is this JSON. -/
  | json (body : Value)
  /-- A reply with an error status. -/
  | httpError (message : Value)
  /-- No connection could be made. -/
  | connectionError (message : Value)
  /-- The reply did not come in time. -/
  | timeout (message : Value)
  /-- A successful reply whose body is not JSON. -/
  | undecodable

/-- The text of a body that is not JSON, as the JSON reader reports it. -/
def undecodableMessage : String := "Expecting value: line 1 column 1 (char 0)"

/-- The JSON body a service at `url` sends to carry a reply text. -/
def replyBody (url : String) (reply : Value) : Value :=
  let obj (k : String) (v : Value) : Value := .dict [(.str k, v)]
  if Text.contains url "openai" then
    obj "choices" (.list [obj "message" (obj "content" reply)])
  else if Text.contains url "anthropic" then
    obj "content" (.list [obj "text" reply])
  else
    obj "candidates" (.list [obj "content" (obj "parts" (.list [obj "text" reply]))])

/-- A network answering from a script. -/
structure Network where
  /-- The answers not yet used up. -/
  script : List Answer
  /-- The requests posted so far, oldest first. -/
  sent : List Request := []

/-- A failed request: its text. -/
def requestError (message : String) : Failure := .raised "RequestException" message

/-- Posts a request: the network after it, and the JSON body of the reply or the request
error met. -/
def Network.post (n : Network) (r : Request) : Network × Except Failure Value :=
  let n := { n with sent := n.sent ++ [r] }
  match n.script with
  | [] => (n, .error (requestError "no network"))
  | a :: rest =>
    let n := if rest.isEmpty then n else { n with script := rest }
    let outcome : Except Failure Value := match a with
      | .text reply => .ok (replyBody r.url reply)
      | .json body => .ok body
      | .httpError m => .error (requestError m.text)
      | .connectionError m => .error (requestError m.text)
      | .timeout m => .error (requestError m.text)
      | .undecodable => .error (requestError undecodableMessage)
    (n, outcome)

end SyntaxAdvisor
