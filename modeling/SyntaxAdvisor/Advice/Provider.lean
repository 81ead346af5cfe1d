import SyntaxAdvisor.Advice.Network
import SyntaxAdvisor.Value.Access
import SyntaxAdvisor.Text.Blank

/-!
# Assistant services

Three services can be asked for advice. Each has a default model, a token limit, an address,
and its own request and reply shapes:

* OpenAI: chat messages with a system message, key in a bearer header; the limit is 4000 for a
  model whose name contains `gpt-3.5` and 8000 otherwise;
* Anthropic: messages with a separate system text, key in its own header; limit 100000;
* Google: one text part holding the system text and the prompt, key in the address; limit
  1000000.

Asking posts one request. A request error becomes a general error `<Service> API error: ...`;
a reply missing a key or an index becomes `Invalid <Service> response format: ...`. A reply
of the wrong shape otherwise fails as looking into it fails, and the reply text must be text,
which is stripped.
-/

namespace SyntaxAdvisor

/-- The assistant services. -/
inductive Service where
  /-- OpenAI's chat completions. -/
  | openAI
  /-- Anthropic's messages. -/
  | anthropic
  /-- Google's generative language models. -/
  | google
deriving BEq, Inhabited

namespace Service

/-- The service's name in messages. -/
def title : Service → String
  | .openAI => "OpenAI"
  | .anthropic => "Anthropic"
  | .google => "Google"

/-- The name of the service's client. -/
def clientName : Service → String
  | .openAI => "OpenAIProvider"
  | .anthropic => "AnthropicProvider"
  | .google => "GoogleProvider"

/-- The model used when none is named. -/
def defaultModel : Service → String
  | .openAI => "gpt-3.5-turbo"
  | .anthropic => "claude-3-haiku-20240307"
  | .google => "gemini-1.5-flash"

/-- The service a lowercase type name stands for. -/
def ofName? : String → Option Service
  | "openai" => some .openAI
  | "anthropic" => some .anthropic
  | "google" => some .google
  | _ => none

end Service

/-- The instructions every request carries. -/
def systemText : String :=
  "You are a Python code analysis expert. Provide clear, actionable advice for fixing code errors."

/-- The error of making a client that is bound to no service. -/
def unboundClientError : Failure :=
  .typeError ("Can't instantiate abstract class BaseProvider with abstract methods " ++
    "generate_recommendation, get_max_tokens, get_model_name")

/-- A client of a service: its key and model. -/
structure Provider where
  /-- The service asked. -/
  service : Service
  /-- The key sent with requests. -/
  key : Value
  /-- The model asked for. -/
  model : Value

namespace Provider

/-- A client with the service's default model. -/
def withDefault (service : Service) (key : Value) : Provider :=
  { service, key, model := .str service.defaultModel }

/-- The address requests go to, without the key. -/
def baseUrl (p : Provider) : String :=
  match p.service with
  | .openAI => "https://api.openai.com/v1/chat/completions"
  | .anthropic => "https://api.anthropic.com/v1/messages"
  | .google =>
    "https://generativelanguage.googleapis.com/v1beta/models/" ++ p.model.text ++ ":generateContent"

/-- The most tokens the model takes. -/
def maxTokens (p : Provider) : Except Failure Nat :=
  match p.service with
  | .openAI => do
    let small ← Value.contains p.model (.str "gpt-3.5")
    pure (if small then 4000 else 8000)
  | .anthropic => .ok 100000
  | .google => .ok 1000000

/-- A mapping from text keys. -/
def object (kvs : List (String × Value)) : Value := .dict (kvs.map fun (k, v) => (.str k, v))

/-- The request that asks for advice on a prompt. -/
def request (p : Provider) (prompt : Value) : Request :=
  match p.service with
  | .openAI =>
    { url := p.baseUrl,
      headers := object [("Authorization", .str ("Bearer " ++ p.key.text)),
                         ("Content-Type", .str "application/json")],
      body := object [("model", p.model),
        ("messages", .list [object [("role", .str "system"), ("content", .str systemText)],
                            object [("role", .str "user"), ("content", prompt)]]),
        ("max_tokens", .int 500), ("temperature", .float 0.1)],
      timeout := 30 }
  | .anthropic =>
    { url := p.baseUrl,
      headers := object [("x-api-key", p.key), ("Content-Type", .str "application/json"),
                         ("anthropic-version", .str "2023-06-01")],
      body := object [("model", p.model), ("max_tokens", .int 500),
        ("messages", .list [object [("role", .str "user"), ("content", prompt)]]),
        ("system", .str systemText)],
      timeout := 30 }
  | .google =>
    { url := p.baseUrl ++ "?key=" ++ p.key.text,
      headers := object [("Content-Type", .str "application/json")],
      body := object [
        ("contents", .list [object [("parts",
          .list [object [("text", .str (systemText ++ "\n\n" ++ prompt.text))]])]]),
        ("generationConfig", object [("temperature", .float 0.1), ("maxOutputTokens", .int 500)])],
      timeout := 30 }

/-- The keys and indices that lead to the reply text in a reply body. -/
def replyPath : Service → List Value
  | .openAI => [.str "choices", .int 0, .str "message", .str "content"]
  | .anthropic => [.str "content", .int 0, .str "text"]
  | .google => [.str "candidates", .int 0, .str "content", .str "parts", .int 0, .str "text"]

/-- The reply text in a reply body. -/
def replyText (p : Provider) (body : Value) : Except Failure String := do
  let found ← match (replyPath p.service).foldlM Value.getItem body with
    | .ok v => pure v
    | .error (.keyError k) =>
      throw (.general ("Invalid " ++ p.service.title ++ " response format: " ++ k.repr))
    | .error (.indexError m) =>
      throw (.general ("Invalid " ++ p.service.title ++ " response format: " ++ m))
    | .error f => throw f
  match found with
  | .str s => pure (Text.strip s)
  | v => throw (.attributeError ("'" ++ v.typeName ++ "' object has no attribute 'strip'"))

/-- Asks the service for advice on a prompt: the network after the request, and the advice. -/
def generate (p : Provider) (n : Network) (prompt : Value) : Network × Except Failure String :=
  let (n, reply) := n.post (p.request prompt)
  match reply with
  | .error f => (n, .error (.general (p.service.title ++ " API error: " ++ f.message)))
  | .ok body => (n, p.replyText body)

end Provider

end SyntaxAdvisor
