import SyntaxAdvisor.Advice.Provider
import SyntaxAdvisor.Advice.Prompt
import SyntaxAdvisor.Advice.Recommendation
import SyntaxAdvisor.Text.Lowercase

/-!
# The advice worker

A worker is configured by a mapping with a service `type`, an `api_key` and an optional
`model`. The type is lowercased first, so it must be text; then the key must be true-valued;
then the type must name a service. A false-valued model means the service's default.

To advise on a report, the worker puts the report's prompt to its service, reads the reply and
builds a recommendation from it.
-/

namespace SyntaxAdvisor

/-- The client a configuration asks for. -/
def Provider.ofConfig (config : Value) : Except Failure Provider := do
  let get (k : String) (d : Value) : Except Failure Value :=
    match config with
    | .dict es => .ok ((Value.lookup es (.str k)).getD d)
    | _ => .error (.attributeError ("'" ++ config.typeName ++ "' object has no attribute 'get'"))
  let kind ← match ← get "type" (.str "") with
    | .str s => pure (Text.lower s)
    | v => throw (.attributeError ("'" ++ v.typeName ++ "' object has no attribute 'lower'"))
  let key ← get "api_key" .none
  let model ← get "model" .none
  if !key.truthy then throw (.valueError "API key is required")
  match Service.ofName? kind with
  | some service =>
    pure (if model.truthy then { service, key, model } else Provider.withDefault service key)
  | none =>
    throw (.valueError ("Unsupported provider: " ++ kind ++ ". Supported: openai, anthropic, google"))

namespace Provider

/-- What a client tells about itself: model, token limit as text, and client name. -/
def info (p : Provider) : Except Failure Value := do
  let limit ← p.maxTokens
  pure (.dict [(.str "model", p.model), (.str "max_tokens", .str (toString limit)),
               (.str "type", .str p.service.clientName)])

/-- Advises on a report: the network after the request, and the recommendation. -/
def advise (p : Provider) (n : Network) (e : Event) : Network × Except Failure Recommendation :=
  match e.prompt with
  | .error f => (n, .error f)
  | .ok prompt =>
  let (n, reply) := p.generate n (.str prompt)
  (n, do
    let text ← reply
    Recommendation.ofReply e (Reply.parse text))

end Provider

end SyntaxAdvisor
