import AdmissionGate.Http.Response
import AdmissionGate.Metrics

/-!
# Health

Probes of the running service: whether it is alive, whether it is ready, and its
metrics.
-/

namespace AdmissionGate

structure HealthState where
  ready : Bool := false
  metrics : Metrics := {}
deriving DecidableEq, Repr

namespace HealthState

def plainText : String := "text/plain; charset=utf-8"

def metricsText : String := "text/plain; version=0.0.4; charset=utf-8"

def answer? (state : HealthState) (path : String) : Option TextResponse :=
  if path = "/healthz" then some ⟨200, "ok", some plainText⟩
  else if path = "/readyz" then
    if state.ready then some ⟨200, "ready", some plainText⟩
    else some ⟨503, "not ready", some plainText⟩
  else if path = "/metrics" then
    some ⟨200, state.metrics.render, some metricsText⟩
  else none

/-- Probes are fetched; a fetch of the head alone has no text. -/
def probe (state : HealthState) (method path : String) : TextResponse :=
  match state.answer? path with
  | none => .bare 404
  | some response =>
    if method = "GET" then response
    else if method = "HEAD" then response.withoutText
    else .bare 405

end HealthState
end AdmissionGate
