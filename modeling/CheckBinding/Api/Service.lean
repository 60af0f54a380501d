import CheckBinding.Api.Http
import CheckBinding.Api.Memory

/-!
The monitoring service, over HTTP or in memory.
-/

namespace CheckBinding.Api

/-- Who answers the operations. A client keeps the state of the line that its requests use. -/
inductive Service (Line : Type) where
  | http (client : Http.Client) (line : Line)
  | memory (memory : Memory)

def Service.answer [Pattern.Engine] {Line : Type} (transport : Http.Transport Line)
    (service : Service Line) (call : Call) : call.Answer × Service Line :=
  match service with
  | .http client line =>
      let (reply, line) := client.answer transport line call
      (reply, .http client line)
  | .memory store =>
      let (reply, store) := store.answer call
      (reply, .memory store)

end CheckBinding.Api
