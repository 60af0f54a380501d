import CheckBinding.Api.Call
import CheckBinding.Counter
import CheckBinding.Duration
import CheckBinding.SocketAddress
import CheckBinding.Storage.Operation

/-!
Programs that act on the outside only through requests.

A program either is done with a value or performs one effect and goes on with its answer. It does
not know who answers: the same program runs against the service itself, against a stand-in, or
against answers chosen one by one. Every run is finite.
-/

namespace CheckBinding

inductive Attempt where
  | connected
  | refused
  | timedOut
deriving DecidableEq

inductive Effect where
  | call (call : Api.Call)
  | storage (operation : Storage.Operation)
  | clock
  | probe (endpoint : Endpoint) (timeout : Duration) (attempts : UInt32)
  | connect (endpoint : Endpoint) (timeout : Duration)
  | sleep (span : Duration)
  | choose (others : Nat)
  | listen (address : SocketAddress)
  | count (counter : Counter) (amount : Nat)

/-- What a request is answered with. Time is counted in nanoseconds from some start; a choice
among one and `others` more is an index; whether an address can be listened on is a truth value. -/
@[reducible] def Effect.Answer : Effect → Type
  | .call request => request.Answer
  | .storage request => Except Storage.Fault request.Result
  | .clock => Nat
  | .probe _ _ _ => Option Duration
  | .connect _ _ => Attempt
  | .sleep _ => Unit
  | .choose others => Fin (others + 1)
  | .listen _ => Bool
  | .count _ _ => Unit

inductive Program (Result : Type) where
  | done (result : Result)
  | perform (effect : Effect) (next : effect.Answer → Program Result)

namespace Program

variable {First Second : Type}

def bind (program : Program First) (next : First → Program Second) : Program Second :=
  match program with
  | .done result => next result
  | .perform effect rest => .perform effect (fun answer => (rest answer).bind next)

instance : Monad Program where
  pure := .done
  bind := bind

instance {Result : Type} [Inhabited Result] : Inhabited (Program Result) := ⟨.done default⟩

def ask (effect : Effect) : Program effect.Answer :=
  .perform effect .done

def call (call : Api.Call) : Program call.Answer :=
  ask (.call call)

def storage (operation : Storage.Operation) :
    Program (Except Storage.Fault operation.Result) :=
  ask (.storage operation)

def clock : Program Nat :=
  ask .clock

def count (counter : Counter) (amount : Nat) : Program Unit :=
  ask (.count counter amount)

def listen (address : SocketAddress) : Program Bool :=
  ask (.listen address)

def run {State Result : Type} (answer : State → (effect : Effect) → effect.Answer × State) :
    Program Result → State → Result × State
  | .done result, state => (result, state)
  | .perform effect next, state =>
      let (reply, state) := answer state effect
      run answer (next reply) state

end Program
end CheckBinding
