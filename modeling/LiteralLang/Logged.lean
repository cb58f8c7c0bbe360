import LiteralLang.LogEvent

/-!
# Logged computations

A computation that reports events on its way and ends with a result or a fault.  Steps are chained
in order: the events of a step come before those of the next one, and a fault ends the chain, with
everything reported so far.
-/

namespace LiteralLang

/-- The events of a computation, in order, and what came of it. -/
structure Logged (ε α : Type) where
  events : List LogEvent
  result : Except ε α

namespace Logged

/-- A computation and the one that follows on its result. -/
def andThen {ε α β : Type} (first : Logged ε α) (next : α → Logged ε β) : Logged ε β :=
  match first.result with
  | .error fault => ⟨first.events, .error fault⟩
  | .ok value =>
      let second := next value
      ⟨first.events ++ second.events, second.result⟩

instance {ε : Type} : Monad (Logged ε) where
  pure value := ⟨[], .ok value⟩
  bind := andThen

def report {ε : Type} (event : LogEvent) : Logged ε Unit := ⟨[event], .ok ()⟩

/-- A result that was reached without any event. -/
def silent {ε α : Type} (result : Except ε α) : Logged ε α := ⟨[], result⟩

/-- The same computation with its fault seen in another way. -/
def mapFault {ε δ α : Type} (view : ε → δ) (logged : Logged ε α) : Logged δ α :=
  ⟨logged.events, logged.result.mapError view⟩

end Logged

end LiteralLang
