import LiteralLang.Callable
import LiteralLang.CompileOptions.Read
import LiteralLang.Node.Json
import LiteralLang.Value.Json

/-!
# Sessions

A session holds current options and callables by name.  It answers one step after the other, and a
step that fails changes nothing.
-/

namespace LiteralLang

/-- Current options and named callables. -/
structure Session where
  options : CompileOptions
  callables : List (String × Callable)

namespace Session

/-- A session with the standard options and no callables. -/
def start : Session := ⟨.standard, []⟩

/-- What a session can be asked to do. -/
inductive Step where
  | setMaxDepth (bound : Nat)
  /-- Replace the options by those of a JSON text. -/
  | loadOptions (text : String)
  | compile (source : String) (name : String)
  /-- Print the value of a callable, compile that and keep it under a name. -/
  | reprint (callable : String) (name : String)
  | value (callable : String)
  | valueTwice (callable : String)
  | code (callable : String)
  | tree (callable : String)
  /-- Two callables, compared in every way. -/
  | compare (first second : String)

/-- What a session answers. -/
inductive Reply where
  | effective (bound : Nat)
  | invalidOptions (reason : JsonText.Fault)
  | compiled (callable : Callable)
  | reprinted (printed : String) (callable : Callable)
  | failed (reason : CompileError)
  | json (text : String)
  | jsonTwice (text : String) (same : Bool)
  | code (text : String)
  | tree (text : String)
  | equalities (callable tree code value : Bool)
  | unknownName

/-- The callable of a name. -/
def find? (session : Session) (name : String) : Option Callable := session.callables.lookup name

/-- The session with a callable under a name; it hides an older one of that name. -/
def keep (session : Session) (name : String) (callable : Callable) : Session :=
  { session with callables := (name, callable) :: session.callables }

/-- The session with other options, and the bound that they enforce. -/
def adopt (session : Session) (options : CompileOptions) : Session × Reply :=
  ({ session with options }, .effective options.effectiveMaxDepth)

/-- The reply about the callable of a name; nothing changes. -/
def about (session : Session) (name : String) (reply : Callable → Reply) : Session × Reply :=
  (session, (session.find? name).elim .unknownName reply)

def next (session : Session) : Step → Session × Reply
  | .setMaxDepth bound => session.adopt ⟨bound⟩
  | .loadOptions text =>
      match CompileOptions.read text with
      | .ok options => session.adopt options
      | .error reason => (session, .invalidOptions reason)
  | .compile source name =>
      match compileWith session.options source with
      | .ok callable => (session.keep name callable, .compiled callable)
      | .error reason => (session, .failed reason)
  | .reprint callable name =>
      match session.find? callable with
      | none => (session, .unknownName)
      | some callable =>
          match callable.reprint session.options with
          | .ok (printed, again) => (session.keep name again, .reprinted printed again)
          | .error reason => (session, .failed reason)
  | .value callable => session.about callable fun c => .json c.call.json
  | .valueTwice callable =>
      session.about callable fun c => .jsonTwice c.call.json (c.call.equal c.call)
  | .code callable => session.about callable fun c => .code c.code
  | .tree callable => session.about callable fun c => .tree c.tree.toJson.compact
  | .compare first second =>
      match session.find? first, session.find? second with
      | some a, some b =>
          (session, .equalities (a.equal b) (a.tree.equal b.tree) (a.code == b.code)
            (a.call.equal b.call))
      | _, _ => (session, .unknownName)

def replies (session : Session) : List Step → List Reply
  | [] => []
  | step :: more =>
      let (later, reply) := session.next step
      reply :: later.replies more

end Session

end LiteralLang
