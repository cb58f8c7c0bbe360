import LiteralLang.LogEvent
import LiteralLang.PatternText.Meaning

/-!
# Log filters

Which records of the log are shown.  A filter is a list of directives with commas between them: a
level for everything, a target for every record below it, or both with an equals sign.  The
directive with the longest target that begins the target of a record decides.  Behind a slash a
pattern may follow, which has to match somewhere in the message of a record.
-/

namespace LiteralLang.CommandLine

/-- Admits the records of a target up to a level, or none of them. -/
structure Directive where
  target : Option String
  level : Option LogLevel

/-- The directives of a filter, no two of the same target, and what messages have to match. -/
structure LogFilter where
  directives : List Directive
  pattern : Option Pattern

namespace LogFilter

def level? (word : List Char) : Option (Option LogLevel) :=
  match String.ofList (word.map Char.toLower) with
  | "off" => some none
  | "error" => some (some .error)
  | "warn" => some (some .warn)
  | "info" => some (some .info)
  | "debug" => some (some .debug)
  | "trace" => some (some .trace)
  | _ => none

def directive (text : List Char) : Except String Directive :=
  match Text.pieces '=' text with
  | [word] =>
      match level? word with
      | some level => .ok ⟨none, level⟩
      | none => .ok ⟨some (String.ofList word), some .trace⟩
  | [target, level] =>
      let word := Text.trimmed level
      if word.isEmpty then .ok ⟨some (String.ofList target), some .trace⟩
      else
        match level? word with
        | some level => .ok ⟨some (String.ofList target), level⟩
        | none => .error (String.ofList word)
  | _ => .error (String.ofList text)

/-- The directives with one in place of that for the same target. -/
def insert (directives : List Directive) (new : Directive) : List Directive :=
  if directives.any (·.target == new.target) then
    directives.map fun old => if old.target == new.target then new else old
  else directives ++ [new]

def directivesOf (text : List Char) : List Directive × List String :=
  let parts := ((Text.pieces ',' text).map Text.trimmed).filter (!·.isEmpty)
  parts.foldl (fun (found, senseless) part =>
    match directive part with
    | .ok new => (insert found new, senseless)
    | .error part => (found, senseless ++ [part])) ([], [])

/-- The filter of some directives, which admits only errors where there are none. -/
def ofDirectives (directives : List Directive) (pattern : Option Pattern) : LogFilter :=
  ⟨if directives.isEmpty then [⟨none, some .error⟩] else directives, pattern⟩

def warning (reason : String) : String := "warning: " ++ reason ++ ", ignoring it"

def quotedSpec (part : String) : String := "invalid logging spec '" ++ part ++ "'"

/-- The filter of a text, and the warnings about what makes no sense in it.  With more than one
slash nothing does. -/
def ofText (text : String) : LogFilter × List String :=
  match Text.pieces '/' text.toList with
  | [spec] =>
      let (found, senseless) := directivesOf spec
      (ofDirectives found none, senseless.map (warning ∘ quotedSpec))
  | [spec, pattern] =>
      let (found, senseless) := directivesOf spec
      let warnings := senseless.map (warning ∘ quotedSpec)
      let pattern := String.ofList pattern
      match Pattern.ofText pattern with
      | .ok pattern => (ofDirectives found (some pattern), warnings)
      | .error fault =>
          (ofDirectives found none,
            warnings ++ [warning ("invalid regex filter - " ++ fault.message pattern)])
  | _ => (ofDirectives [] none, [warning (quotedSpec text ++ " (too many '/'s)")])

def Directive.length (directive : Directive) : Nat :=
  (directive.target.getD "").utf8ByteSize

/-- The directive speaks of records with the target. -/
def Directive.covers (directive : Directive) (target : String) : Bool :=
  match directive.target with
  | none => true
  | some start => start.toList.isPrefixOf target.toList

/-- The directive that decides about a target: the longest one, and the last of several. -/
def deciding? (filter : LogFilter) (target : String) : Option Directive :=
  (filter.directives.filter (Directive.covers · target)).foldl (fun best candidate =>
    match best with
    | none => some candidate
    | some best =>
        some (if Directive.length best ≤ Directive.length candidate then candidate else best))
    none

def admits (filter : LogFilter) (event : LogEvent) : Bool :=
  match (filter.deciding? event.target).bind Directive.level with
  | none => false
  | some level =>
      decide (event.level.rank ≤ level.rank) && filter.pattern.all (·.occursIn event.message)

end LogFilter

end LiteralLang.CommandLine
