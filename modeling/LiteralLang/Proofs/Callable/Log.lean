import LiteralLang.Callable
import LiteralLang.Proofs.Node.Injection
import LiteralLang.Proofs.Node.Report
import LiteralLang.Proofs.Token.Trace

/-!
# The log of a compilation

What a compilation reports, and in which order.  Every number, string and word in front of the first
fault leaves a trace.  Behind these stands one record for each stage that has come to its end, with
the numbers of characters, tokens, nested arrays and characters of code.  A stage that fails is the
last, and reports nothing itself.
-/

namespace LiteralLang

open Lexeme (isSpace)
open Scan (Reads tokenize_eq_error_iff tokenize_eq_ok_iff_reads)

/-- What a compilation comes to, and what it has reported by then: the traces of the tokens, and the
records of the stages. -/
inductive Log (options : CompileOptions) (source : String) :
    (traces stages : List LogRecord) → Except CompileError Callable → Prop
  /-- Behind the tokens stands a character where no lexeme can be read. -/
  | unread {tokens offset c rest fault traces} : Reads 0 source.toList tokens offset (c :: rest) →
      isSpace c = false → lexeme offset c rest = .error fault → Traces tokens traces →
      Log options source traces [] (.error fault)
  /-- The tokens have no tree. -/
  | unbuilt {tokens fault traces} : tokenize source = .ok tokens →
      Node.ofTokens options tokens = .error fault → Traces tokens traces →
      Log options source traces
        [⟨.debug, "litexpr_core::lexer",
          "tokenized " ++ source.length.repr ++ " chars into " ++ tokens.length.repr ++ " tokens"⟩]
        (.error fault)
  | compiled {tokens tree traces} : tokenize source = .ok tokens →
      Node.ofTokens options tokens = .ok tree → Traces tokens traces →
      Log options source traces
        [⟨.debug, "litexpr_core::lexer",
          "tokenized " ++ source.length.repr ++ " chars into " ++ tokens.length.repr ++ " tokens"⟩,
        ⟨.debug, "litexpr_core::parser",
          "built AST from " ++ tokens.length.repr ++ " tokens, array depth " ++ tree.depth.repr⟩,
        ⟨.debug, "litexpr_core::codegen",
          "generated " ++ (Callable.mk tree).code.length.repr ++ " bytes of code"⟩]
        (.ok ⟨tree⟩)

variable {options : CompileOptions} {source : String} {tokens : List Token} {tree : Node}
  {traces stages : List LogRecord} {result : Except CompileError Callable}

/-! ### The length of code -/

theorem Node.utf8ByteSize_code (tree : Node) : tree.code.utf8ByteSize = tree.code.length := by
  apply Text.utf8ByteSize_eq_length
  intro c member
  exact ((Framed.code tree).printable c member).2

/-! ### The stages -/

theorem Log.level_eq (log : Log options source traces stages result) :
    (∀ record ∈ traces, record.level = .trace) ∧ ∀ record ∈ stages, record.level = .debug := by
  cases log with
  | unread _ _ _ left => exact ⟨fun _ => left.level_eq, by simp⟩
  | unbuilt _ _ left => exact ⟨fun _ => left.level_eq, by simp⟩
  | compiled _ _ left => exact ⟨fun _ => left.level_eq, by simp⟩

/-- Every compilation comes to one of the three ends, and its events are written as the log of this
end. -/
theorem exists_log (options : CompileOptions) (source : String) :
    ∃ events traces stages result, compilation options source = ⟨events, result⟩ ∧
      events.map LogEvent.record = traces ++ stages ∧
      Log options source traces stages result := by
  cases cut : tokenize source with
  | error fault =>
    obtain ⟨tokens, offset, c, rest, run, begins, refused⟩ := tokenize_eq_error_iff.mp cut
    have told : compilation options source =
        ⟨tokens.filterMap Token.event?, .error fault⟩ := by
      rw [compilation, run.scan_eq_error begins refused, Logged.bind_of_error]
    exact ⟨_, _, [], _, told, (List.append_nil _).symm, .unread run begins refused run.traces⟩
  | ok tokens =>
    obtain ⟨behind, run⟩ := tokenize_eq_ok_iff_reads.mp cut
    cases built : Node.ofTokens options tokens with
    | error fault =>
      have told : compilation options source =
          ⟨tokens.filterMap Token.event? ++ [.tokenized source.length tokens.length],
            .error fault⟩ := by
        rw [compilation, run.scan_eq, Logged.bind_of_ok, Node.build_eq, built]
        dsimp only
        rw [Logged.bind_of_error, List.append_nil]
      exact ⟨_, _, _, _, told, List.map_append, .unbuilt cut built run.traces⟩
    | ok tree =>
      have told : compilation options source =
          ⟨tokens.filterMap Token.event? ++ [.tokenized source.length tokens.length,
            .built tokens.length tree.depth, .generated (Callable.mk tree).code.length],
            .ok ⟨tree⟩⟩ := by
        rw [compilation, run.scan_eq, Logged.bind_of_ok, Node.build_eq, built]
        dsimp only
        rw [Logged.bind_of_ok, List.append_assoc, Callable.code, Node.utf8ByteSize_code]
        rfl
      exact ⟨_, _, _, _, told, List.map_append, .compiled cut built run.traces⟩

/-- What is written of events whose records are these. -/
theorem Log.lines_eq {events : List LogEvent} (log : Log options source traces stages result)
    (records : events.map LogEvent.record = traces ++ stages) :
    events.map LogEvent.line =
      traces.map ("TRACE " ++ ·.message) ++ stages.map ("DEBUG " ++ ·.message) := by
  have line : LogEvent.line = (fun record : LogRecord =>
      record.level.text ++ " " ++ record.message) ∘ LogEvent.record := rfl
  have told {level : LogLevel} {records : List LogRecord}
      (each : ∀ record ∈ records, record.level = level) :
      records.map (fun record => record.level.text ++ " " ++ record.message) =
        records.map fun record => level.text ++ " " ++ record.message :=
    List.map_congr_left fun record member => by rw [each record member]
  rw [line, ← List.map_map, records, List.map_append, told log.level_eq.1, told log.level_eq.2]
  rfl

/-- The log tells what has happened.  A compilation reports the traces of its tokens and then the
records of its stages, as far as it has come, and nothing behind a fault.  Brackets and commas leave
no trace, and every other trace tells its token. -/
theorem compilation_eq_traces_append_stages (options : CompileOptions) (source : String) :
    (∃ traces stages, Log options source traces stages (compileWith options source) ∧
      (compilation options source).events.map LogEvent.record = traces ++ stages ∧
      (compilation options source).events.map LogEvent.line =
        traces.map ("TRACE " ++ ·.message) ++ stages.map ("DEBUG " ++ ·.message)) ∧
    ∀ token token' record, Trace token record → Trace token' record → token = token' := by
  constructor
  · obtain ⟨events, traces, stages, result, told, records, log⟩ := exists_log options source
    rw [compileWith, told]
    exact ⟨traces, stages, log, records, log.lines_eq records⟩
  · intro token token' record trace trace'
    exact trace.token_eq trace'

/-- The bracket and the comma leave no trace, and the depth is that of the tree. -/
example : (compilation .standard "[true,]").events.map LogEvent.line =
    ["TRACE identifier token \"true\" at 1", "DEBUG tokenized 7 chars into 4 tokens",
      "DEBUG built AST from 4 tokens, array depth 1", "DEBUG generated 14 bytes of code"] := by
  decide +kernel

end LiteralLang
