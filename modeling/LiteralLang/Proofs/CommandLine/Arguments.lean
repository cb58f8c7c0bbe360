import LiteralLang.CommandLine.Arguments
import LiteralLang.Proofs.Result

/-!
# The same arguments without an output file

A command line that asks for an output file asks for everything else without it, once the flag for
the output is taken out together with its value.
-/

namespace LiteralLang.CommandLine

/-- The settings without an output file. -/
def Settings.withoutOutput (settings : Settings) : Settings := { settings with output := none }

/-- The words of a command line without the flag for the output and its value, from before the
action on or from behind it. -/
def withoutOutput (behindAction : Bool) : List String → List String
  | [] => []
  | text :: rest =>
      match word behindAction text with
      | .flag .output (some _) => withoutOutput behindAction rest
      | .flag flag none =>
          match rest with
          | [] => [text]
          | value :: rest =>
              if flag = .output then withoutOutput behindAction rest
              else text :: value :: withoutOutput behindAction rest
      | .plain _ => text :: withoutOutput true rest
      | _ => text :: withoutOutput behindAction rest

variable {action action' : Action} {inner outer next settings : Settings} {flag : Flag}
  {value text shown : String} {words rest : List String} {level : Bool}

/-! ### Settings -/

/-- With the flag for the output nothing else changes, and every other flag is set as before. -/
theorem Settings.with_cases (added : inner.with flag value = .ok next) :
    (flag = .output ∧ next.withoutOutput = inner.withoutOutput) ∨
      (flag ≠ .output ∧ inner.withoutOutput.with flag value = .ok next.withoutOutput) := by
  cases flag with
  | output =>
    rw [Settings.with] at added
    refine Or.inl ⟨rfl, ?_⟩
    split at added
    case isTrue => simp at added
    case isFalse => exact Except.ok.inj added ▸ rfl
  | input | config =>
    rw [Settings.with] at added
    refine Or.inr ⟨by simp, ?_⟩
    split at added
    case isTrue => simp at added
    case isFalse free => exact (if_neg free).trans (Except.ok.inj added ▸ rfl)
  | maxDepth =>
    rw [Settings.with] at added
    refine Or.inr ⟨by simp, ?_⟩
    rw [Settings.with]
    split at added
    case h_1 => simp at added
    case h_2 bound spelled =>
      split at added
      case isTrue => simp at added
      case isFalse free => exact (if_neg free).trans (Except.ok.inj added ▸ rfl)

/-! ### Words -/

theorem withoutOutput_attached (shape : word level text = .flag flag (some value)) :
    withoutOutput level (text :: rest) =
      if flag = .output then withoutOutput level rest else text :: withoutOutput level rest := by
  rw [CommandLine.withoutOutput, shape]
  cases flag <;> rfl

theorem withoutOutput_detached (shape : word level text = .flag flag none) :
    withoutOutput level (text :: value :: rest) =
      if flag = .output then withoutOutput level rest
      else text :: value :: withoutOutput level rest := by
  rw [CommandLine.withoutOutput, shape]
  cases flag <;> rfl

theorem behindAction_attached (shape : word true text = .flag flag (some value)) :
    behindAction action outer inner (text :: rest) =
      inner.with flag value >>= fun next => behindAction action outer next rest := by
  rw [behindAction.eq_def]
  simp only [shape]

theorem behindAction_detached (shape : word true text = .flag flag none)
    (plain : word true shown = .plain value) :
    behindAction action outer inner (text :: shown :: rest) =
      inner.with flag value >>= fun next => behindAction action outer next rest := by
  rw [behindAction.eq_def]
  simp only [shape, plain]

theorem beforeAction_attached (shape : word false text = .flag flag (some value)) :
    beforeAction outer (text :: rest) =
      outer.with flag value >>= fun next => beforeAction next rest := by
  rw [beforeAction.eq_def]
  simp only [shape]

theorem beforeAction_detached (shape : word false text = .flag flag none)
    (plain : word false shown = .plain value) :
    beforeAction outer (text :: shown :: rest) =
      outer.with flag value >>= fun next => beforeAction next rest := by
  rw [beforeAction.eq_def]
  simp only [shape, plain]

/-! ### Command lines -/

/-- Reading the rest of a command line comes to the same where the flag for the output is left out,
and any other flag is read with its value. -/
theorem read_withoutOutput {read : Settings → List String → Except UsageFault Request}
    {kept : List String} {wanted : Request}
    (reads : read inner.withoutOutput kept =
      inner.withoutOutput.with flag value >>= fun next => read next rest)
    (added : inner.with flag value = .ok next) (later : read next.withoutOutput rest = .ok wanted) :
    read inner.withoutOutput (if flag = .output then rest else kept) = .ok wanted := by
  obtain ⟨isOutput, same⟩ | ⟨other, added'⟩ := Settings.with_cases added
  · rwa [if_pos isOutput, ← same]
  · rw [if_neg other, reads]
    exact Result.bind_eq_ok_iff.mpr ⟨_, added', later⟩

theorem behindAction_withoutOutput
    (asked : behindAction action outer inner words = .ok (.perform action' settings)) :
    behindAction action outer.withoutOutput inner.withoutOutput (withoutOutput true words) =
      .ok (.perform action' settings.withoutOutput) := by
  fun_induction behindAction action outer inner words with
  | case1 inner =>
    obtain ⟨rfl, rfl⟩ := Request.perform.inj (Except.ok.inj asked)
    rfl
  | case2 inner text rest flag value shape ih =>
    obtain ⟨next, added, asked⟩ := Result.bind_eq_ok_iff.mp asked
    rw [withoutOutput_attached shape]
    exact read_withoutOutput (behindAction_attached shape) added (ih next asked)
  | case4 inner text flag shape shown rest value plain ih =>
    obtain ⟨next, added, asked⟩ := Result.bind_eq_ok_iff.mp asked
    rw [withoutOutput_detached shape]
    exact read_withoutOutput (behindAction_detached shape plain) added (ih next asked)
  | case7 inner text shape =>
    -- A separator stands at the end, and stays there.
    obtain ⟨rfl, rfl⟩ := Request.perform.inj (Except.ok.inj asked)
    rw [CommandLine.withoutOutput, shape, behindAction.eq_def]
    simp only [shape]
    rfl
  | case3 | case5 | case6 | case8 | case9 => simp at asked

theorem behindHelp_ne_perform : behindHelp words ≠ .ok (.perform action settings) := by
  rw [behindHelp.eq_def]
  split
  · simp
  · split <;> simp
  · simp

theorem beforeAction_withoutOutput
    (asked : beforeAction outer words = .ok (.perform action settings)) :
    beforeAction outer.withoutOutput (withoutOutput false words) =
      .ok (.perform action settings.withoutOutput) := by
  fun_induction beforeAction outer words with
  | case4 outer text rest flag value shape ih =>
    obtain ⟨next, added, asked⟩ := Result.bind_eq_ok_iff.mp asked
    rw [withoutOutput_attached shape]
    exact read_withoutOutput (beforeAction_attached shape) added (ih next asked)
  | case6 outer text flag shape shown rest value plain ih =>
    obtain ⟨next, added, asked⟩ := Result.bind_eq_ok_iff.mp asked
    rw [withoutOutput_detached shape]
    exact read_withoutOutput (beforeAction_detached shape plain) added (ih next asked)
  | case8 outer text rest name shape action names =>
    rw [CommandLine.withoutOutput, shape, beforeAction.eq_def]
    simp only [shape, names]
    exact behindAction_withoutOutput asked
  | case9 => exact absurd asked behindHelp_ne_perform
  | case1 | case2 | case3 | case5 | case7 | case10 | case11 => simp at asked

/-- The words without the flag for the output ask for the same without an output file. -/
theorem request_withoutOutput (asked : request words = .ok (.perform action settings)) :
    request (withoutOutput false words) = .ok (.perform action settings.withoutOutput) :=
  beforeAction_withoutOutput asked

end LiteralLang.CommandLine
