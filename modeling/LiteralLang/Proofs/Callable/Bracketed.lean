import LiteralLang.Proofs.Callable.Compiled
import LiteralLang.Proofs.Token.Inside

/-!
# Sources in brackets

Source texts with commas between them and brackets around them compile to the array of what each of
them compiles to.  Whether a source compiles depends on the options only for the nesting of its
arrays, so the brackets need no more than room for one array around the deepest part.
-/

namespace LiteralLang

open Lexeme (isSeparator)
open Scan (Reads)

/-- The text is cut into tokens that derive the tree. -/
def SourceOf (text : String) (body : Node) : Prop :=
  ∃ tokens, tokenize text = .ok tokens ∧ Derives (tokens.map Token.symbol) body

/-- Texts with commas between them in brackets, and with a comma behind the last if that is asked
for. -/
def bracketed (trailing : Bool) (texts : List String) : String :=
  "[" ++ ",".intercalate texts ++ (if trailing then "," else "") ++ "]"

variable {text : String} {texts : List String} {body : Node} {bodies : List Node}
  {options : CompileOptions} {callable : Callable} {trailing : Bool} {rest : List Char}

/-! ### Sources of a tree -/

/-- A source of a tree compiles to its program wherever the arrays of the tree may nest. -/
theorem SourceOf.compileWith_eq (source : SourceOf text body) (options : CompileOptions) :
    compileWith options text =
      if body.depth ≤ options.effectiveMaxDepth then .ok ⟨.program body⟩
      else .error (.recursionLimit options.effectiveMaxDepth) := by
  obtain ⟨tokens, cut, derives⟩ := source
  rw [LiteralLang.compileWith_eq, cut, Result.ok_bind, Node.ofTokens_of_derives derives]
  split <;> rfl

theorem exists_sourceOf_of_compileWith (compiled : compileWith options text = .ok callable) :
    ∃ body, SourceOf text body ∧ callable = ⟨.program body⟩ := by
  rw [compileWith_eq, Result.bind_eq_ok_iff] at compiled
  obtain ⟨tokens, cut, built⟩ := compiled
  obtain ⟨tree, accepted, finished⟩ := Result.bind_eq_ok_iff.mp built
  obtain ⟨derivation, yield, -, rfl⟩ := Node.ofTokens_eq_ok_iff.mp accepted
  have derives := Derivation.derives_iff.mpr ⟨derivation, yield, rfl⟩
  exact ⟨derivation.tree, ⟨tokens, cut, derives⟩, (Except.ok.inj finished).symm⟩

/-- In front of a separator a source is read as it is read alone. -/
theorem SourceOf.exists_reads (source : SourceOf text body)
    (separates : rest.head?.all isSeparator = true) (offset : Nat) :
    ∃ tokens behind, Reads offset (text.toList ++ rest) tokens behind rest ∧
      Derives (tokens.map Token.symbol) body := by
  obtain ⟨tokens, cut, derives⟩ := source
  obtain ⟨behind, run⟩ := Scan.tokenize_eq_ok_iff_reads.mp cut
  have moved := run.raised separates offset
  rw [Nat.zero_add] at moved
  refine ⟨_, _, moved, ?_⟩
  rwa [Token.map_symbol_raised]

/-! ### Sources next to each other -/

/-- A bracket or a comma is one token, whatever stands behind it. -/
theorem exists_reads_mark {mark : Char} (which : mark = '[' ∨ mark = ']' ∨ mark = ',')
    (offset : Nat) (rest : List Char) :
    ∃ token, Reads offset (mark :: rest) [token] (offset + 1) rest ∧
      token.symbol = Symbol.ofWord (String.ofList [mark]) :=
  ⟨_, .single (.punctuation which), rfl⟩

/-- Sources with commas between them are read one after the other. -/
theorem exists_reads_listed (sources : List.Forall₂ SourceOf texts bodies)
    (separates : rest.head?.all isSeparator = true) (offset : Nat) :
    ∃ tokens behind parts,
      Reads offset ([','].intercalate (texts.map String.toList) ++ rest) tokens behind rest ∧
      tokens.map Token.symbol = [.comma].intercalate parts ∧
      List.Forall₂ Derives parts bodies := by
  induction sources generalizing offset with
  | nil => exact ⟨[], offset, [], .done, rfl, .nil⟩
  | @cons text body texts bodies first others ih =>
    cases others with
    | nil =>
      obtain ⟨tokens, behind, run, derives⟩ := first.exists_reads separates offset
      refine ⟨tokens, behind, [tokens.map Token.symbol], ?_, ?_, .cons derives .nil⟩
      · rwa [List.map_singleton, List.intercalate_singleton]
      · rw [List.intercalate_singleton]
    | @cons second _ texts _ _ _ =>
      set later := [','].intercalate ((second :: texts).map String.toList) ++ rest with later_def
      have before : (',' :: later).head?.all isSeparator = true := rfl
      obtain ⟨tokens, behind, run, derives⟩ := first.exists_reads before offset
      obtain ⟨comma, run', commaPlays⟩ :=
        exists_reads_mark (Or.inr (Or.inr rfl)) behind later
      obtain ⟨more, finish, parts, run'', plays, derived⟩ := ih (behind + 1)
      refine ⟨tokens ++ comma :: more, finish, tokens.map Token.symbol :: parts, ?_, ?_,
        .cons derives derived⟩
      · rw [List.map_cons, List.map_cons, List.intercalate_cons_cons, List.append_assoc,
          List.append_assoc]
        exact run.append (run'.append run'')
      · cases derived with
        | cons =>
          rw [List.map_append, List.map_cons, plays, commaPlays, List.intercalate_cons_cons,
            List.append_assoc]
          rfl

/-- Sources in brackets are a source of the array. -/
theorem SourceOf.array (sources : List.Forall₂ SourceOf texts bodies)
    (allowed : trailing = true → bodies ≠ []) :
    SourceOf (bracketed trailing texts) (.array bodies) := by
  let comma : List Char := if trailing then [','] else []
  have spelled : (bracketed trailing texts).toList =
      '[' :: ([','].intercalate (texts.map String.toList) ++ (comma ++ [']'])) := by
    have inside : (if trailing then "," else "").toList = comma := by
      cases trailing <;> rfl
    simp [bracketed, String.toList_intercalate, inside]
  have separates : (comma ++ [']']).head?.all isSeparator = true := by
    cases trailing <;> rfl
  obtain ⟨opening, run, openingPlays⟩ := exists_reads_mark (Or.inl rfl) 0
    ([','].intercalate (texts.map String.toList) ++ (comma ++ [']']))
  obtain ⟨tokens, behind, parts, run', plays, derived⟩ :=
    exists_reads_listed sources separates 1
  obtain ⟨last, finish, run'', lastPlays⟩ : ∃ last finish,
      Reads behind (comma ++ [']']) last finish [] ∧
      last.map Token.symbol = Derivation.trailingComma trailing ++ [.closing] := by
    cases trailing with
    | false =>
      obtain ⟨closing, run'', closingPlays⟩ :=
        exists_reads_mark (Or.inr (Or.inl rfl)) behind []
      exact ⟨[closing], _, run'', congrArg ([·]) closingPlays⟩
    | true =>
      obtain ⟨trailingMark, run'', markPlays⟩ :=
        exists_reads_mark (Or.inr (Or.inr rfl)) behind [']']
      obtain ⟨closing, run''', closingPlays⟩ :=
        exists_reads_mark (Or.inr (Or.inl rfl)) (behind + 1) []
      refine ⟨[trailingMark, closing], _, run''.append run''', ?_⟩
      rw [List.map_cons, List.map_singleton, markPlays, closingPlays]
      rfl
  refine ⟨opening :: (tokens ++ last), ?_, ?_⟩
  · rw [Scan.tokenize_eq_ok_iff_reads, spelled]
    exact ⟨finish, run.append (run'.append run'')⟩
  · rw [List.map_cons, List.map_append, openingPlays, plays, lastPlays, ← List.append_assoc]
    apply Derives.array derived
    cases trailing with
    | false => exact Or.inl rfl
    | true => exact Or.inr ⟨rfl, allowed rfl⟩

/-! ### What sources in brackets compile to -/

/-- Compiled sources are sources of the trees in their callables. -/
theorem exists_sourcesOf {parts : List (String × Callable)}
    (compiled : ∀ part ∈ parts, ∃ options, compileWith options part.1 = .ok part.2) :
    ∃ bodies, List.Forall₂ SourceOf (parts.map Prod.fst) bodies ∧
      parts.map Prod.snd = bodies.map fun body => ⟨.program body⟩ := by
  induction parts with
  | nil => exact ⟨[], .nil, rfl⟩
  | cons part parts ih =>
    rw [List.forall_mem_cons] at compiled
    obtain ⟨⟨options, first⟩, others⟩ := compiled
    obtain ⟨body, source, whole⟩ := exists_sourceOf_of_compileWith first
    obtain ⟨bodies, sources, wholes⟩ := ih others
    refine ⟨body :: bodies, .cons source sources, ?_⟩
    rw [List.map_cons, List.map_cons, whole, wholes]

/-- Sources that compile, under whatever options, compile in brackets to the array of their trees,
with the array of their values and their expressions in brackets as the code, and a trailing comma
changes nothing.  All that the options have to leave room for is one array around the deepest
value; where they do not, their bound is reported. -/
theorem compileWith_bracketed {parts : List (String × Callable)} (nonempty : parts ≠ [])
    (compiled : ∀ part ∈ parts, ∃ options, compileWith options part.1 = .ok part.2) :
    ∃ (bodies : List Node) (expressions : List String),
      parts.map (·.2.tree) = bodies.map Node.program ∧
      parts.map (·.2.code) = expressions.map (fun expression => "return " ++ expression ++ ";") ∧
      ∀ (trailing : Bool) (options : CompileOptions),
        let source := bracketed trailing (parts.map Prod.fst)
        let deepest := (parts.map (·.2.call.depth)).foldr max 0
        (deepest + 1 ≤ options.effectiveMaxDepth →
          ∃ callable, compileWith options source = .ok callable ∧
            callable.call = .array (parts.map (·.2.call)) ∧
            callable.tree = .program (.array bodies) ∧
            callable.code = "return [" ++ ",".intercalate expressions ++ "];") ∧
        (options.effectiveMaxDepth < deepest + 1 →
          compileWith options source = .error (.recursionLimit options.effectiveMaxDepth)) := by
  obtain ⟨bodies, sources, wholes⟩ := exists_sourcesOf compiled
  have view {α : Type} (view : Callable → α) :
      parts.map (fun part => view part.2) = bodies.map fun body => view ⟨.program body⟩ := by
    have viewed := congrArg (List.map view) wholes
    rwa [List.map_map, List.map_map] at viewed
  have some : bodies ≠ [] := by
    rintro rfl
    exact nonempty (List.map_eq_nil_iff.mp wholes)
  refine ⟨bodies, bodies.map Node.code, view Callable.tree, ?_, ?_⟩
  · rw [view Callable.code, List.map_map]
    rfl
  · intro trailing options
    have deepest : (parts.map (·.2.call.depth)).foldr max 0 + 1 = (Node.array bodies).depth := by
      rw [view (·.call.depth), Node.depth, Node.depthAll_eq_foldr]
      simp only [Callable.call, Node.value, Value.depth_value]
    have source : SourceOf (bracketed trailing (parts.map Prod.fst)) (.array bodies) :=
      SourceOf.array sources fun _ => some
    dsimp only
    rw [source.compileWith_eq options, deepest]
    constructor
    · intro room
      refine ⟨⟨.program (.array bodies)⟩, if_pos room, ?_, rfl, ?_⟩
      · rw [view Callable.call, Callable.call, Node.value, Node.value, Node.values_eq_map]
        rfl
      · rw [Callable.code, Node.code, Node.code, Node.codes_eq_map, ← String.toList_inj]
        simp
    · intro deep
      exact if_neg (Nat.not_le_of_lt deep)

/-- An infinite number and an array with a blank in it, joined under narrower options than they were
compiled with. -/
theorem compileWith_bracketed_infinity_empty :
    let callable : Callable := ⟨.program (.literal (.number .infinity))⟩
    let callable' : Callable := ⟨.program (.array [])⟩
    compile "1e999" = .ok callable ∧ compile "[ ]" = .ok callable' ∧
    (∃ whole, compileWith ⟨2⟩ "[1e999,[ ],]" = .ok whole ∧
      whole.call = .array [callable.call, callable'.call] ∧
      whole.code = "return [Infinity,[]];") ∧
    compileWith ⟨1⟩ "[1e999,[ ]]" = .error (.recursionLimit 1) := by
  intro callable callable'
  have compiled : compile "1e999" = .ok callable := by
    have scanned : tokenize "1e999" = .ok [⟨"1e999", some (.number .infinity), 0⟩] := by
      decide +kernel
    rw [compile, compileWith_eq, scanned]
    rfl
  have compiled' : compile "[ ]" = .ok callable' := by
    have scanned : tokenize "[ ]" = .ok [⟨"[", none, 0⟩, ⟨"]", none, 2⟩] := by decide +kernel
    rw [compile, compileWith_eq, scanned]
    rfl
  have each : ∀ part ∈ [("1e999", callable), ("[ ]", callable')],
      ∃ options, compileWith options part.1 = .ok part.2 := by
    rintro part member
    rcases List.mem_pair.mp member with rfl | rfl
    · exact ⟨.standard, compiled⟩
    · exact ⟨.standard, compiled'⟩
  obtain ⟨bodies, expressions, trees, codes, all⟩ := compileWith_bracketed (by simp) each
  have unwraps : Function.Injective fun expression : String => "return " ++ expression ++ ";" := by
    intro expression other same
    rw [← String.toList_inj] at same ⊢
    simpa using same
  have spelled : [callable.code, callable'.code] =
      ["Infinity", "[]"].map fun expression => "return " ++ expression ++ ";" := by
    decide +kernel
  obtain rfl := List.map_injective_iff.mpr unwraps (codes.symm.trans spelled)
  obtain ⟨whole, compiles, call, -, code⟩ := (all true ⟨2⟩).1 (by decide)
  exact ⟨compiled, compiled', ⟨whole, compiles, call, code⟩, (all false ⟨1⟩).2 (by decide)⟩

end LiteralLang
