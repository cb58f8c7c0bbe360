import LiteralLang.Proofs.Pattern.Matches
import Mathlib.Data.List.Forall2

/-!
# Patterns put together

The normal form of patterns does not change what they match: patterns in order match one behind the
other, one of several matches where any of them does, and a pattern in a row matches the numbers of
times that were asked for.
-/

namespace LiteralLang

namespace CharSet

theorem inRanges_insertRange (first last : Nat) (ranges : List (Nat × Nat)) (c : Char) :
    Text.inRanges (insertRange first last ranges) c = true ↔
      (first ≤ c.toNat ∧ c.toNat ≤ last) ∨ Text.inRanges ranges c = true := by
  induction ranges generalizing first last with
  | nil => simp [insertRange, Text.inRanges]
  | cons range rest ih =>
    obtain ⟨a, b⟩ := range
    have cons (more : List (Nat × Nat)) : Text.inRanges ((a, b) :: more) c = true ↔
        (a ≤ c.toNat ∧ c.toNat ≤ b) ∨ Text.inRanges more c = true := by
      simp [Text.inRanges]
    rw [insertRange, cons]
    split_ifs with before behind
    · simp [Text.inRanges]
    · rw [cons, ih]
      exact or_left_comm
    · rw [ih, ← or_assoc]
      exact or_congr_left (by omega)

@[simp] theorem contains_none (c : Char) : none.contains c = false := rfl

@[simp] theorem contains_union (a b : CharSet) (c : Char) :
    (a.union b).contains c = true ↔ a.contains c = true ∨ b.contains c = true := by
  obtain ⟨ranges⟩ := a
  simp only [contains, union]
  induction ranges with
  | nil => simp [Text.inRanges]
  | cons range rest ih =>
    rw [List.foldr_cons, inRanges_insertRange, ih, ← or_assoc]
    simp [Text.inRanges]

@[simp] theorem contains_single (code c : Char) :
    (single code.toNat).contains c = true ↔ c = code := by
  simp only [single, contains, Text.inRanges, List.any_cons, List.any_nil, Bool.or_false,
    Bool.and_eq_true, decide_eq_true_eq]
  rw [← Nat.le_antisymm_iff, Char.toNat_inj, eq_comm]

end CharSet

namespace Pattern

variable {start stop : Cut}

theorem matches_ofSet (characters : CharSet) (ofBytes : Bool) :
    (ofSet characters ofBytes).Matches = Cut.ReadsOneOf characters := by
  unfold ofSet
  split
  · next code last ranges =>
    split
    · next single =>
      obtain ⟨rfl, valid⟩ := single
      have toNat : (Char.ofNat code).toNat = code := by
        rw [Char.ofNat, dif_pos valid]
        rfl
      have contains (c : Char) : characters.contains c = true ↔ c = Char.ofNat code := by
        rw [← CharSet.contains_single, toNat, CharSet.contains, ranges]
        rfl
      funext start stop
      simp [Matches, Cut.ReadsOneOf, contains]
    · rfl
  · rfl
  · rfl

/-! ### One behind the other -/

theorem matchInOrder_append (first second : List Pattern) :
    MatchInOrder (first ++ second) = Relation.Comp (MatchInOrder first) (MatchInOrder second) := by
  induction first with
  | nil => exact Relation.eq_comp.symm
  | cons part rest ih => rw [List.cons_append, MatchInOrder, MatchInOrder, ih, Relation.comp_assoc]

theorem matchInOrder_singleton (part : Pattern) : MatchInOrder [part] = part.Matches :=
  Relation.comp_eq

theorem matchInOrder_joined (parts : List Pattern) :
    MatchInOrder (joined parts) = MatchInOrder parts := by
  fun_induction joined parts with
  | case1 => rfl
  | case2 front rest behind more step ih =>
    rw [MatchInOrder, Matches, Cut.reads_append, Relation.comp_assoc]
    rw [step] at ih
    rw [MatchInOrder, ← ih]
    rfl
  | case3 front rest other ih => rw [MatchInOrder, MatchInOrder, ih]
  | case4 part rest other ih => rw [MatchInOrder, MatchInOrder, ih]

theorem matchInOrder_flatParts (part : Pattern) : MatchInOrder part.flatParts = part.Matches := by
  cases part <;> first | rfl | exact matchInOrder_singleton _

/-- Patterns in order match one behind the other. -/
theorem matches_inOrder (parts : List Pattern) : (inOrder parts).Matches = MatchInOrder parts := by
  have flat : MatchInOrder (joined (parts.flatMap flatParts)) = MatchInOrder parts := by
    rw [matchInOrder_joined]
    induction parts with
    | nil => rfl
    | cons part rest ih =>
      rw [List.flatMap_cons, matchInOrder_append, matchInOrder_flatParts, ih, MatchInOrder]
  rw [← flat, inOrder]
  split
  · next nothing => rw [nothing]; rfl
  · next part one => rw [one, matchInOrder_singleton]
  · rfl

/-! ### One of several -/

theorem oneMatches_iff {branches : List Pattern} :
    OneMatches branches start stop ↔ ∃ branch ∈ branches, branch.Matches start stop := by
  induction branches with
  | nil => simp [OneMatches]
  | cons branch rest ih => simp [OneMatches, ih]

theorem oneMatches_flatBranches {branch : Pattern} :
    OneMatches branch.flatBranches start stop ↔ branch.Matches start stop := by
  cases branch <;> simp [flatBranches, OneMatches, Matches]

theorem oneMatches_flatMap {branches : List Pattern} :
    OneMatches (branches.flatMap flatBranches) start stop ↔ OneMatches branches start stop := by
  simp only [oneMatches_iff, List.mem_flatMap]
  constructor
  · rintro ⟨inner, ⟨branch, member, inBranch⟩, matched⟩
    have matched : OneMatches branch.flatBranches start stop :=
      oneMatches_iff.mpr ⟨inner, inBranch, matched⟩
    exact ⟨branch, member, oneMatches_flatBranches.mp matched⟩
  · rintro ⟨branch, member, matched⟩
    obtain ⟨inner, inBranch, matched⟩ := oneMatches_iff.mp (oneMatches_flatBranches.mpr matched)
    exact ⟨inner, ⟨branch, member, inBranch⟩, matched⟩

theorem mapM_cons_eq_some {α β : Type} {f : α → Option β} {a : α} {as : List α} {bs : List β}
    (found : (a :: as).mapM f = some bs) :
    ∃ b rest, f a = some b ∧ as.mapM f = some rest ∧ b :: rest = bs := by
  rw [List.mapM_cons] at found
  obtain ⟨b, first, found⟩ := Option.bind_eq_some_iff.mp found
  obtain ⟨rest, more, found⟩ := Option.bind_eq_some_iff.mp found
  exact ⟨b, rest, first, more, Option.some.inj found⟩

theorem matches_of_single? {branch : Pattern} {characters : CharSet}
    (single : branch.single? = some characters) : branch.Matches = Cut.ReadsOneOf characters := by
  fun_cases single? branch with
  | case1 c =>
    obtain rfl := Option.some.inj single
    funext start stop
    simp [Matches, Cut.ReadsOneOf]
  | case2 => simp [single?, *] at single

theorem matches_of_set? {branch : Pattern} {characters : CharSet}
    (set : branch.set? = some characters) : branch.Matches = Cut.ReadsOneOf characters := by
  fun_cases set? branch with
  | case1 =>
    obtain rfl := Option.some.inj set
    rfl
  | case2 => simp [set?, *] at set

/-- Sets of characters in place of branches, one for each. -/
theorem oneMatches_of_mapM {toSet? : Pattern → Option CharSet}
    (matches_of : ∀ {branch characters}, toSet? branch = some characters →
      branch.Matches = Cut.ReadsOneOf characters)
    {branches : List Pattern} {sets : List CharSet} (found : branches.mapM toSet? = some sets) :
    OneMatches branches = Cut.ReadsOneOf (sets.foldr CharSet.union .none) := by
  induction branches generalizing sets with
  | nil =>
    obtain rfl := Option.some.inj found
    funext start stop
    simp [OneMatches, Cut.ReadsOneOf]
  | cons branch rest ih =>
    obtain ⟨first, others, single, more, rfl⟩ := mapM_cons_eq_some found
    funext start stop
    simp only [OneMatches, matches_of single, ih more, Cut.ReadsOneOf, List.foldr_cons,
      CharSet.contains_union, or_and_right, exists_or]

theorem oneMatches_of_choiceSet? {branches : List Pattern} {characters : CharSet}
    (found : choiceSet? branches = some characters) :
    OneMatches branches = Cut.ReadsOneOf characters := by
  obtain ⟨sets, either, rfl⟩ := Option.map_eq_some_iff.mp found
  obtain singles | ⟨_, sets⟩ := Option.or_eq_some_iff.mp either
  · exact oneMatches_of_mapM matches_of_single? singles
  · exact oneMatches_of_mapM matches_of_set? sets

theorem matches_oneOfApart (branches : List Pattern) :
    (oneOfApart branches).Matches = OneMatches branches := by
  have flat : OneMatches (branches.flatMap flatBranches) = OneMatches branches := by
    funext start stop
    exact propext oneMatches_flatMap
  rw [← flat, oneOfApart]
  split
  · next branch one =>
    funext start stop
    simp [one, OneMatches]
  · split
    · next characters found => rw [matches_ofSet, oneMatches_of_choiceSet? found]
    · rfl

/-! ### What all branches begin with -/

mutual

theorem eq_of_same : ∀ {a b : Pattern}, same a b = true → a = b
  | .empty, b, equal => by cases b <;> simp [same] at equal ⊢
  | .text _, b, equal => by cases b <;> simp [same] at equal ⊢; exact equal
  | .set _ _, b, equal => by cases b <;> simp [same] at equal ⊢; exact equal
  | .look _, b, equal => by cases b <;> simp [same] at equal ⊢; exact equal
  | .sequence _, b, equal => by
      cases b <;> simp only [same, Bool.false_eq_true] at equal
      exact congrArg sequence (eq_of_sameAll equal)
  | .choice _, b, equal => by
      cases b <;> simp only [same, Bool.false_eq_true] at equal
      exact congrArg choice (eq_of_sameAll equal)
  | .repeated _ _ _, b, equal => by
      cases b <;> simp only [same, Bool.false_eq_true, Bool.and_eq_true, beq_iff_eq] at equal
      obtain ⟨⟨rfl, rfl⟩, inner⟩ := equal
      rw [eq_of_same inner]
  | .group _ _, b, equal => by
      cases b <;> simp only [same, Bool.false_eq_true, Bool.and_eq_true, beq_iff_eq] at equal
      obtain ⟨rfl, inner⟩ := equal
      rw [eq_of_same inner]

theorem eq_of_sameAll : ∀ {as bs : List Pattern}, sameAll as bs = true → as = bs
  | [], bs, equal => by cases bs <;> simp [sameAll] at equal ⊢
  | a :: as, bs, equal => by
      cases bs with
      | nil => simp [sameAll] at equal
      | cons b bs =>
        obtain ⟨first, rest⟩ := Bool.and_eq_true_iff.mp equal
        rw [eq_of_same first, eq_of_sameAll rest]

end

theorem take_commonLength : ∀ first other : List Pattern,
    first.take (commonLength first other) = other.take (commonLength first other)
  | [], _ => by simp [commonLength]
  | _ :: _, [] => by simp [commonLength]
  | a :: as, b :: bs => by
    rw [commonLength]
    split
    · next equal =>
      rw [List.take_succ_cons, List.take_succ_cons, eq_of_same equal, take_commonLength]
    · rfl

theorem eq_map_of_mapM_parts? {branches : List Pattern} {sequences : List (List Pattern)}
    (found : branches.mapM parts? = some sequences) : branches = sequences.map .sequence := by
  induction branches generalizing sequences with
  | nil =>
    obtain rfl := Option.some.inj found
    rfl
  | cons branch rest ih =>
    obtain ⟨parts, others, first, more, rfl⟩ := mapM_cons_eq_some found
    rw [List.map_cons, ← ih more]
    cases branch <;> simp_all [parts?]

theorem foldl_min_le {α : Type} (f : α → Nat) (list : List α) (start : Nat) :
    list.foldl (fun n a => min n (f a)) start ≤ start ∧
      ∀ a ∈ list, list.foldl (fun n a => min n (f a)) start ≤ f a := by
  induction list generalizing start with
  | nil => simp
  | cons first rest ih =>
    obtain ⟨atMost, each⟩ := ih (min start (f first))
    rw [List.foldl_cons, List.forall_mem_cons]
    exact ⟨Nat.le_trans atMost (Nat.min_le_left _ _), Nat.le_trans atMost (Nat.min_le_right _ _),
      each⟩

/-- All branches begin with the parts that `commonStart?` finds. -/
theorem take_of_commonStart? {branches : List Pattern} {length : Nat}
    {sequences : List (List Pattern)} (found : commonStart? branches = some (length, sequences)) :
    branches = sequences.map sequence ∧
      ∀ parts ∈ sequences, parts.take length = (sequences.headD []).take length := by
  rw [commonStart?] at found
  obtain ⟨all, each, found⟩ := Option.bind_eq_some_iff.mp found
  obtain ⟨first, head, found⟩ := Option.bind_eq_some_iff.mp found
  obtain ⟨rest, rfl⟩ := List.head?_eq_some_iff.mp head
  dsimp only at found
  split at found
  · contradiction
  · obtain ⟨rfl, rfl⟩ := Prod.mk.inj (Option.some.inj found)
    refine ⟨eq_map_of_mapM_parts? each, fun parts member => ?_⟩
    obtain rfl | member := List.mem_cons.mp member
    · rfl
    · have bounded := (foldl_min_le (commonLength first) rest first.length).2 parts member
      rw [List.tail_cons, ← Nat.min_eq_left bounded, ← List.take_take, ← take_commonLength first,
        List.take_take]
      rfl

/-- What all branches begin with can stand in front of the choice. -/
theorem oneMatches_common (common : List Pattern) (ends : List (List Pattern)) :
    OneMatches (ends.map fun parts => sequence (common ++ parts)) =
      Relation.Comp (MatchInOrder common) (OneMatches (ends.map inOrder)) := by
  induction ends with
  | nil =>
    funext start stop
    simp [OneMatches, Relation.Comp]
  | cons parts rest ih =>
    funext start stop
    simp only [List.map_cons, OneMatches, ih, Matches, matches_inOrder, matchInOrder_append,
      Relation.Comp, and_or_left, exists_or]

/-- One of several matches where any of them does. -/
theorem matches_oneOf (branches : List Pattern) :
    (oneOf branches).Matches = OneMatches branches := by
  rw [← matches_oneOfApart, oneOf]
  split
  · next several apart =>
    rw [apart]
    split
    · rfl
    · next length sequences found =>
      obtain ⟨rfl, common⟩ := take_of_commonStart? found
      have split : sequences.map sequence = (sequences.map (List.drop length)).map fun parts =>
          sequence ((sequences.headD []).take length ++ parts) := by
        rw [List.map_map]
        refine List.map_congr_left fun parts member => ?_
        rw [Function.comp_apply, ← common parts member, List.take_append_drop]
      rw [matches_inOrder, matchInOrder_append, matchInOrder_singleton, matches_oneOfApart, Matches,
        split, oneMatches_common, List.map_map]
      rfl
  · rfl

/-! ### In a row -/

mutual

theorem eq_of_readsNothing : ∀ {pattern : Pattern} {start stop : Cut},
    pattern.readsNothing = true → pattern.Matches start stop → start = stop
  | .empty, _, _, _, matched => matched
  | .look _, _, _, _, matched => matched.2
  | .sequence _, _, _, nothing, matched => (eq_of_allReadNothing nothing).1 matched
  | .choice _, _, _, nothing, matched => (eq_of_allReadNothing nothing).2 matched
  | .repeated inner _ _, _, _, nothing, ⟨_, _, rounds⟩ =>
      rounds.eq_of fun _ _ => eq_of_readsNothing (show inner.readsNothing = true from nothing)
  | .group _ inner, start, stop, nothing, matched =>
      eq_of_readsNothing (show inner.readsNothing = true from nothing)
        (show inner.Matches start stop from matched)

theorem eq_of_allReadNothing : ∀ {parts : List Pattern} {start stop : Cut},
    allReadNothing parts = true →
      (MatchInOrder parts start stop → start = stop) ∧ (OneMatches parts start stop → start = stop)
  | [], _, _, _ => ⟨id, False.elim⟩
  | part :: rest, start, stop, nothing => by
      obtain ⟨first, others⟩ := Bool.and_eq_true_iff.mp nothing
      constructor
      · rintro ⟨middle, one, more⟩
        exact (eq_of_readsNothing first one).trans ((eq_of_allReadNothing others).1 more)
      · rintro (one | more)
        · exact eq_of_readsNothing first one
        · exact (eq_of_allReadNothing others).2 more

end

/-- Rounds that do not go on are as good as one of them. -/
theorem allowedRounds_once {round : Cut → Cut → Prop} (times : Times)
    (stays : ∀ start stop, round start stop → start = stop) :
    AllowedRounds times.once round start stop ↔ AllowedRounds times round start stop := by
  have allows (count : Nat) : times.once.Allows count ↔
      min times.least 1 ≤ count ∧ count ≤ min (times.most.getD 1) 1 := by
    simp [Times.Allows, Times.once]
  simp only [AllowedRounds, allows]
  obtain ⟨least, most, ordered⟩ := times
  constructor
  · rintro ⟨count, ⟨enough, bounded⟩, rounds⟩
    cases count with
    | zero => exact ⟨0, ⟨by dsimp only at enough ⊢; omega, fun _ _ => Nat.zero_le _⟩, rounds⟩
    | succ count =>
      refine ⟨least - 1 + 1, ⟨by dsimp only; omega, ?_⟩, rounds.again stays _⟩
      rintro most rfl
      have : least ≤ most := by simpa using ordered
      simp only [Option.getD_some] at bounded
      omega
  · rintro ⟨count, ⟨enough, bounded⟩, rounds⟩
    cases count with
    | zero => exact ⟨0, ⟨by dsimp only at enough ⊢; omega, Nat.zero_le _⟩, rounds⟩
    | succ count =>
      refine ⟨1, ⟨Nat.min_le_right _ _, ?_⟩, rounds.again stays 0⟩
      cases most with
      | none => exact Nat.le_refl 1
      | some most =>
        have : count + 1 ≤ most := bounded most rfl
        simp only [Option.getD_some]
        omega

theorem allowedRounds_none {times : Times} {round : Cut → Cut → Prop}
    (never : times.most = some 0) : AllowedRounds times round start stop ↔ start = stop := by
  obtain ⟨least, most, ordered⟩ := times
  subst never
  obtain rfl : least = 0 := by simpa using ordered
  simp [AllowedRounds, Times.Allows, Rounds.zero_iff]

theorem allowedRounds_one {times : Times} {round : Cut → Cut → Prop}
    (one : times.least = 1 ∧ times.most = some 1) :
    AllowedRounds times round start stop ↔ round start stop := by
  have allows (count : Nat) : times.Allows count ↔ count = 1 := by
    simp only [Times.Allows, one, Option.mem_some_iff, forall_eq']
    omega
  simp [AllowedRounds, allows, Rounds.succ_iff, Rounds.zero_iff]

/-- A pattern in a row matches any number of times that is allowed. -/
theorem matches_inRow (inner : Pattern) (times : Times) (eager : Bool) :
    (inner.inRow times eager).Matches = AllowedRounds times inner.Matches := by
  have same : AllowedRounds (if inner.readsNothing then times.once else times) inner.Matches =
      AllowedRounds times inner.Matches := by
    split
    · next nothing =>
      funext start stop
      exact propext (allowedRounds_once times fun _ _ => eq_of_readsNothing nothing)
    · rfl
  rw [← same, inRow]
  generalize (if inner.readsNothing then times.once else times) = allowed
  split
  · next never =>
    funext start stop
    exact propext (allowedRounds_none never).symm
  · split
    · next one =>
      funext start stop
      exact propext (allowedRounds_one one).symm
    · rfl

end Pattern

end LiteralLang
