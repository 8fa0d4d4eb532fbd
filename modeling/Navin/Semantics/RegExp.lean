import Mathlib.Data.List.Basic
import Mathlib.Logic.Function.Iterate

/-! Regular expressions of the language, without flags: classes of units, sequences,
repetitions, and the two anchors, which hold at the ends of the text alone. Whether a text
matches does not depend on which match is preferred. -/
inductive RegExp (U : Type) where
  | set (accepts : U → Bool)
  | start
  | stop
  | seq (first second : RegExp U)
  | star (body : RegExp U)

namespace RegExp

variable {U : Type}

/-- A position in a text: what is before it, last unit first, and what comes after. -/
abbrev Position (U : Type) : Type :=
  List U × List U

/-- After one unit that is accepted. -/
def advance (accepts : U → Bool) : Position U → List (Position U)
  | (before, unit :: after) => if accepts unit then [(unit :: before, after)] else []
  | (_, []) => []

/-- Where the matches from a position end. -/
def ends : RegExp U → Position U → List (Position U)
  | .set accepts, position => advance accepts position
  | .start, position => if position.1.isEmpty then [position] else []
  | .stop, position => if position.2.isEmpty then [position] else []
  | .seq first second, position => (ends first position).flatMap (ends second)
  | .star body, position =>
      -- a further round that consumes nothing would not lead anywhere new
      (List.range (position.2.length + 1)).flatMap fun rounds =>
        Nat.iterate (fun positions : List (Position U) => positions.flatMap (ends body)) rounds
          [position]

/-- `regex.test(text)`: there is a match somewhere in the text. -/
def test (regex : RegExp U) (text : List U) : Bool :=
  (List.range (text.length + 1)).any fun i =>
    !(ends regex ((text.take i).reverse, text.drop i)).isEmpty

section Matches

variable {accepts : U → Bool} {position last : Position U}

theorem mem_advance : last ∈ advance accepts position ↔
    ∃ unit after, position.2 = unit :: after ∧ accepts unit = true ∧
      last = (unit :: position.1, after) := by
  obtain ⟨before, _ | ⟨unit, after⟩⟩ := position
  · simp [advance]
  · rw [advance]
    split <;> simp_all

theorem mem_ends_seq {first second : RegExp U} : last ∈ (seq first second).ends position ↔
    ∃ middle ∈ first.ends position, last ∈ second.ends middle := by
  rw [ends, List.mem_flatMap]

/-- Rounds of a class consume a run of its units. -/
theorem mem_iterate_set (rounds : Nat) (positions : List (Position U)) :
    last ∈ Nat.iterate (fun positions => positions.flatMap (ends (set accepts))) rounds positions ↔
      ∃ position ∈ positions, ∃ units, position.2 = units ++ last.2 ∧ units.length = rounds ∧
        (∀ unit ∈ units, accepts unit = true) ∧ last.1 = units.reverse ++ position.1 := by
  induction rounds generalizing positions with
  | zero =>
      constructor
      · exact fun h => ⟨last, h, [], rfl, rfl, nofun, rfl⟩
      · rintro ⟨position, hPosition, units, hAfter, hNone, -, hBefore⟩
        rw [List.length_eq_zero_iff.mp hNone] at hAfter hBefore
        rwa [show last = position from Prod.ext hBefore hAfter.symm]
  | succ rounds ih =>
      rw [Function.iterate_succ_apply, ih]
      constructor
      · rintro ⟨middle, hMiddle, units, hAfter, hLength, hUnits, hBefore⟩
        obtain ⟨position, hPosition, hStep⟩ := List.mem_flatMap.mp hMiddle
        obtain ⟨unit, after, hText, hUnit, rfl⟩ := mem_advance.mp hStep
        refine ⟨position, hPosition, unit :: units, ?_, congrArg (· + 1) hLength, ?_, ?_⟩
        · rw [hText, List.cons_append, ← hAfter]
        · exact List.forall_mem_cons.mpr ⟨hUnit, hUnits⟩
        · rw [hBefore, List.reverse_cons, List.append_assoc]
          rfl
      · rintro ⟨position, hPosition, units, hAfter, hLength, hUnits, hBefore⟩
        obtain ⟨unit, units, rfl⟩ := List.exists_cons_of_length_eq_add_one hLength
        obtain ⟨hUnit, hUnits⟩ := List.forall_mem_cons.mp hUnits
        refine ⟨(unit :: position.1, units ++ last.2), ?_, units, rfl, ?_, hUnits, ?_⟩
        · exact List.mem_flatMap.mpr ⟨position, hPosition, mem_advance.mpr
            ⟨unit, units ++ last.2, hAfter, hUnit, rfl⟩⟩
        · exact Nat.succ.inj hLength
        · rw [hBefore, List.reverse_cons, List.append_assoc]
          rfl

theorem mem_ends_star_set : last ∈ (star (set accepts)).ends position ↔
    ∃ units, position.2 = units ++ last.2 ∧ (∀ unit ∈ units, accepts unit = true) ∧
      last.1 = units.reverse ++ position.1 := by
  rw [ends, List.mem_flatMap]
  constructor
  · rintro ⟨rounds, -, hLast⟩
    obtain ⟨_, hPosition, units, hAfter, -, hUnits, hBefore⟩ := (mem_iterate_set _ _).mp hLast
    rw [List.mem_singleton.mp hPosition] at hAfter hBefore
    exact ⟨units, hAfter, hUnits, hBefore⟩
  · rintro ⟨units, hAfter, hUnits, hBefore⟩
    have hRounds : units.length < position.2.length + 1 := by
      rw [hAfter, List.length_append]
      omega
    exact ⟨units.length, List.mem_range.mpr hRounds, (mem_iterate_set _ _).mpr
      ⟨position, List.mem_singleton_self _, units, hAfter, rfl, hUnits, hBefore⟩⟩

/-- A pattern between both anchors matches the whole text. -/
theorem test_anchored (regex : RegExp U) (text : List U) :
    (seq start (seq regex stop)).test text = true ↔
      ∃ before, (before, []) ∈ regex.ends ([], text) := by
  have hEnds : ∀ before after,
      ((seq start (seq regex stop)).ends (before, after)).isEmpty = false ↔
        before = [] ∧ ∃ read, (read, []) ∈ regex.ends ([], after) := by
    intro before after
    rw [List.isEmpty_eq_false_iff_exists_mem]
    simp only [mem_ends_seq]
    constructor
    · rintro ⟨last, first, hFirst, middle, hMiddle, hLast⟩
      obtain ⟨hBefore, rfl⟩ : before = [] ∧ first = (before, after) := by
        simpa [ends] using hFirst
      obtain ⟨hAfter, -⟩ : middle.2 = [] ∧ last = middle := by
        simpa [ends] using hLast
      subst hBefore
      exact ⟨rfl, middle.1, hAfter ▸ hMiddle⟩
    · rintro ⟨rfl, read, hRead⟩
      exact ⟨(read, []), ([], after), by simp [ends], (read, []), hRead, by simp [ends]⟩
  rw [test, List.any_eq_true]
  simp only [Bool.not_eq_true', hEnds, List.mem_range]
  constructor
  · rintro ⟨i, -, hStart, before, hRead⟩
    have hAll : text.drop i = text := by
      rcases List.take_eq_nil_iff.mp (List.reverse_eq_nil_iff.mp hStart) with rfl | rfl
      · exact List.drop_zero
      · exact List.drop_nil
    exact ⟨before, hAll ▸ hRead⟩
  · rintro ⟨before, hRead⟩
    exact ⟨0, Nat.succ_pos _, rfl, before, hRead⟩

end Matches

end RegExp
