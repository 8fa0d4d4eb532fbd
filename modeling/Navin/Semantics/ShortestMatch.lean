import Mathlib.Data.List.Infix
import Navin.Semantics.Pcre

/-! How short a match of a regular expression can be. Without a quantifier that asks for more
than one round, a pattern with an operator has a match that is shorter than the pattern, so
that it does not find exactly the texts that hold it. -/
namespace Pcre

section Matches

variable [CaseTable] {first second body : Regex} {before mid after : List Char}

/-- The expression takes the middle of a text. -/
def Matches (regex : Regex) (before mid after : List Char) : Prop :=
  (mid.reverse ++ before, after) ∈ ends regex (before, mid ++ after)

/-- What is between two positions of a text. -/
def Between (start stop : Position) (mid : List Char) : Prop :=
  start.2 = mid ++ stop.2 ∧ stop.1 = mid.reverse ++ start.1

omit [CaseTable] in
theorem Between.trans {start stop last : Position} {mid more : List Char}
    (h : Between start stop mid) (h' : Between stop last more) :
    Between start last (mid ++ more) := by
  constructor
  · rw [h.1, h'.1, List.append_assoc]
  · rw [h'.2, h.2, List.reverse_append, List.append_assoc]

omit [CaseTable] in
theorem between_of_mem_advance {accepts : Char → Bool} {start stop : Position}
    (h : stop ∈ advance accepts start) :
    ∃ char, Between start stop [char] ∧ accepts char = true := by
  obtain ⟨before, text⟩ := start
  cases text with
  | nil => exact absurd h List.not_mem_nil
  | cons char rest =>
      rw [advance] at h
      split at h
      · rename_i hAccepts
        obtain rfl := List.mem_singleton.mp h
        exact ⟨char, ⟨rfl, rfl⟩, hAccepts⟩
      · exact absurd h List.not_mem_nil

/-- Rounds that go forward lead forward. -/
theorem exists_between_of_iterate
    (hBody : ∀ {start stop}, stop ∈ ends body start → ∃ mid, Between start stop mid)
    {starts : List Position} {stop : Position} (rounds : Nat)
    (h : stop ∈ (fun positions : List Position => positions.flatMap (ends body))^[rounds] starts) :
    ∃ start ∈ starts, ∃ mid, Between start stop mid := by
  induction rounds generalizing stop with
  | zero => exact ⟨stop, h, [], rfl, rfl⟩
  | succ rounds ih =>
      rw [Function.iterate_succ_apply'] at h
      obtain ⟨next, hNext, hLast⟩ := List.mem_flatMap.mp h
      obtain ⟨start, hStart, mid, hMid⟩ := ih hNext
      obtain ⟨round, hRound⟩ := hBody hLast
      exact ⟨start, hStart, mid ++ round, hMid.trans hRound⟩

/-- A match goes forward. -/
theorem exists_between {regex : Regex} {start stop : Position} (h : stop ∈ ends regex start) :
    ∃ mid, Between start stop mid := by
  induction regex generalizing start stop with
  | empty =>
      obtain rfl := List.mem_singleton.mp h
      exact ⟨[], rfl, rfl⟩
  | literal char =>
      obtain ⟨other, hBetween, -⟩ := between_of_mem_advance h
      exact ⟨[other], hBetween⟩
  | any =>
      obtain ⟨other, hBetween, -⟩ := between_of_mem_advance h
      exact ⟨[other], hBetween⟩
  | set negated ranges =>
      obtain ⟨other, hBetween, -⟩ := between_of_mem_advance h
      exact ⟨[other], hBetween⟩
  | start =>
      rw [ends] at h
      split at h
      · obtain rfl := List.mem_singleton.mp h
        exact ⟨[], rfl, rfl⟩
      · exact absurd h List.not_mem_nil
  | stop =>
      rw [ends] at h
      split at h
      · obtain rfl := List.mem_singleton.mp h
        exact ⟨[], rfl, rfl⟩
      · exact absurd h List.not_mem_nil
  | seq first second ihFirst ihSecond =>
      obtain ⟨next, hNext, hStop⟩ := List.mem_flatMap.mp h
      obtain ⟨mid, hMid⟩ := ihFirst hNext
      obtain ⟨more, hMore⟩ := ihSecond hStop
      exact ⟨mid ++ more, hMid.trans hMore⟩
  | alt first second ihFirst ihSecond =>
      rcases List.mem_append.mp h with h | h
      · exact ihFirst h
      · exact ihSecond h
  | repeated body min max ih =>
      obtain ⟨more, -, hStop⟩ := List.mem_flatMap.mp h
      obtain ⟨start, hStart, hBetween⟩ := exists_between_of_iterate ih _ hStop
      obtain rfl := List.mem_singleton.mp hStart
      exact hBetween

omit [CaseTable] in
theorem matches_advance {accepts : Char → Bool} :
    (mid.reverse ++ before, after) ∈ advance accepts (before, mid ++ after) ↔
      ∃ char, mid = [char] ∧ accepts char = true := by
  constructor
  · intro h
    obtain ⟨char, hBetween, hAccepts⟩ := between_of_mem_advance h
    exact ⟨char, List.append_cancel_right hBetween.1, hAccepts⟩
  · rintro ⟨char, rfl, hAccepts⟩
    exact List.mem_of_mem_head? (by simp [advance, hAccepts])

theorem matches_start : Matches .start before mid after ↔ mid = [] ∧ before = [] := by
  rw [Matches, ends]
  split
  · rename_i hBefore
    obtain rfl : before = [] := hBefore
    simp
  · rename_i hBefore
    exact iff_of_false List.not_mem_nil fun h => hBefore h.2

theorem matches_stop :
    Matches .stop before mid after ↔ mid = [] ∧ (after = [] ∨ after = ['\n']) := by
  rw [Matches, ends]
  split
  · rename_i hAfter
    rw [List.mem_singleton]
    constructor
    · intro h
      obtain rfl : mid = [] := List.self_eq_append_left.mp (congrArg Prod.snd h)
      exact ⟨rfl, hAfter⟩
    · rintro ⟨rfl, -⟩
      rfl
  · rename_i hAfter
    refine iff_of_false List.not_mem_nil ?_
    rintro ⟨rfl, h⟩
    exact hAfter h

theorem matches_seq : Matches (.seq first second) before mid after ↔
    ∃ m m', mid = m ++ m' ∧ Matches first before m (m' ++ after) ∧
      Matches second (m.reverse ++ before) m' after := by
  constructor
  · intro h
    obtain ⟨⟨before', text⟩, hFirst, hSecond⟩ := List.mem_flatMap.mp h
    obtain ⟨m, hText, rfl⟩ := exists_between hFirst
    obtain ⟨m', rfl, hBefore⟩ := exists_between hSecond
    rw [← List.append_assoc] at hText
    obtain rfl : mid = m ++ m' := List.append_cancel_right hText
    refine ⟨m, m', rfl, ?_, ?_⟩
    · rw [Matches, ← List.append_assoc]
      exact hFirst
    · rw [Matches, ← List.append_assoc, ← List.reverse_append]
      exact hSecond
  · rintro ⟨m, m', rfl, hFirst, hSecond⟩
    refine List.mem_flatMap.mpr ⟨(m.reverse ++ before, m' ++ after), ?_, ?_⟩
    · rw [List.append_assoc]
      exact hFirst
    · rw [List.reverse_append, List.append_assoc]
      exact hSecond

theorem matches_alt : Matches (.alt first second) before mid after ↔
    Matches first before mid after ∨ Matches second before mid after :=
  List.mem_append

/-- The first round of a repetition that asks for one. -/
theorem matches_repeated_one {max : Option Nat} (h : Matches (.repeated body 1 max) before mid after) :
    ∃ m m', mid = m ++ m' ∧ Matches body before m (m' ++ after) := by
  obtain ⟨more, -, hStop⟩ := List.mem_flatMap.mp h
  rw [Nat.add_comm, Function.iterate_add_apply] at hStop
  obtain ⟨⟨before', text⟩, hFirst, rest, hRest⟩ :=
    exists_between_of_iterate exists_between _ hStop
  have hRound := (List.mem_flatMap.mp hFirst).elim fun start hStart =>
    List.mem_singleton.mp hStart.1 ▸ hStart.2
  obtain ⟨m, hText, rfl⟩ := exists_between hRound
  obtain ⟨rfl, -⟩ := hRest
  refine ⟨m, rest, ?_, ?_⟩
  · exact List.append_cancel_right (hText.trans (List.append_assoc m rest after).symm)
  · rw [Matches, ← hText]
    exact hRound

theorem repeated_zero (max : Option Nat) : Matches (.repeated body 0 max) before [] after :=
  List.mem_flatMap.mpr ⟨0, List.mem_range.mpr (Nat.succ_pos _), List.mem_singleton.mpr rfl⟩

theorem repeated_one (max : Option Nat) (h : Matches body before mid after) :
    Matches (.repeated body 1 max) before mid after := by
  refine List.mem_flatMap.mpr ⟨0, List.mem_range.mpr (Nat.succ_pos _), ?_⟩
  exact List.mem_flatMap.mpr ⟨_, List.mem_singleton.mpr rfl, h⟩

end Matches

section Shortening

/-- How many characters are taken if every repetition goes round once. -/
def Regex.atoms : Regex → Nat
  | .empty | .start | .stop => 0
  | .literal _ | .any | .set _ _ => 1
  | .seq first second | .alt first second => first.atoms + second.atoms
  | .repeated body _ _ => body.atoms

/-- No quantifier asks for more than one round. -/
def Regex.Uncounted : Regex → Prop
  | .seq first second | .alt first second => first.Uncounted ∧ second.Uncounted
  | .repeated body min _ => min ≤ 1 ∧ body.Uncounted
  | _ => True

variable [CaseTable] {regex : Regex} {before mid after : List Char}

/-- The text is taken in every context that is no longer. -/
def TakenShort (regex : Regex) (before after short : List Char) : Prop :=
  ∀ before' after', (before = [] → before' = []) → after'.Sublist after →
    Matches regex before' short after'

omit [CaseTable] in
theorem advance_short {accepts : Char → Bool}
    (h : (mid.reverse ++ before, after) ∈ advance accepts (before, mid ++ after)) :
    mid.length ≤ 1 ∧ ∀ before' after',
      (mid.reverse ++ before', after') ∈ advance accepts (before', mid ++ after') := by
  obtain ⟨char, rfl, hAccepts⟩ := matches_advance.mp h
  exact ⟨Nat.le_refl 1, fun before' after' => matches_advance.mpr ⟨char, rfl, hAccepts⟩⟩

/-- A match can be shortened until it has no more characters than the expression. -/
theorem exists_short (hCounts : regex.Uncounted) (h : Matches regex before mid after) :
    ∃ short : List Char, short.Sublist mid ∧ short.length ≤ regex.atoms ∧
      TakenShort regex before after short := by
  induction regex generalizing before mid after with
  | empty =>
      exact ⟨[], List.nil_sublist mid, Nat.le_refl 0, fun _ _ _ _ => List.mem_singleton.mpr rfl⟩
  | literal char =>
      obtain ⟨hLength, hAll⟩ := advance_short h
      exact ⟨mid, .refl mid, hLength, fun before' after' _ _ => hAll before' after'⟩
  | any =>
      obtain ⟨hLength, hAll⟩ := advance_short h
      exact ⟨mid, .refl mid, hLength, fun before' after' _ _ => hAll before' after'⟩
  | set negated ranges =>
      obtain ⟨hLength, hAll⟩ := advance_short h
      exact ⟨mid, .refl mid, hLength, fun before' after' _ _ => hAll before' after'⟩
  | start =>
      obtain ⟨-, hStart⟩ := matches_start.mp h
      exact ⟨[], List.nil_sublist mid, Nat.le_refl 0, fun _ _ hBefore _ =>
        matches_start.mpr ⟨rfl, hBefore hStart⟩⟩
  | stop =>
      obtain ⟨-, hStop⟩ := matches_stop.mp h
      refine ⟨[], List.nil_sublist mid, Nat.le_refl 0, fun before' after' _ hAfter =>
        matches_stop.mpr ⟨rfl, ?_⟩⟩
      rcases hStop with rfl | rfl
      · exact .inl (List.sublist_nil.mp hAfter)
      · exact List.sublist_singleton.mp hAfter
  | seq first second ihFirst ihSecond =>
      obtain ⟨m, m', rfl, hFirst, hSecond⟩ := matches_seq.mp h
      obtain ⟨short, hShort, hLength, hTaken⟩ := ihFirst hCounts.1 hFirst
      obtain ⟨short', hShort', hLength', hTaken'⟩ := ihSecond hCounts.2 hSecond
      refine ⟨short ++ short', hShort.append hShort', ?_, fun before' after' hBefore hAfter => ?_⟩
      · rw [List.length_append]
        exact Nat.add_le_add hLength hLength'
      · refine matches_seq.mpr ⟨short, short', rfl, hTaken _ _ hBefore (hShort'.append hAfter),
          hTaken' _ _ ?_ hAfter⟩
        -- nothing is before the second part only if the first one took nothing
        intro hNone
        obtain ⟨hEmpty, hStart⟩ := List.append_eq_nil_iff.mp hNone
        obtain rfl := List.reverse_eq_nil_iff.mp hEmpty
        rw [hBefore hStart, List.sublist_nil.mp hShort]
        rfl
  | alt first second ihFirst ihSecond =>
      rcases matches_alt.mp h with h | h
      · obtain ⟨short, hShort, hLength, hTaken⟩ := ihFirst hCounts.1 h
        exact ⟨short, hShort, Nat.le_add_right_of_le hLength, fun before' after' hBefore hAfter =>
          matches_alt.mpr (.inl (hTaken before' after' hBefore hAfter))⟩
      · obtain ⟨short, hShort, hLength, hTaken⟩ := ihSecond hCounts.2 h
        exact ⟨short, hShort, Nat.le_add_left_of_le hLength, fun before' after' hBefore hAfter =>
          matches_alt.mpr (.inr (hTaken before' after' hBefore hAfter))⟩
  | repeated body min max ih =>
      match min, hCounts.1 with
      | 0, _ =>
          exact ⟨[], List.nil_sublist mid, Nat.zero_le _, fun _ _ _ _ => repeated_zero max⟩
      | 1, _ =>
          obtain ⟨m, m', rfl, hRound⟩ := matches_repeated_one h
          obtain ⟨short, hShort, hLength, hTaken⟩ := ih hCounts.2 hRound
          refine ⟨short, hShort.trans (List.sublist_append_left m m'), hLength, ?_⟩
          intro before' after' hBefore hAfter
          exact repeated_one max (hTaken before' after' hBefore
            (hAfter.trans (List.sublist_append_right m' after)))

end Shortening

section Parsed

/-- One character of a pattern, where a dot is the only operator. -/
def single (char : Char) : Regex :=
  if char = '.' then .any else .literal char

/-- A pattern whose only operators are dots. -/
def dotted (pattern : List Char) : Regex :=
  pattern.foldr (fun char regex => .seq (single char) regex) .empty

/-- Something has been read. -/
def Shorter (rest chars : List Char) : Prop :=
  rest <:+ chars ∧ rest.length < chars.length

variable {chars rest tail : List Char} {char : Char} {fuel : Nat} {regex item : Regex}

theorem Shorter.of_suffix (h : rest <:+ tail) : Shorter rest (char :: tail) :=
  ⟨h.trans (List.suffix_cons char tail), Nat.lt_succ_of_le h.length_le⟩

theorem Shorter.cons (h : Shorter rest tail) : Shorter rest (char :: tail) :=
  .of_suffix h.1

theorem Shorter.trans (h : Shorter rest tail) (h' : Shorter tail chars) : Shorter rest chars :=
  ⟨h.1.trans h'.1, h.2.trans h'.2⟩

theorem shorter_of_classChar (h : classChar chars = some (char, rest)) : Shorter rest chars := by
  unfold classChar at h
  split at h
  · split at h
    · cases h
    · cases h
      exact (Shorter.of_suffix List.suffix_rfl).cons
  · cases h
  · cases h
  · cases h
    exact .of_suffix List.suffix_rfl
  · cases h

theorem shorter_of_classRanges {first : Bool} {ranges : List (Char × Char)}
    (h : classRanges fuel first chars = some (ranges, rest)) : Shorter rest chars := by
  induction fuel generalizing first chars ranges with
  | zero => cases h
  | succ fuel ih =>
      rw [classRanges] at h
      split at h
      · rename_i hClose
        rw [Bool.and_eq_true, decide_eq_true_eq] at hClose
        cases h
        obtain ⟨tail, rfl⟩ := List.head?_eq_some_iff.mp hClose.2
        exact .of_suffix List.suffix_rfl
      · obtain ⟨⟨low, after⟩, hLow, h⟩ := Option.bind_eq_some_iff.mp h
        have hRead := shorter_of_classChar hLow
        dsimp only at h
        split at h
        · cases h
          exact ((Shorter.of_suffix List.suffix_rfl).cons).trans hRead
        · obtain ⟨⟨high, after'⟩, hHigh, h⟩ := Option.bind_eq_some_iff.mp h
          dsimp only at h
          split at h
          · cases h
          · obtain ⟨⟨more, last⟩, hMore, h⟩ := Option.bind_eq_some_iff.mp h
            cases h
            exact (((ih hMore).trans (shorter_of_classChar hHigh)).cons).trans hRead
        · obtain ⟨⟨more, last⟩, hMore, h⟩ := Option.bind_eq_some_iff.mp h
          cases h
          exact (ih hMore).trans hRead

theorem shorter_of_characterClass (h : characterClass fuel chars = some (regex, rest)) :
    Shorter rest chars ∧ regex.atoms = 1 := by
  unfold characterClass at h
  split at h
  · obtain ⟨⟨ranges, last⟩, hRanges, h⟩ := Option.map_eq_some_iff.mp h
    cases h
    exact ⟨(shorter_of_classRanges hRanges).cons, rfl⟩
  · obtain ⟨⟨ranges, last⟩, hRanges, h⟩ := Option.map_eq_some_iff.mp h
    cases h
    exact ⟨shorter_of_classRanges hRanges, rfl⟩

theorem shorter_of_escaped (h : escaped chars = some (regex, rest)) :
    Shorter rest chars ∧ regex.atoms = 1 := by
  unfold escaped at h
  split at h
  · cases h
  · split at h
    · cases h
    · cases h
      exact ⟨.of_suffix List.suffix_rfl, rfl⟩

theorem suffix_of_number {n : Nat} (h : number chars = some (n, rest)) : rest <:+ chars := by
  unfold number at h
  dsimp only at h
  split at h
  · cases h
  · cases h
    exact List.dropWhile_suffix _

theorem shorter_of_bounds {bound : Nat × Option Nat} (h : bounds chars = some (bound, rest)) :
    Shorter rest chars := by
  obtain ⟨⟨min, after⟩, hMin, h⟩ := Option.bind_eq_some_iff.mp h
  have hRead {last : List Char} (hLast : Shorter last after) : Shorter last chars :=
    ⟨hLast.1.trans (suffix_of_number hMin), hLast.2.trans_le (suffix_of_number hMin).length_le⟩
  dsimp only at h
  split at h
  · cases h
    exact hRead (.of_suffix List.suffix_rfl)
  · cases h
    exact hRead (Shorter.of_suffix List.suffix_rfl).cons
  · obtain ⟨⟨max, after'⟩, hMax, h⟩ := Option.bind_eq_some_iff.mp h
    dsimp only at h
    split at h
    · cases h
      exact hRead (.of_suffix ((List.suffix_cons _ _).trans (suffix_of_number hMax)))
    · cases h
  · cases h

theorem shorter_of_quantifier {bound : Nat × Option Nat}
    (h : quantifier chars = some (bound, rest)) : Shorter rest chars := by
  unfold quantifier at h
  split at h
  · cases h
  · split_ifs at h with hStar hPlus hQuestion hOpen
    · cases h
      exact .of_suffix List.suffix_rfl
    · cases h
      exact .of_suffix List.suffix_rfl
    · cases h
      exact .of_suffix List.suffix_rfl
    · exact (shorter_of_bounds h).cons

/-- An item stays as it is, or a quantifier has been read. -/
theorem quantified_cases (h : quantified item chars = some (regex, rest)) :
    (regex = item ∧ rest = chars) ∨ Shorter rest chars ∧ regex.atoms = item.atoms := by
  unfold quantified at h
  split at h
  · cases h
    exact .inl ⟨rfl, rfl⟩
  · rename_i min max after hQuantifier
    have hShorter := shorter_of_quantifier hQuantifier
    split at h
    · cases h
    · split at h
      · cases h
      · cases h
        exact .inr ⟨(Shorter.of_suffix List.suffix_rfl).trans hShorter, rfl⟩
      · cases h
        exact .inr ⟨hShorter, rfl⟩

/-- What the parser makes of the characters it reads: fewer atoms than characters, unless
each of these is an atom of its own. -/
structure Reads (chars : List Char) (regex : Regex) (rest : List Char) : Prop where
  suffix : rest <:+ chars
  atoms : regex.atoms + rest.length < chars.length ∨
    ∃ used, chars = used ++ rest ∧ regex = dotted used

structure ReadsItem (chars : List Char) (regex : Regex) (rest : List Char) : Prop where
  suffix : rest <:+ chars
  atoms : regex.atoms + rest.length < chars.length ∨
    ∃ char, chars = char :: rest ∧ regex = single char

theorem ReadsItem.of_shorter (h : Shorter rest tail) (hAtoms : regex.atoms = 1) :
    ReadsItem (char :: tail) regex rest where
  suffix := h.cons.1
  atoms := by
    have hLength := h.2
    refine .inl ?_
    rw [List.length_cons, hAtoms]
    omega

/-- An anchor takes nothing. -/
theorem ReadsItem.of_anchor (hAtoms : regex.atoms = 0) : ReadsItem (char :: tail) regex tail where
  suffix := List.suffix_cons char tail
  atoms := .inl (by rw [hAtoms, List.length_cons]; omega)

theorem ReadsItem.of_single : ReadsItem (char :: rest) (single char) rest where
  suffix := List.suffix_cons char rest
  atoms := .inr ⟨char, rfl, rfl⟩

theorem atoms_single (char : Char) : (single char).atoms = 1 := by
  unfold single
  split <;> rfl

theorem atoms_dotted (pattern : List Char) : (dotted pattern).atoms = pattern.length := by
  induction pattern with
  | nil => rfl
  | cons char pattern ih =>
      rw [List.length_cons, ← ih, Nat.add_comm, ← atoms_single char]
      rfl

theorem ReadsItem.atoms_le (h : ReadsItem chars regex rest) :
    regex.atoms + rest.length ≤ chars.length := by
  rcases h.atoms with hFewer | ⟨char, rfl, rfl⟩
  · exact hFewer.le
  · rw [atoms_single, List.length_cons, Nat.add_comm]

theorem Reads.atoms_le (h : Reads chars regex rest) :
    regex.atoms + rest.length ≤ chars.length := by
  rcases h.atoms with hFewer | ⟨used, rfl, rfl⟩
  · exact hFewer.le
  · rw [atoms_dotted, List.length_append]

/-- An item with its quantifier, and the rest of the branch. -/
theorem Reads.of_item {quantity more : Regex} {after after' : List Char}
    (hItem : ReadsItem chars item after)
    (hQuantity : (quantity = item ∧ after' = after) ∨
      Shorter after' after ∧ quantity.atoms = item.atoms)
    (hMore : Reads after' more rest) : Reads chars (.seq quantity more) rest := by
  have hItemAtoms := hItem.atoms_le
  have hMoreAtoms := hMore.atoms_le
  rcases hQuantity with ⟨rfl, rfl⟩ | ⟨hShorter, hAtoms⟩
  · refine ⟨hMore.suffix.trans hItem.suffix, ?_⟩
    rw [Regex.atoms]
    rcases hItem.atoms with hFewer | ⟨char, rfl, rfl⟩
    · exact .inl (by omega)
    · rcases hMore.atoms with hFewer | ⟨used, rfl, rfl⟩
      · exact .inl (by omega)
      · exact .inr ⟨char :: used, rfl, rfl⟩
  · refine ⟨hMore.suffix.trans (hShorter.1.trans hItem.suffix), .inl ?_⟩
    have hLength := hShorter.2
    rw [Regex.atoms, hAtoms]
    omega

/-- The parser, one call at a time. -/
theorem parser_reads (fuel : Nat) : ∀ {chars rest : List Char} {regex : Regex},
    (alternatives fuel chars = some (regex, rest) → Reads chars regex rest) ∧
    (branch fuel chars = some (regex, rest) → Reads chars regex rest) ∧
    (atom fuel chars = some (regex, rest) → ReadsItem chars regex rest) := by
  induction fuel with
  | zero =>
      intro chars rest regex
      refine ⟨?_, ?_, ?_⟩ <;> rintro ⟨⟩
  | succ fuel ih =>
      intro chars rest regex
      refine ⟨fun h => ?_, fun h => ?_, fun h => ?_⟩
      · rw [alternatives] at h
        obtain ⟨⟨first, after⟩, hFirst, h⟩ := Option.bind_eq_some_iff.mp h
        have hRead := ih.2.1 hFirst
        dsimp only at h
        split at h
        · rename_i tail
          obtain ⟨⟨second, last⟩, hSecond, h⟩ := Option.bind_eq_some_iff.mp h
          dsimp only at h
          cases h
          have hMore := ih.1 hSecond
          have hAtoms := hRead.atoms_le
          have hMoreAtoms := hMore.atoms_le
          refine ⟨hMore.suffix.trans ((List.suffix_cons '|' tail).trans hRead.suffix), .inl ?_⟩
          rw [List.length_cons] at hAtoms
          rw [Regex.atoms]
          omega
        · cases h
          exact hRead
      · rw [branch] at h
        split at h
        · cases h
          exact ⟨List.suffix_rfl, .inr ⟨[], rfl, rfl⟩⟩
        · obtain ⟨⟨item, after⟩, hItem, h⟩ := Option.bind_eq_some_iff.mp h
          obtain ⟨⟨quantity, after'⟩, hQuantity, h⟩ := Option.bind_eq_some_iff.mp h
          obtain ⟨⟨more, last⟩, hMore, h⟩ := Option.bind_eq_some_iff.mp h
          dsimp only at h
          cases h
          exact .of_item (ih.2.2 hItem) (quantified_cases hQuantity) (ih.2.1 hMore)
      · cases chars with
        | nil => cases h
        | cons char tail =>
            rw [atom] at h
            split_ifs at h with hEscape hAny hStart hStop hSet hGroup hLook hItem
            · exact .of_shorter (shorter_of_escaped h).1 (shorter_of_escaped h).2
            · cases h
              subst hAny
              exact .of_single
            · cases h
              exact .of_anchor rfl
            · cases h
              exact .of_anchor rfl
            · exact .of_shorter (shorter_of_characterClass h).1 (shorter_of_characterClass h).2
            · obtain ⟨⟨body, after⟩, hBody, h⟩ := Option.bind_eq_some_iff.mp h
              have hRead := ih.1 hBody
              dsimp only at h
              split at h
              · cases h
                have hAtoms := hRead.atoms_le
                rw [List.length_cons] at hAtoms
                refine ⟨((List.suffix_cons ')' _).trans hRead.suffix).trans
                  (List.suffix_cons _ _), .inl ?_⟩
                rw [List.length_cons]
                omega
              · cases h
            · cases h
              have hSingle : single char = .literal char := if_neg hAny
              rw [← hSingle]
              exact .of_single

/-- A pattern has fewer atoms than characters, or only dots for operators. -/
theorem parse_reads {pattern : List Char} (h : parse pattern = some regex) :
    Reads pattern regex [] := by
  unfold parse at h
  split at h
  · rename_i found hFound
    cases h
    exact (parser_reads _).1 hFound
  · cases h

end Parsed

section Found

variable [CaseTable] {pattern needle text : List Char} {regex : Regex}

/-- Every character is equal to itself, and a dot to no letter. -/
structure CaseTable.Sound : Prop where
  self (char : Char) : SameCase char char
  dot : ¬SameCase '.' 'x'

/-- The pattern is found in exactly the texts that hold it. -/
def FindsItself (pattern : List Char) (regex : Regex) : Prop :=
  ∀ text, regex.search text = true ↔ Contains pattern text

theorem search_iff : regex.search text = true ↔
    ∃ before mid after, text = before ++ mid ++ after ∧ Matches regex before.reverse mid after := by
  simp only [Regex.search, List.any_eq_true, List.mem_range, Bool.not_eq_true', ← Bool.not_eq_true,
    List.isEmpty_iff]
  constructor
  · rintro ⟨i, -, hEnds⟩
    obtain ⟨⟨before, after⟩, hStop⟩ := List.exists_mem_of_ne_nil _ hEnds
    obtain ⟨mid, hText, rfl⟩ := exists_between hStop
    dsimp only at hText
    refine ⟨text.take i, mid, after, ?_, ?_⟩
    · rw [List.append_assoc, ← hText, List.take_append_drop]
    · rw [Matches, ← hText]
      exact hStop
  · rintro ⟨before, mid, after, rfl, hMatch⟩
    refine ⟨before.length, by simp only [List.length_append]; omega, ?_⟩
    rw [List.append_assoc, List.take_left, List.drop_left]
    exact List.ne_nil_of_mem hMatch

theorem length_le_of_contains (h : Contains needle text) : needle.length ≤ text.length := by
  obtain ⟨before, middle, after, rfl, hSame⟩ := h
  simp only [List.length_append, hSame.length_eq]
  omega

theorem contains_self (hCase : CaseTable.Sound) (text : List Char) : Contains text text :=
  ⟨[], text, [], (List.append_nil _).symm, List.forall₂_same.mpr fun char _ => hCase.self char⟩

theorem matches_single (hCase : CaseTable.Sound) (char : Char) (before after : List Char) :
    Matches (single char) before [if char = '.' then 'x' else char] after := by
  by_cases hDot : char = '.'
  · rw [if_pos hDot, single, if_pos hDot]
    exact matches_advance.mpr ⟨'x', rfl, by decide⟩
  · rw [if_neg hDot, single, if_neg hDot]
    exact matches_advance.mpr ⟨char, rfl, decide_eq_true (hCase.self char)⟩

/-- A dot takes a letter. -/
theorem matches_dotted (hCase : CaseTable.Sound) (pattern before after : List Char) :
    Matches (dotted pattern) before (pattern.map fun char => if char = '.' then 'x' else char)
      after := by
  induction pattern generalizing before with
  | nil => exact List.mem_singleton.mpr rfl
  | cons char pattern ih =>
      exact matches_seq.mpr ⟨_, _, rfl, matches_single hCase char before _, ih _⟩

theorem dot_not_mem (hCase : CaseTable.Sound) (h : FindsItself pattern (dotted pattern)) :
    '.' ∉ pattern := by
  intro hDot
  have hFound := search_iff.mpr ⟨[], _, [], (List.append_nil _).symm,
    matches_dotted hCase pattern [] []⟩
  obtain ⟨before, middle, after, hText, hSame⟩ := (h _).mp hFound
  have hLengths := congrArg List.length hText
  simp only [List.nil_append, List.length_map, List.length_append, ← hSame.length_eq] at hLengths
  obtain rfl : before = [] := List.length_eq_zero_iff.mp (by omega)
  obtain rfl : after = [] := List.length_eq_zero_iff.mp (by omega)
  rw [List.nil_append, List.nil_append, List.append_nil] at hText
  rw [← hText, List.forall₂_map_right_iff, List.forall₂_same] at hSame
  exact hCase.dot (by simpa using hSame '.' hDot)

omit [CaseTable] in
/-- Without a dot, every character stands for itself. -/
theorem dotted_eq_literals (h : '.' ∉ pattern) : dotted pattern = literals pattern := by
  induction pattern with
  | nil => rfl
  | cons char pattern ih =>
      obtain ⟨hChar, hRest⟩ := not_or.mp (mt List.mem_cons.mpr h)
      have hSingle : single char = .literal char := if_neg (Ne.symm hChar)
      exact congrArg₂ Regex.seq hSingle (ih hRest)

/-- If no quantifier asks for more than one round, a pattern finds exactly the texts that
hold it only where every character of it stands for itself. -/
theorem findsItself_iff (hCase : CaseTable.Sound) (hUncounted : regex.Uncounted)
    (hParse : parse pattern = some regex) :
    FindsItself pattern regex ↔ regex = literals pattern := by
  constructor
  · intro hFinds
    obtain ⟨before, mid, after, -, hMatch⟩ :=
      search_iff.mp ((hFinds pattern).mpr (contains_self hCase pattern))
    obtain ⟨short, -, hLength, hTaken⟩ := exists_short hUncounted hMatch
    -- the shortened match is a text of its own, and has to hold the pattern
    have hShort : Contains pattern short := by
      refine (hFinds short).mp (search_iff.mpr ⟨[], short, [], (List.append_nil _).symm, ?_⟩)
      exact hTaken [] [] (fun _ => rfl) (List.nil_sublist after)
    rcases (parse_reads hParse).atoms with hFewer | ⟨used, hUsed, rfl⟩
    · have hHeld := length_le_of_contains hShort
      rw [List.length_nil] at hFewer
      omega
    · obtain rfl : pattern = used := hUsed.trans (List.append_nil used)
      exact dotted_eq_literals (dot_not_mem hCase hFinds)
  · rintro rfl
    exact fun text => search_literals pattern text

omit [CaseTable] in
/-- A pattern without metacharacters is the sequence of its characters. -/
theorem parse_plain (h : ∀ char ∈ pattern, char ∉ metacharacters) :
    parse pattern = some (literals pattern) := by
  refine Quotes.parse_eq ?_
  induction pattern with
  | nil => exact .nil
  | cons char pattern ih =>
      obtain ⟨hChar, hRest⟩ := List.forall_mem_cons.mp h
      exact .plain hChar (ih hRest)

end Found

end Pcre
