import Mathlib.Data.List.Lex
import Mathlib.Data.List.Sort
import Mathlib.Data.List.TakeWhile
import Mathlib.Data.Prod.Lex
import Navin.Shared.JsString

/-! How an object enumerates its own properties, and that assigning properties in the
order of their keys leaves them in the order of enumeration. -/
namespace Navin

/-- The integer an array-index key denotes: canonical numerals below `2^32 - 1`. -/
def JsString.arrayIndex? (key : JsString) : Option Nat :=
  let value := key.foldl (fun n unit => 10 * n + (unit.val - 0x30)) 0
  if utf16 (toString value) = key ∧ value < 4294967295 then some value else none

/-- The setter of the prototype has this name. -/
def protoKey : JsString :=
  utf16 "__proto__"

section Objects

variable {V W : Type}

/-- `Object.keys(record).sort()`, with the values that the keys have. -/
def sortByKey (properties : List (JsString × V)) : List (JsString × V) :=
  properties.insertionSort fun first second => first.1 ≤ second.1

/-- `normalized[key] = value` for a key that is not there yet. Array indices are
enumerated first and in numeric order, other keys as they were created. -/
def assign (own : List (JsString × V)) (property : JsString × V) : List (JsString × V) :=
  if property.1 = protoKey then own
  else
    match property.1.arrayIndex? with
    | some index =>
        let lower (other : JsString × V) := other.1.arrayIndex?.any (· < index)
        own.takeWhile lower ++ property :: own.dropWhile lower
    | none => own ++ [property]

/-- Array-index keys come first in numeric order, then the others in UTF-16 order. -/
def rank (key : JsString) : Nat ×ₗ JsString :=
  toLex (key.arrayIndex?.getD 4294967295, key)

def sortByRank (properties : List (JsString × V)) : List (JsString × V) :=
  properties.insertionSort fun first second => rank first.1 ≤ rank second.1

variable {own properties : List (JsString × V)} {property : JsString × V}

theorem arrayIndex?_eq_some {key : JsString} {index : Nat} (h : key.arrayIndex? = some index) :
    utf16 (toString index) = key ∧ index < 4294967295 := by
  simp only [JsString.arrayIndex?] at h
  split_ifs at h with hIndex
  cases h
  exact hIndex

theorem rank_le_iff {first second : JsString} : rank first ≤ rank second ↔
    first.arrayIndex?.getD 4294967295 < second.arrayIndex?.getD 4294967295 ∨
      first.arrayIndex?.getD 4294967295 = second.arrayIndex?.getD 4294967295 ∧ first ≤ second :=
  Prod.Lex.le_iff

/-- Array indices are ordered as numbers. -/
theorem rank_le_of_index {first second : JsString} {index : Nat}
    (hFirst : first.arrayIndex? = some index)
    (hSecond : ∀ other, second.arrayIndex? = some other → index ≤ other) :
    rank first ≤ rank second := by
  obtain ⟨hText, hBound⟩ := arrayIndex?_eq_some hFirst
  rw [rank_le_iff, hFirst, Option.getD_some]
  cases hOther : second.arrayIndex? with
  | none => exact .inl hBound
  | some other =>
      rcases Nat.lt_or_eq_of_le (hSecond other hOther) with hLess | rfl
      · exact .inl hLess
      · exact .inr ⟨rfl, le_of_eq (hText.symm.trans (arrayIndex?_eq_some hOther).1)⟩

theorem rank_le_of_no_index {first second : JsString} (hSecond : second.arrayIndex? = none)
    (hKeys : first ≤ second) : rank first ≤ rank second := by
  cases hFirst : first.arrayIndex? with
  | none =>
      rw [rank_le_iff, hFirst, hSecond]
      exact .inr ⟨rfl, hKeys⟩
  | some index =>
      refine rank_le_of_index hFirst fun other hOther => ?_
      rw [hSecond] at hOther
      cases hOther

theorem assign_perm (hProto : property.1 ≠ protoKey) :
    (assign own property).Perm (property :: own) := by
  rw [assign, if_neg hProto]
  cases property.1.arrayIndex? with
  | none => exact List.perm_append_singleton property own
  | some index =>
      refine List.perm_middle.trans (List.Perm.cons _ (List.Perm.of_eq ?_))
      exact List.takeWhile_append_dropWhile

/-- One assignment keeps the order of enumeration, if the keys so far sort before. -/
theorem assign_pairwise (hOwn : own.Pairwise fun first second => rank first.1 ≤ rank second.1)
    (hBefore : ∀ other ∈ own, other.1 ≤ property.1) (hProto : property.1 ≠ protoKey) :
    (assign own property).Pairwise fun first second => rank first.1 ≤ rank second.1 := by
  rw [assign, if_neg hProto]
  cases hIndex : property.1.arrayIndex? with
  | none =>
      refine List.pairwise_append.mpr ⟨hOwn, List.pairwise_singleton _ _, ?_⟩
      intro other hOther last hLast
      rw [List.mem_singleton.mp hLast]
      exact rank_le_of_no_index hIndex (hBefore other hOther)
  | some index =>
      simp only
      set lower := fun other : JsString × V => other.1.arrayIndex?.any (· < index)
      have hSplit : own.takeWhile lower ++ own.dropWhile lower = own :=
        List.takeWhile_append_dropWhile
      rw [← hSplit, List.pairwise_append] at hOwn
      obtain ⟨hTake, hDrop, hAcross⟩ := hOwn
      have hLower : ∀ other ∈ own.takeWhile lower, rank other.1 ≤ rank property.1 := by
        intro other hOther
        have hAny := List.mem_takeWhile_imp hOther
        rw [Option.any_eq_true] at hAny
        obtain ⟨found, hFound, hLess⟩ := hAny
        refine rank_le_of_index hFound fun last hLast => ?_
        rw [hIndex] at hLast
        cases hLast
        exact Nat.le_of_lt (of_decide_eq_true hLess)
      have hUpper : ∀ other ∈ own.dropWhile lower, rank property.1 ≤ rank other.1 := by
        have hHead := List.dropWhile_get_zero_not lower own
        cases hRest : own.dropWhile lower with
        | nil => nofun
        | cons next rest =>
            have hNext : ¬ lower next = true := by
              simpa [hRest] using hHead
            have hFirst : rank property.1 ≤ rank next.1 := by
              refine rank_le_of_index hIndex fun found hFound => ?_
              by_contra hLess
              exact hNext (by simp [lower, hFound, Nat.lt_of_not_le hLess])
            rw [hRest] at hDrop
            intro other hOther
            rcases List.mem_cons.mp hOther with rfl | hOther
            · exact hFirst
            · exact hFirst.trans (List.rel_of_pairwise_cons hDrop hOther)
      refine List.pairwise_append.mpr ⟨hTake, List.pairwise_cons.mpr ⟨hUpper, hDrop⟩, ?_⟩
      intro other hOther later hLater
      rcases List.mem_cons.mp hLater with rfl | hLater
      · exact hLower other hOther
      · exact hAcross other hOther later hLater

/-- Assigning properties that are sorted by their keys to an object whose keys sort
before them. -/
theorem foldl_assign (rest : List (JsString × V)) {own : List (JsString × V)}
    (hOwn : own.Pairwise fun first second => rank first.1 ≤ rank second.1)
    (hRest : rest.Pairwise fun first second => first.1 ≤ second.1)
    (hBefore : ∀ other ∈ own, ∀ property ∈ rest, other.1 ≤ property.1)
    (hProto : ∀ property ∈ rest, property.1 ≠ protoKey) :
    ((rest.foldl assign own).Pairwise fun first second => rank first.1 ≤ rank second.1) ∧
      (rest.foldl assign own).Perm (own ++ rest) := by
  induction rest generalizing own with
  | nil => exact ⟨hOwn, by simp⟩
  | cons property rest ih =>
      have hHere : property.1 ≠ protoKey := hProto property List.mem_cons_self
      obtain ⟨hFirst, hSorted⟩ := List.pairwise_cons.mp hRest
      have hPerm : (assign own property).Perm (property :: own) := assign_perm hHere
      have hStep := assign_pairwise hOwn
        (fun other hOther => hBefore other hOther property List.mem_cons_self) hHere
      obtain ⟨hPairwise, hAll⟩ := ih hStep hSorted
        (by
          intro other hOther next hNext
          rcases List.mem_cons.mp (hPerm.mem_iff.mp hOther) with rfl | hOther
          · exact hFirst next hNext
          · exact hBefore other hOther next (List.mem_cons_of_mem _ hNext))
        fun next hNext => hProto next (List.mem_cons_of_mem _ hNext)
      refine ⟨hPairwise, hAll.trans ?_⟩
      exact (hPerm.append_right rest).trans List.perm_middle.symm

theorem key_inj {first second : JsString × V} (hKeys : (properties.map Prod.fst).Nodup)
    (hFirst : first ∈ properties) (hSecond : second ∈ properties)
    (hSame : first.1 = second.1) : first = second :=
  List.inj_on_of_nodup_map hKeys hFirst hSecond hSame

theorem rank_antisymm {first second : JsString} (h : rank first ≤ rank second)
    (h' : rank second ≤ rank first) : first = second :=
  congrArg Prod.snd (toLex.injective (le_antisymm h h'))

theorem sortByRank_pairwise (properties : List (JsString × V)) :
    (sortByRank properties).Pairwise fun first second => rank first.1 ≤ rank second.1 := by
  have : IsTrans (JsString × V) fun first second => rank first.1 ≤ rank second.1 :=
    ⟨fun _ _ _ => le_trans⟩
  have : Std.Total fun first second : JsString × V => rank first.1 ≤ rank second.1 :=
    ⟨fun _ _ => le_total _ _⟩
  exact List.pairwise_insertionSort _ _

theorem sortByKey_pairwise (properties : List (JsString × V)) :
    (sortByKey properties).Pairwise fun first second => first.1 ≤ second.1 := by
  have : IsTrans (JsString × V) fun first second => first.1 ≤ second.1 :=
    ⟨fun _ _ _ => le_trans⟩
  have : Std.Total fun first second : JsString × V => first.1 ≤ second.1 :=
    ⟨fun _ _ => le_total _ _⟩
  exact List.pairwise_insertionSort _ _

/-- Two listings of the same properties in the order of enumeration. -/
theorem eq_of_sorted {first second : List (JsString × V)} (hKeys : (first.map Prod.fst).Nodup)
    (hPerm : first.Perm second)
    (hFirst : first.Pairwise fun a b => rank a.1 ≤ rank b.1)
    (hSecond : second.Pairwise fun a b => rank a.1 ≤ rank b.1) : first = second :=
  hPerm.eq_of_pairwise
    (fun _ _ ha hb h h' => key_inj hKeys ha (hPerm.mem_iff.mpr hb) (rank_antisymm h h'))
    hFirst hSecond

/-- The loop over the sorted keys builds the object in the order of enumeration. -/
theorem assign_sortByKey (hKeys : (properties.map Prod.fst).Nodup)
    (hProto : ∀ property ∈ properties, property.1 ≠ protoKey) :
    (sortByKey properties).foldl assign [] = sortByRank properties := by
  have hSorted : (sortByKey properties).Perm properties := List.perm_insertionSort _ _
  have hRanked : (sortByRank properties).Perm properties := List.perm_insertionSort _ _
  obtain ⟨hPairwise, hPerm⟩ := foldl_assign (sortByKey properties) List.Pairwise.nil
    (sortByKey_pairwise properties) (by nofun)
    fun property hMem => hProto property (hSorted.mem_iff.mp hMem)
  have hAll : ((sortByKey properties).foldl assign []).Perm properties := hPerm.trans hSorted
  refine eq_of_sorted ?_ (hAll.trans hRanked.symm) hPairwise (sortByRank_pairwise properties)
  exact (hAll.map Prod.fst).nodup_iff.mpr hKeys

/-- The order in which properties are listed does not show. -/
theorem sortByRank_congr {first second : List (JsString × V)}
    (hKeys : (first.map Prod.fst).Nodup) (hPerm : first.Perm second) :
    sortByRank first = sortByRank second := by
  have hFirst : (sortByRank first).Perm first := List.perm_insertionSort _ _
  have hSecond : (sortByRank second).Perm second := List.perm_insertionSort _ _
  refine eq_of_sorted ?_ ((hFirst.trans hPerm).trans hSecond.symm) (sortByRank_pairwise first)
    (sortByRank_pairwise second)
  exact (hFirst.map Prod.fst).nodup_iff.mpr hKeys

/-- Changing the values does not change the order. -/
theorem sortByRank_map (change : V → W) (properties : List (JsString × V)) :
    sortByRank (properties.map fun property => (property.1, change property.2)) =
      (sortByRank properties).map fun property => (property.1, change property.2) :=
  (List.map_insertionSort (fun first second : JsString × V => rank first.1 ≤ rank second.1)
    (fun first second : JsString × W => rank first.1 ≤ rank second.1)
    (fun property => (property.1, change property.2)) properties fun _ _ _ _ => Iff.rfl).symm

end Objects

end Navin
