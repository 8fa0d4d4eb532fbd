import Mathlib.Data.List.Basic
import Mathlib.Data.Option.Basic
import Mathlib.Logic.Function.Basic

/-! The commands of Redis on lists and on counters that expire, each as one indivisible
change. A list is given head first, and time is in milliseconds. -/
namespace Redis

section Lists

variable {α : Type}

/-- Negative indices count from the end. -/
def position (length : Nat) (index : Int) : Int :=
  if index < 0 then length + index else index

def lpush (list : List α) (value : α) : List α :=
  value :: list

def rpop (list : List α) : List α :=
  list.dropLast

/-- `LINDEX`. -/
def lindex (list : List α) (index : Int) : Option α :=
  let index := position list.length index
  if index < 0 then none else list[index.toNat]?

/-- `LRANGE`, both ends included. -/
def lrange (list : List α) (start stop : Int) : List α :=
  let start := max 0 (position list.length start)
  let stop := min ((list.length : Int) - 1) (position list.length stop)
  (list.drop start.toNat).take (stop - start + 1).toNat

/-- `LTRIM` keeps what `LRANGE` answers. -/
def ltrim (list : List α) (start stop : Int) : List α :=
  lrange list start stop

variable (list : List α)

theorem lindex_last : lindex list (-1) = list.getLast? := by
  cases list with
  | nil => rfl
  | cons first rest =>
      have hIndex : position (first :: rest).length (-1) = rest.length := by
        simp only [position, List.length_cons]
        omega
      simp only [lindex, hIndex]
      rw [if_neg (by omega), Int.toNat_natCast, List.getLast?_eq_getElem?]
      rfl

theorem lrange_all : lrange list 0 (-1) = list := by
  have hStart : (max 0 (position list.length 0)).toNat = 0 := by
    simp [position]
  have hCount : (min ((list.length : Int) - 1) (position list.length (-1)) -
      max 0 (position list.length 0) + 1).toNat = list.length := by
    simp only [position]
    omega
  simp only [lrange, hStart, hCount, List.drop_zero, List.take_length]

theorem ltrim_first {count : Nat} (hCount : 0 < count) :
    ltrim list 0 (count - 1) = list.take count := by
  have hStart : (max 0 (position list.length 0)).toNat = 0 := by
    simp [position]
  have hKept : (min ((list.length : Int) - 1) (position list.length (count - 1)) -
      max 0 (position list.length 0) + 1).toNat = min count list.length := by
    simp only [position]
    omega
  simp only [ltrim, lrange, hStart, hKept, List.drop_zero]
  exact List.take_eq_take_iff.mpr (by omega)

end Lists

section Counters

/-- A counter, with the time it expires at if it has one. -/
structure Counter where
  value : Int
  expiresAt : Option Int
deriving DecidableEq

/-- What is stored under each key, expired or not. -/
abbrev Keyspace : Type :=
  String → Option Counter

namespace Keyspace

variable (keys : Keyspace) (now : Int) (key : String)

/-- What a command finds under a key. -/
def get : Option Counter :=
  (keys key).filter fun counter => counter.expiresAt.all (now < ·)

def set (counter : Counter) : Keyspace :=
  Function.update keys key (some counter)

/-- `INCR` and `DECR`. An absent key counts from zero and gets no time to live, a present
one keeps its own. -/
def incrBy (amount : Int) : Keyspace × Int :=
  let counter := (get keys now key).getD ⟨0, none⟩
  let value := counter.value + amount
  (set keys key { counter with value }, value)

/-- `EXPIRE` sets the time to live of a key that is present. -/
def expire (seconds : Int) : Keyspace × Int :=
  match get keys now key with
  | some counter => (set keys key { counter with expiresAt := some (now + seconds * 1000) }, 1)
  | none => (keys, 0)

def del : Keyspace × Int :=
  (Function.update keys key none, if (get keys now key).isSome then 1 else 0)

/-- `PTTL`. -/
def pttl : Int :=
  match get keys now key with
  | some ⟨_, some expiresAt⟩ => expiresAt - now
  | some ⟨_, none⟩ => -1
  | none => -2

section Expiry

variable {keys now key} {other : String} {counter : Counter} {amount seconds : Int}

theorem get_eq_some_iff :
    get keys now key = some counter ↔
      keys key = some counter ∧ ∀ expiresAt, counter.expiresAt = some expiresAt →
        now < expiresAt := by
  simp only [get, Option.filter_eq_some_iff, Option.all_eq_true, decide_eq_true_eq]

/-- What is there later is there now. -/
theorem get_of_later {later : Int} (hLater : now ≤ later)
    (h : get keys later key = some counter) : get keys now key = some counter := by
  obtain ⟨hStored, hAlive⟩ := get_eq_some_iff.mp h
  exact get_eq_some_iff.mpr ⟨hStored, fun expiresAt hExpires =>
    Int.lt_of_le_of_lt hLater (hAlive expiresAt hExpires)⟩

theorem get_set_of_ne (h : other ≠ key) : get (set keys key counter) now other = get keys now other := by
  rw [get, get, set, Function.update_of_ne h]

theorem get_incrBy_of_ne (h : other ≠ key) :
    get (incrBy keys now key amount).1 now other = get keys now other :=
  get_set_of_ne h

theorem get_expire_of_ne (h : other ≠ key) :
    get (expire keys now key seconds).1 now other = get keys now other := by
  rw [expire]
  split
  · exact get_set_of_ne h
  · rfl

theorem get_del_of_ne (h : other ≠ key) : get (del keys now key).1 now other = get keys now other := by
  simp only [get, del, Function.update_of_ne h]

theorem get_del_self : get (del keys now key).1 now key = none := by
  simp only [get, del, Function.update_self, Option.filter_none]

/-- A counter that is present keeps its time to live. -/
theorem expiresAt_of_get_incrBy (h : get (incrBy keys now key amount).1 now key = some counter) :
    (∃ before, get keys now key = some before ∧ counter.expiresAt = before.expiresAt) ∨
      get keys now key = none ∧ counter.expiresAt = none := by
  obtain ⟨hStored, -⟩ := get_eq_some_iff.mp h
  simp only [incrBy, set, Function.update_self, Option.some.injEq] at hStored
  subst hStored
  cases hBefore : get keys now key with
  | none => exact .inr ⟨rfl, rfl⟩
  | some before => exact .inl ⟨before, rfl, rfl⟩

theorem incrBy_of_absent (h : get keys now key = none) : (incrBy keys now key amount).2 = amount := by
  simp only [incrBy, h, Option.getD_none, Int.zero_add]

theorem expiresAt_of_get_expire (h : get (expire keys now key seconds).1 now key = some counter) :
    counter.expiresAt = some (now + seconds * 1000) := by
  rw [expire] at h
  split at h
  · obtain ⟨hStored, -⟩ := get_eq_some_iff.mp h
    simp only [set, Function.update_self, Option.some.injEq] at hStored
    rw [← hStored]
  · rename_i hAbsent
    rw [hAbsent] at h
    cases h

end Expiry

end Keyspace

end Counters

end Redis
