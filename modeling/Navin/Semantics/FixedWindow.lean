import Mathlib.Data.Finset.Prod
import Mathlib.Order.Interval.Finset.Basic
import Mathlib.Data.Int.Interval
import Navin.Semantics.Redis

/-! Counters that expire a fixed time after they start. However the counting is spread over
time, an interval of that length meets at most two counters, so small numbers are given out
at most twice each. -/
namespace FixedWindow

open Redis (Counter)

/-- A number that was given out: when the counter started, when that was, and the number. -/
structure Ticket where
  start : Int
  time : Int
  number : Int

/-- The numbers of one counter rise. The next counter starts a window later at the
earliest, when the last number of this one has been given out. -/
def Ticket.Precedes (window : Int) (later earlier : Ticket) : Prop :=
  later.start = earlier.start ∧ earlier.number < later.number ∨
    earlier.start + window ≤ later.start ∧ earlier.time ≤ later.start

/-- Tickets, latest first, of counters that each count for a window or longer. -/
structure Windowed (window : Int) (tickets : List Ticket) : Prop where
  ordered : tickets.Pairwise (Ticket.Precedes window)
  valid : ∀ ticket ∈ tickets, ticket.start ≤ ticket.time ∧ 0 < ticket.number

section Windowed

variable {window : Int} {tickets : List Ticket}

theorem Windowed.of_sublist (h : Windowed window tickets) {fewer : List Ticket}
    (hFewer : fewer.Sublist tickets) : Windowed window fewer :=
  ⟨h.ordered.sublist hFewer, fun ticket hTicket => h.valid ticket (hFewer.subset hTicket)⟩

/-- In an ordered list, every element precedes the last one or is it. -/
theorem eq_or_rel_getLast {α : Type} {R : α → α → Prop} {list : List α} (h : list.Pairwise R)
    (hNonempty : list ≠ []) {a : α} (ha : a ∈ list) :
    a = list.getLast hNonempty ∨ R a (list.getLast hNonempty) := by
  rw [← List.dropLast_append_getLast hNonempty, List.pairwise_append] at h
  rw [← List.dropLast_append_getLast hNonempty, List.mem_append, List.mem_singleton] at ha
  rcases ha with hEarlier | hLast
  · exact .inr (h.2.2 a hEarlier _ List.mem_cons_self)
  · exact .inl hLast

/-- Less than a window of time meets at most two counters. -/
theorem Windowed.two_starts (h : Windowed window tickets) {t : Int}
    (hWithin : ∀ ticket ∈ tickets, t ≤ ticket.time ∧ ticket.time < t + window) :
    ∃ first second, ∀ ticket ∈ tickets, ticket.start = first ∨ ticket.start = second := by
  cases tickets with
  | nil => exact ⟨0, 0, fun _ hTicket => absurd hTicket List.not_mem_nil⟩
  | cons latest earlier =>
      let oldest := (latest :: earlier).getLast (List.cons_ne_nil _ _)
      have hOldest : oldest ∈ latest :: earlier := List.getLast_mem _
      refine ⟨latest.start, oldest.start, List.forall_mem_cons.mpr ⟨.inl rfl, fun ticket hTicket => ?_⟩⟩
      have hLatest := List.rel_of_pairwise_cons h.ordered hTicket
      rcases eq_or_rel_getLast h.ordered (List.cons_ne_nil _ _) (List.mem_cons_of_mem _ hTicket)
        with hEq | hLast
      · exact .inr (congrArg Ticket.start hEq)
      · rcases hLatest with ⟨hSame, -⟩ | ⟨hSpaced, -⟩
        · exact .inl hSame.symm
        · rcases hLast with ⟨hSame, -⟩ | ⟨-, hOver⟩
          · exact .inr hSame
          · -- A third counter would start a window after the oldest ticket.
            have hStarted := (h.valid latest List.mem_cons_self).1
            have hBounds := hWithin latest List.mem_cons_self
            have hOldestBounds := (hWithin oldest hOldest).1
            have hOverOldest : oldest.time ≤ ticket.start := hOver
            omega

/-- A number is given out once by each counter. -/
theorem Windowed.nodup (h : Windowed window tickets) (hWindow : 0 < window) :
    (tickets.map fun ticket => (ticket.start, ticket.number)).Nodup := by
  refine List.pairwise_map.mpr (h.ordered.imp fun {later earlier} hPrecedes hEq => ?_)
  obtain ⟨hStart, hNumber⟩ := Prod.mk.inj hEq
  rcases hPrecedes with ⟨-, hRises⟩ | ⟨hSpaced, -⟩ <;> omega

/-- Within a window, at most two tickets for each number up to the limit. -/
theorem Windowed.length_within (h : Windowed window tickets) (hWindow : 0 < window) {t : Int}
    (hWithin : ∀ ticket ∈ tickets, t ≤ ticket.time ∧ ticket.time < t + window) {limit : Nat}
    (hLimit : ∀ ticket ∈ tickets, ticket.number ≤ limit) : tickets.length ≤ 2 * limit := by
  obtain ⟨first, second, hStarts⟩ := h.two_starts hWithin
  let keys := tickets.map fun ticket => (ticket.start, ticket.number)
  have hKeys : keys.toFinset ⊆ ({first, second} : Finset Int) ×ˢ Finset.Icc 1 (limit : Int) := by
    intro key hKey
    obtain ⟨ticket, hTicket, rfl⟩ := List.mem_map.mp (List.mem_toFinset.mp hKey)
    have hPositive := (h.valid ticket hTicket).2
    have hSmall := hLimit ticket hTicket
    rw [Finset.mem_product, Finset.mem_insert, Finset.mem_singleton, Finset.mem_Icc]
    exact ⟨hStarts ticket hTicket, by omega⟩
  calc
    tickets.length = keys.toFinset.card := by
      rw [List.toFinset_card_of_nodup (h.nodup hWindow), List.length_map]
    _ ≤ (({first, second} : Finset Int) ×ˢ Finset.Icc 1 (limit : Int)).card :=
      Finset.card_le_card hKeys
    _ = ({first, second} : Finset Int).card * limit := by
      rw [Finset.card_product, Int.card_Icc]
      congr 1
      omega
    _ ≤ 2 * limit := Nat.mul_le_mul_right _ Finset.card_le_two

end Windowed

/-- What is left of a counter at a time. -/
def alive (now : Int) (stored : Option Counter) : Option Counter :=
  stored.filter fun counter => counter.expiresAt.all (now < ·)

theorem alive_eq_some_iff {now : Int} {stored : Option Counter} {counter : Counter} :
    alive now stored = some counter ↔
      stored = some counter ∧ ∀ expiresAt, counter.expiresAt = some expiresAt → now < expiresAt := by
  simp only [alive, Option.filter_eq_some_iff, Option.all_eq_true, decide_eq_true_eq]

theorem alive_eq_none {now : Int} {counter : Counter} (h : alive now (some counter) = none) :
    ∃ expiresAt, counter.expiresAt = some expiresAt ∧ expiresAt ≤ now := by
  simp only [alive, Option.filter_eq_none_iff, Option.some.injEq, forall_eq', Option.all_eq_true,
    decide_eq_true_eq, not_forall] at h
  obtain ⟨expiresAt, hExpires, hOver⟩ := h
  exact ⟨expiresAt, hExpires, by omega⟩

/-- The tickets given out so far, with the counter that gives out the next. -/
structure Rounds (window now : Int) (stored : Option Counter) (tickets : List Ticket) : Prop where
  windowed : Windowed window tickets
  running : ∀ counter, alive now stored = some counter → ∃ start ≤ now,
    0 ≤ counter.value ∧
      (∀ expiresAt, counter.expiresAt = some expiresAt → start + window ≤ expiresAt) ∧
      ∀ ticket ∈ tickets, ticket.start = start ∧ ticket.number ≤ counter.value ∨
        ticket.start + window ≤ start ∧ ticket.time ≤ start
  ended : alive now stored = none → ∀ ticket ∈ tickets,
    ticket.start + window ≤ now ∧ ticket.time ≤ now
  past : ∀ ticket ∈ tickets, ticket.time ≤ now

section Rounds

variable {window now : Int} {stored : Option Counter} {tickets : List Ticket}

/-- A counter found at the start may have been counting for any time. -/
theorem Rounds.init (hCounter : ∀ counter, alive now stored = some counter → 0 ≤ counter.value)
    (hWindow : 0 ≤ window) : Rounds window now stored [] where
  windowed := ⟨.nil, fun _ h => absurd h List.not_mem_nil⟩
  running counter hAlive := by
    obtain ⟨-, hExpiry⟩ := alive_eq_some_iff.mp hAlive
    refine ⟨now - window, by omega, hCounter counter hAlive, fun expiresAt hExpires => ?_, ?_⟩
    · have hLater := hExpiry expiresAt hExpires
      omega
    · exact fun _ h => absurd h List.not_mem_nil
  ended _ _ h := absurd h List.not_mem_nil
  past _ h := absurd h List.not_mem_nil

theorem Rounds.wait (h : Rounds window now stored tickets) {later : Int} (hLater : now ≤ later) :
    Rounds window later stored tickets where
  windowed := h.windowed
  running counter hAlive := by
    obtain ⟨hStored, hExpiry⟩ := alive_eq_some_iff.mp hAlive
    have hNow : alive now stored = some counter := alive_eq_some_iff.mpr
      ⟨hStored, fun expiresAt hExpires => Int.lt_of_le_of_lt hLater (hExpiry expiresAt hExpires)⟩
    obtain ⟨start, hStart, hRest⟩ := h.running counter hNow
    exact ⟨start, by omega, hRest⟩
  ended hOver := by
    intro ticket hTicket
    have hPast := h.past ticket hTicket
    cases hNow : alive now stored with
    | none =>
        have hTicketOver := h.ended hNow ticket hTicket
        omega
    | some counter =>
        obtain ⟨hStored, -⟩ := alive_eq_some_iff.mp hNow
        obtain ⟨start, hStart, -, hExpires, hTickets⟩ := h.running counter hNow
        rw [hStored] at hOver
        obtain ⟨expiresAt, hExpiry, hGone⟩ := alive_eq_none hOver
        have hFull := hExpires expiresAt hExpiry
        rcases hTickets ticket hTicket with ⟨hSame, -⟩ | ⟨hEarlier, -⟩ <;> omega
  past ticket hTicket := by
    have hPast := h.past ticket hTicket
    omega

/-- A number that nobody hears of is no ticket. -/
theorem Rounds.forget {ticket : Ticket} (h : Rounds window now stored (ticket :: tickets)) :
    Rounds window now stored tickets where
  windowed := h.windowed.of_sublist (List.sublist_cons_self ticket tickets)
  running counter hAlive := by
    obtain ⟨start, hStart, hValue, hExpires, hTickets⟩ := h.running counter hAlive
    exact ⟨start, hStart, hValue, hExpires, (List.forall_mem_cons.mp hTickets).2⟩
  ended hOver := (List.forall_mem_cons.mp (h.ended hOver)).2
  past := (List.forall_mem_cons.mp h.past).2

/-- A running counter gives out its next number. -/
theorem Rounds.count (h : Rounds window now stored tickets) {counter : Counter}
    (hAlive : alive now stored = some counter) :
    ∃ ticket : Ticket, ticket.time = now ∧ ticket.number = counter.value + 1 ∧
      Rounds window now (some { counter with value := counter.value + 1 }) (ticket :: tickets) := by
  obtain ⟨start, hStart, hValue, hExpires, hTickets⟩ := h.running counter hAlive
  obtain ⟨hStored, hExpiry⟩ := alive_eq_some_iff.mp hAlive
  have hStill : alive now (some { counter with value := counter.value + 1 }) =
      some { counter with value := counter.value + 1 } := alive_eq_some_iff.mpr ⟨rfl, hExpiry⟩
  have hLast (ticket : Ticket) (hTicket : ticket ∈ tickets) :
      ticket.start = start ∧ ticket.number ≤ counter.value + 1 ∨
        ticket.start + window ≤ start ∧ ticket.time ≤ start := by
    rcases hTickets ticket hTicket with ⟨hSame, hNumber⟩ | hEarlier
    · exact .inl ⟨hSame, by omega⟩
    · exact .inr hEarlier
  refine ⟨⟨start, now, counter.value + 1⟩, rfl, rfl, ⟨?_, ?_⟩, ?_, ?_, ?_⟩
  · refine List.pairwise_cons.mpr ⟨fun ticket hTicket => ?_, h.windowed.ordered⟩
    rcases hTickets ticket hTicket with ⟨hSame, hNumber⟩ | hEarlier
    · exact .inl ⟨hSame.symm, Int.lt_add_one_iff.mpr hNumber⟩
    · exact .inr hEarlier
  · exact List.forall_mem_cons.mpr ⟨⟨hStart, Int.lt_add_one_iff.mpr hValue⟩, h.windowed.valid⟩
  · rintro _ hNow
    cases hStill.symm.trans hNow
    refine ⟨start, hStart, Int.le_add_one hValue, hExpires, ?_⟩
    exact List.forall_mem_cons.mpr ⟨.inl ⟨rfl, Int.le_refl _⟩, hLast⟩
  · intro hNow
    cases hStill.symm.trans hNow
  · exact List.forall_mem_cons.mpr ⟨Int.le_refl _, h.past⟩

/-- Where no counter runs, one starts. -/
theorem Rounds.start (h : Rounds window now stored tickets) (hAbsent : alive now stored = none)
    (expiresAt : Option Int) (hWindow : 0 < window)
    (hExpires : ∀ time, expiresAt = some time → now + window ≤ time) :
    ∃ ticket : Ticket, ticket.time = now ∧ ticket.number = 1 ∧
      Rounds window now (some ⟨1, expiresAt⟩) (ticket :: tickets) := by
  have hOver := h.ended hAbsent
  have hStill : alive now (some ⟨1, expiresAt⟩) = some ⟨1, expiresAt⟩ :=
    alive_eq_some_iff.mpr ⟨rfl, fun time hTime =>
      Int.lt_of_lt_of_le (Int.lt_add_of_pos_right _ hWindow) (hExpires time hTime)⟩
  refine ⟨⟨now, now, 1⟩, rfl, rfl, ⟨?_, ?_⟩, ?_, ?_, ?_⟩
  · exact List.pairwise_cons.mpr ⟨fun ticket hTicket => .inr (hOver ticket hTicket),
      h.windowed.ordered⟩
  · exact List.forall_mem_cons.mpr ⟨⟨Int.le_refl _, Int.one_pos⟩, h.windowed.valid⟩
  · rintro _ hNow
    cases hStill.symm.trans hNow
    refine ⟨now, Int.le_refl _, Int.zero_le_ofNat 1, hExpires, ?_⟩
    exact List.forall_mem_cons.mpr ⟨.inl ⟨rfl, Int.le_refl _⟩,
      fun ticket hTicket => .inr (hOver ticket hTicket)⟩
  · intro hNow
    cases hStill.symm.trans hNow
  · exact List.forall_mem_cons.mpr ⟨Int.le_refl _, h.past⟩

/-- A running counter may be given another time to live, if that is a window or more. -/
theorem Rounds.expire (h : Rounds window now stored tickets) {counter : Counter}
    (hAlive : alive now stored = some counter) {expiresAt : Int} (hWindow : 0 < window)
    (hExpires : now + window ≤ expiresAt) :
    Rounds window now (some { counter with expiresAt := some expiresAt }) tickets := by
  obtain ⟨start, hStart, hValue, -, hTickets⟩ := h.running counter hAlive
  have hStill : alive now (some { counter with expiresAt := some expiresAt }) =
      some { counter with expiresAt := some expiresAt } :=
    alive_eq_some_iff.mpr ⟨rfl, fun time hTime => by cases hTime; omega⟩
  refine ⟨h.windowed, ?_, ?_, h.past⟩
  · rintro _ hNow
    cases hStill.symm.trans hNow
    refine ⟨start, hStart, hValue, fun time hTime => ?_, hTickets⟩
    cases hTime
    omega
  · intro hNow
    cases hStill.symm.trans hNow

end Rounds

/-- The times and numbers of tickets, latest first, as a counter may give them out. -/
def Numbered (window now : Int) (stored : Option Counter) (numbers : List (Int × Int)) : Prop :=
  ∃ tickets, Rounds window now stored tickets ∧
    tickets.map (fun ticket => (ticket.time, ticket.number)) = numbers

section Numbered

variable {window now : Int} {stored : Option Counter} {numbers : List (Int × Int)}

theorem Numbered.init
    (hCounter : ∀ counter, alive now stored = some counter → 0 ≤ counter.value)
    (hWindow : 0 ≤ window) : Numbered window now stored [] :=
  ⟨[], .init hCounter hWindow, rfl⟩

theorem Numbered.wait (h : Numbered window now stored numbers) {later : Int}
    (hLater : now ≤ later) : Numbered window later stored numbers := by
  obtain ⟨tickets, hRounds, hNumbers⟩ := h
  exact ⟨tickets, hRounds.wait hLater, hNumbers⟩

theorem Numbered.forget {number : Int × Int} (h : Numbered window now stored (number :: numbers)) :
    Numbered window now stored numbers := by
  obtain ⟨tickets, hRounds, hNumbers⟩ := h
  obtain ⟨ticket, earlier, rfl, -, hEarlier⟩ := List.map_eq_cons_iff.mp hNumbers
  exact ⟨earlier, hRounds.forget, hEarlier⟩

theorem Numbered.count (h : Numbered window now stored numbers) {counter : Counter}
    (hAlive : alive now stored = some counter) :
    Numbered window now (some { counter with value := counter.value + 1 })
      ((now, counter.value + 1) :: numbers) := by
  obtain ⟨tickets, hRounds, rfl⟩ := h
  obtain ⟨ticket, hTime, hNumber, hNext⟩ := hRounds.count hAlive
  exact ⟨ticket :: tickets, hNext, by rw [List.map_cons, hTime, hNumber]⟩

theorem Numbered.start (h : Numbered window now stored numbers)
    (hAbsent : alive now stored = none) (expiresAt : Option Int) (hWindow : 0 < window)
    (hExpires : ∀ time, expiresAt = some time → now + window ≤ time) :
    Numbered window now (some ⟨1, expiresAt⟩) ((now, 1) :: numbers) := by
  obtain ⟨tickets, hRounds, rfl⟩ := h
  obtain ⟨ticket, hTime, hNumber, hNext⟩ := hRounds.start hAbsent expiresAt hWindow hExpires
  exact ⟨ticket :: tickets, hNext, by rw [List.map_cons, hTime, hNumber]⟩

theorem Numbered.expire (h : Numbered window now stored numbers) {counter : Counter}
    (hAlive : alive now stored = some counter) {expiresAt : Int} (hWindow : 0 < window)
    (hExpires : now + window ≤ expiresAt) :
    Numbered window now (some { counter with expiresAt := some expiresAt }) numbers := by
  obtain ⟨tickets, hRounds, hNumbers⟩ := h
  exact ⟨tickets, hRounds.expire hAlive hWindow hExpires, hNumbers⟩

/-- Whether a number up to the limit was given out in the interval of length `window`
from `t` on. -/
def admittedWithin (window t : Int) (limit : Nat) (number : Int × Int) : Bool :=
  t ≤ number.1 && number.1 < t + window && number.2 ≤ limit

/-- In an interval as long as the window, at most two numbers up to the limit for each. -/
theorem Numbered.length_admitted (h : Numbered window now stored numbers) (hWindow : 0 < window)
    (t : Int) (limit : Nat) :
    (numbers.filter (admittedWithin window t limit)).length ≤ 2 * limit := by
  obtain ⟨tickets, hRounds, rfl⟩ := h
  rw [List.filter_map, List.length_map]
  have hAdmitted (ticket : Ticket) (hTicket : ticket ∈ tickets.filter
      (admittedWithin window t limit ∘ fun ticket => (ticket.time, ticket.number))) :
      (t ≤ ticket.time ∧ ticket.time < t + window) ∧ ticket.number ≤ limit := by
    simpa [admittedWithin] using (List.mem_filter.mp hTicket).2
  exact (hRounds.windowed.of_sublist List.filter_sublist).length_within hWindow
    (fun ticket hTicket => (hAdmitted ticket hTicket).1)
    fun ticket hTicket => (hAdmitted ticket hTicket).2

end Numbered

end FixedWindow
