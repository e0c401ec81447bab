/-
Module: NetStack.Proofs.Waiting
Purpose: How many cycles a duration is worth, and how many checks and readings a timed
  wait takes until it ends.
Main exports:
  Duration.toNat_toCycles, Duration.budgets_are_exact, StepClock.after, StepClock.shown,
  StepClock.Waits, StepClock.Measures, StepClock.EndsAfter, StepClock.Waits.wait_eq_some,
  StepClock.ComesTrueAt, StepClock.patience, StepClock.timed_waits_are_exact
-/
import Mathlib.Algebra.Order.Floor.Div
import NetStack.Clock

namespace NetStack

/-! ## Budgets -/

namespace Duration

/-- A quotient of a saturated number is exact as far as it is looked at, if the number
saturates high enough. -/
theorem min_div_saturated {product limit divisor bound : Nat} (high : bound ≤ limit / divisor) :
    min (min product limit / divisor) bound = min (product / divisor) bound := by
  rcases Nat.le_total product limit with small | large
  · rw [Nat.min_eq_left small]
  · have beyond : bound ≤ product / divisor := high.trans (Nat.div_le_div_right large)
    rw [Nat.min_eq_right large, Nat.min_eq_right high, Nat.min_eq_right beyond]

/-- A budget is the exact number of cycles, as far as the counter can tell.  The product
that saturates at 128 bits is still too large for the counter when it is scaled down. -/
theorem toNat_toCycles (duration : Duration) (frequency : UInt64) :
    (duration.toCycles frequency).toNat =
      min (duration.toNanos * frequency.toNat / 10 ^ 9) (2 ^ 64 - 1) := by
  have high : UInt64.size - 1 ≤ (UInt64.size * UInt64.size - 1) / nanosPerSecond := by
    decide
  have fits : min (duration.toNanos * frequency.toNat / nanosPerSecond) (UInt64.size - 1) <
      UInt64.size :=
    Nat.lt_of_le_of_lt (Nat.min_le_right _ _) (by decide : UInt64.size - 1 < UInt64.size)
  rw [toCycles, min_div_saturated high, UInt64.toNat_ofNat_of_lt' fits]
  simp only [UInt64.size, nanosPerSecond, Nat.reducePow]

/-- More time, or a faster counter, never makes a budget smaller. -/
theorem toCycles_mono {duration longer : Duration} {frequency faster : UInt64}
    (lasts : duration.toNanos ≤ longer.toNanos) (counts : frequency ≤ faster) :
    duration.toCycles frequency ≤ longer.toCycles faster := by
  have product : duration.toNanos * frequency.toNat ≤ longer.toNanos * faster.toNat :=
    Nat.mul_le_mul lasts (UInt64.le_iff_toNat_le.mp counts)
  rw [UInt64.le_iff_toNat_le, toNat_toCycles, toNat_toCycles]
  exact min_le_min_right _ (Nat.div_le_div_right product)

/-- A budget is exact up to saturation, also where the product of nanoseconds and
frequency leaves 128 bits, and so it is monotone in the time and in the frequency. -/
theorem budgets_are_exact (duration : Duration) (frequency : UInt64) :
    (duration.toCycles frequency).toNat =
        min (duration.toNanos * frequency.toNat / 10 ^ 9) (2 ^ 64 - 1) ∧
      ∀ (longer : Duration) (faster : UInt64), duration.toNanos ≤ longer.toNanos →
        frequency ≤ faster → duration.toCycles frequency ≤ longer.toCycles faster :=
  ⟨duration.toNat_toCycles frequency, fun _ _ => toCycles_mono⟩

/-- The longest time on the fastest counter, where 128 bits do not hold the product. -/
example : (⟨18446744073709551615, 999999999, by decide⟩ : Duration).toCycles 18446744073709551615 =
    18446744073709551615 := by
  decide +kernel

end Duration

/-! ## Readings -/

namespace StepClock

/-!
A wait and a measurement both read their clock in a loop, and run only so long before they
are stopped.  The loops are told first without that limit, by the readings that they take of
whatever clock it is; so the readings of a run can be counted, which the state of a counter
that wraps does not allow.  On a step clock each loop goes in one way only, and the limit is
never reached.
-/

/-- The clock after a number of readings. -/
def after (clock : StepClock) (reads : Nat) : StepClock :=
  { clock with now := clock.now + UInt64.ofNat reads * clock.step }

/-- What a number of readings show, one after the other. -/
def shown : Nat → StepClock → List UInt64
  | 0, _ => []
  | reads + 1, clock => clock.now :: shown reads (clock.after 1)

variable {clock : StepClock} {reads : Nat}

theorem after_zero (clock : StepClock) : clock.after 0 = clock := by
  simp [after]

theorem after_after (clock : StepClock) (first second : Nat) :
    (clock.after first).after second = clock.after (first + second) := by
  simp only [after, UInt64.ofNat_add, UInt64.add_mul, UInt64.add_assoc]

theorem after_one_after (clock : StepClock) (reads : Nat) :
    (clock.after 1).after reads = clock.after (reads + 1) := by
  rw [after_after, Nat.add_comm]

theorem read_eq (clock : StepClock) : clock.read = (clock.now, clock.after 1) := by
  simp [read, after]

@[simp] theorem length_shown (reads : Nat) (clock : StepClock) :
    (shown reads clock).length = reads := by
  induction reads generalizing clock with
  | zero => rfl
  | succ reads inductiveHypothesis => rw [shown, List.length_cons, inductiveHypothesis]

theorem eq_zero_of_shown (shows : shown reads clock = []) : reads = 0 := by
  rw [← length_shown reads clock, shows, List.length_nil]

theorem exists_of_shown {now : UInt64} {readings : List UInt64}
    (shows : shown reads clock = now :: readings) :
    ∃ more, reads = more + 1 ∧ now = clock.now ∧ shown more (clock.after 1) = readings := by
  cases reads with
  | zero => cases shows
  | succ more =>
      obtain ⟨first, rest⟩ := List.cons.inj shows
      exact ⟨more, rfl, first.symm, rest⟩

/-- As long as the readings have not gone once round the counter, the time that has gone
by can be told from where they began, wherever that was. -/
theorem elapsed_after (within : reads * clock.step.toNat < 2 ^ 64) :
    ((clock.after reads).now - clock.now).toNat = reads * clock.step.toNat := by
  have ticks : (clock.after reads).now - clock.now = UInt64.ofNat reads * clock.step := by
    simp only [after]
    rw [UInt64.add_comm, UInt64.add_sub_cancel]
  rw [ticks, UInt64.toNat_mul, UInt64.toNat_ofNat', Nat.mod_mul_mod, Nat.mod_eq_of_lt within]

/-- Within the budget the counter never comes round, whatever the budget is. -/
theorem elapsed_lt {budget : UInt64} (within : reads * clock.step.toNat < budget.toNat) :
    (clock.after reads).now - clock.now < budget := by
  rw [UInt64.lt_iff_toNat_lt, elapsed_after (within.trans budget.toNat_lt)]
  exact within

theorem le_elapsed {budget : UInt64} (within : reads * clock.step.toNat < 2 ^ 64)
    (spent : budget.toNat ≤ reads * clock.step.toNat) :
    budget ≤ (clock.after reads).now - clock.now := by
  rw [UInt64.le_iff_toNat_le, elapsed_after within]
  exact spent

/-! ## The loops -/

/-- How a wait goes on after `calls` checks that failed: from the readings that it takes to
whether the condition came true, and after how many checks. -/
inductive Spins (start budget : UInt64) (ready : Nat → Bool) :
    Nat → List UInt64 → Bool → Nat → Prop where
  /-- The condition holds, and the clock is not read again. -/
  | succeeds {calls : Nat} (holds : ready (calls + 1) = true) :
      Spins start budget ready calls [] true (calls + 1)
  /-- The condition fails, and the budget is spent. -/
  | expires {calls : Nat} {now : UInt64} (fails : ready (calls + 1) = false)
      (spent : budget ≤ now - start) :
      Spins start budget ready calls [now] false (calls + 1)
  /-- The condition fails, and there is time left. -/
  | goesOn {calls total : Nat} {now : UInt64} {readings : List UInt64} {verdict : Bool}
      (fails : ready (calls + 1) = false) (left : now - start < budget)
      (rest : Spins start budget ready (calls + 1) readings verdict total) :
      Spins start budget ready calls (now :: readings) verdict total

/-- How a wait goes from its beginning.  The first reading tells when that was. -/
inductive Waits (budget : UInt64) (ready : Nat → Bool) : List UInt64 → Bool → Nat → Prop where
  | begins {start : UInt64} {readings : List UInt64} {verdict : Bool} {total : Nat}
      (rest : Spins start budget ready 0 readings verdict total) :
      Waits budget ready (start :: readings) verdict total

/-- How a measurement goes on once `elapsed` ticks have gone by: from the readings that it
takes to the ticks that have gone by at its end. -/
inductive Counts (start budget : UInt64) : UInt64 → List UInt64 → UInt64 → Prop where
  | ends {elapsed : UInt64} (spent : budget ≤ elapsed) : Counts start budget elapsed [] elapsed
  | goesOn {elapsed now total : UInt64} {readings : List UInt64} (left : elapsed < budget)
      (rest : Counts start budget (now - start) readings total) :
      Counts start budget elapsed (now :: readings) total

/-- How a measurement goes from its beginning. -/
inductive Measures (budget : UInt64) : List UInt64 → UInt64 → Prop where
  | begins {start : UInt64} {readings : List UInt64} {total : UInt64}
      (rest : Counts start budget 0 readings total) :
      Measures budget (start :: readings) total

variable {start budget : UInt64} {ready : Nat → Bool}

/-! ## Waits -/

/-- A wait that succeeds has read the clock once for each check that failed, and one that
fails for each of its checks. -/
theorem Spins.length_readings {calls total : Nat} {readings : List UInt64} {verdict : Bool}
    (spins : Spins start budget ready calls readings verdict total) :
    calls + readings.length + verdict.toNat = total := by
  induction spins with
  | succeeds holds => rfl
  | expires fails spent => rfl
  | goesOn fails left rest inductiveHypothesis =>
      rw [← inductiveHypothesis, List.length_cons]
      omega

/-- A wait comes to its end on a step clock, unless it is stopped before its last check. -/
theorem Spins.spin_eq_some {calls total fuel : Nat} {verdict : Bool}
    (spins : Spins start budget ready calls (shown reads clock) verdict total)
    (enough : total ≤ calls + fuel) :
    spin start budget ready fuel calls clock =
      some { ready := verdict, calls := total, clock := clock.after reads } := by
  generalize shows : shown reads clock = readings at spins
  induction spins generalizing reads clock fuel with
  | succeeds holds =>
      obtain ⟨fuel, rfl⟩ : ∃ less, fuel = less + 1 := ⟨fuel - 1, by omega⟩
      obtain rfl := eq_zero_of_shown shows
      simp only [spin, holds, if_true, after_zero]
  | expires fails spent =>
      obtain ⟨fuel, rfl⟩ : ∃ less, fuel = less + 1 := ⟨fuel - 1, by omega⟩
      obtain ⟨more, rfl, rfl, remain⟩ := exists_of_shown shows
      obtain rfl := eq_zero_of_shown remain
      simp only [spin, fails, read_eq, spent, if_true, Bool.false_eq_true, if_false]
  | @goesOn calls total now readings verdict fails left rest inductiveHypothesis =>
      have counted := rest.length_readings
      obtain ⟨fuel, rfl⟩ : ∃ less, fuel = less + 1 := ⟨fuel - 1, by omega⟩
      obtain ⟨more, rfl, rfl, remain⟩ := exists_of_shown shows
      have enough : total ≤ calls + 1 + fuel := by omega
      have onward := inductiveHypothesis enough remain
      rw [after_one_after] at onward
      simp only [spin, fails, read_eq, UInt64.not_le.mpr left, Bool.false_eq_true, if_false,
        onward]

/-- On one clock a wait goes on in one way only. -/
theorem Spins.unique {calls total other others : Nat} {verdict another : Bool}
    (spins : Spins start budget ready calls (shown reads clock) verdict total)
    (again : Spins start budget ready calls (shown others clock) another other) :
    others = reads ∧ another = verdict ∧ other = total := by
  have ends := spins.spin_eq_some (Nat.le_add_left_of_le (Nat.le_max_left total other))
  rw [again.spin_eq_some (Nat.le_add_left_of_le (Nat.le_max_right total other))] at ends
  obtain ⟨rfl, rfl, -⟩ := Wait.mk.inj (Option.some.inj ends)
  have counted := spins.length_readings
  have countedAgain := again.length_readings
  rw [length_shown] at counted countedAgain
  exact ⟨by omega, rfl, rfl⟩

/-- The first reading of a wait is where the clock stands. -/
theorem Waits.exists_spins {total : Nat} {verdict : Bool}
    (waits : Waits budget ready (shown reads clock) verdict total) :
    ∃ more, reads = more + 1 ∧
      Spins clock.now budget ready 0 (shown more (clock.after 1)) verdict total := by
  generalize shows : shown reads clock = readings at waits
  obtain ⟨rest⟩ := waits
  obtain ⟨more, rfl, rfl, rfl⟩ := exists_of_shown shows
  exact ⟨more, rfl, rest⟩

/-- A wait comes to its end on a step clock, if it makes no more checks than the counter has
values. -/
theorem Waits.wait_eq_some {timeout : Duration} {total : Nat} {verdict : Bool}
    (waits : Waits (timeout.toCycles clock.frequency) ready (shown reads clock) verdict total)
    (enough : total ≤ counterPeriod) :
    clock.wait timeout ready =
      some { ready := verdict, calls := total, clock := clock.after reads } := by
  obtain ⟨more, rfl, rest⟩ := waits.exists_spins
  have ends := rest.spin_eq_some (Nat.le_add_left_of_le enough)
  rw [after_one_after] at ends
  simp only [wait, read_eq, ends]

theorem Waits.unique {others total other : Nat} {verdict another : Bool}
    (waits : Waits budget ready (shown reads clock) verdict total)
    (again : Waits budget ready (shown others clock) another other) :
    others = reads ∧ another = verdict ∧ other = total := by
  obtain ⟨more, rfl, rest⟩ := waits.exists_spins
  obtain ⟨less, rfl, restAgain⟩ := again.exists_spins
  obtain ⟨rfl, same⟩ := rest.unique restAgain
  exact ⟨rfl, same⟩

/-- A wait on a clock comes to this end, and it takes so many readings and no other
number. -/
structure EndsAfter (clock : StepClock) (timeout : Duration) (ready : Nat → Bool)
    (reads : Nat) (outcome : Wait) : Prop where
  comes : clock.wait timeout ready = some outcome
  takes : ∀ count verdict total,
    Waits (timeout.toCycles clock.frequency) ready (shown count clock) verdict total ↔
      count = reads ∧ verdict = outcome.ready ∧ total = outcome.calls

theorem Waits.endsAfter {timeout : Duration} {total : Nat} {verdict : Bool}
    (waits : Waits (timeout.toCycles clock.frequency) ready (shown reads clock) verdict total)
    (enough : total ≤ counterPeriod) :
    clock.EndsAfter timeout ready reads
      { ready := verdict, calls := total, clock := clock.after reads } where
  comes := waits.wait_eq_some enough
  takes count another other := by
    constructor
    · exact waits.unique
    · rintro ⟨rfl, rfl, rfl⟩
      exact waits

/-! ## Measurements -/

/-- A measurement comes to its end on a step clock, unless it is stopped before. -/
theorem Counts.elapse_eq_some {elapsed total : UInt64} {fuel : Nat}
    (counts : Counts start budget elapsed (shown reads clock) total) (enough : reads < fuel) :
    elapse start budget fuel elapsed clock = some (total, clock.after reads) := by
  generalize shows : shown reads clock = readings at counts
  obtain ⟨fuel, rfl⟩ := Nat.exists_eq_add_one_of_ne_zero (Nat.ne_zero_of_lt enough)
  induction counts generalizing reads clock fuel with
  | ends spent =>
      obtain rfl := eq_zero_of_shown shows
      simp only [elapse, UInt64.not_lt.mpr spent, if_false, after_zero]
  | goesOn left rest inductiveHypothesis =>
      obtain ⟨more, rfl, rfl, remain⟩ := exists_of_shown shows
      obtain ⟨fuel, rfl⟩ : ∃ less, fuel = less + 1 := ⟨fuel - 1, by omega⟩
      have onward := inductiveHypothesis remain fuel (Nat.lt_of_succ_lt_succ enough)
      rw [after_one_after] at onward
      rw [elapse, if_pos left, read_eq]
      exact onward

/-- On one clock a measurement goes on in one way only. -/
theorem Counts.unique {elapsed total other : UInt64} {others : Nat}
    (counts : Counts start budget elapsed (shown reads clock) total)
    (again : Counts start budget elapsed (shown others clock) other) :
    others = reads ∧ other = total := by
  generalize shows : shown reads clock = readings at counts
  generalize showsAgain : shown others clock = values at again
  induction counts generalizing reads others clock values with
  | ends spent =>
      cases again with
      | ends => exact ⟨(eq_zero_of_shown showsAgain).trans (eq_zero_of_shown shows).symm, rfl⟩
      | goesOn left => exact absurd left (UInt64.not_lt.mpr spent)
  | goesOn left rest inductiveHypothesis =>
      cases again with
      | ends spent => exact absurd left (UInt64.not_lt.mpr spent)
      | goesOn _ restAgain =>
          obtain ⟨more, rfl, rfl, remain⟩ := exists_of_shown shows
          obtain ⟨less, rfl, rfl, remainAgain⟩ := exists_of_shown showsAgain
          obtain ⟨rfl, same⟩ := inductiveHypothesis remain _ remainAgain restAgain
          exact ⟨rfl, same⟩

/-- The first reading of a measurement is where the clock stands. -/
theorem Measures.exists_counts {total : UInt64}
    (measures : Measures budget (shown reads clock) total) :
    ∃ more, reads = more + 1 ∧
      Counts clock.now budget 0 (shown more (clock.after 1)) total := by
  generalize shows : shown reads clock = readings at measures
  obtain ⟨rest⟩ := measures
  obtain ⟨more, rfl, rfl, rfl⟩ := exists_of_shown shows
  exact ⟨more, rfl, rest⟩

theorem Measures.unique {others : Nat} {total other : UInt64}
    (measures : Measures budget (shown reads clock) total)
    (again : Measures budget (shown others clock) other) :
    others = reads ∧ other = total := by
  obtain ⟨more, rfl, rest⟩ := measures.exists_counts
  obtain ⟨less, rfl, restAgain⟩ := again.exists_counts
  obtain ⟨rfl, same⟩ := rest.unique restAgain
  exact ⟨rfl, same⟩

/-- A measurement yields a calibration, if it takes no more readings than the counter has
values. -/
theorem Measures.exists_calibration {window : Duration} {total : UInt64}
    (measures : Measures (window.toCycles clock.frequency) (shown reads clock) total)
    (enough : reads ≤ counterPeriod) (ticks : UInt64) :
    ∃ calibration, Calibration.measure clock window ticks = some calibration ∧
      calibration.reference = clock.after reads := by
  obtain ⟨more, rfl, rest⟩ := measures.exists_counts
  have ends := rest.elapse_eq_some enough
  rw [after_one_after] at ends
  simp only [Calibration.measure, read_eq, ends]
  exact ⟨_, rfl, rfl⟩

/-! ## How many there are -/

/-- A condition comes true at this check, counted from one, and at none before. -/
structure ComesTrueAt (ready : Nat → Bool) (first : Nat) : Prop where
  counted : 0 < first
  holds : ready first = true
  before : ∀ call, 0 < call → call < first → ready call = false

/-- A condition that comes true late, or never, fails at every check up to then. -/
theorem fails_of_late {checks : Nat} (late : ∀ first, ComesTrueAt ready first → checks < first) :
    ∀ call, 0 < call → call ≤ checks → ready call = false := by
  intro call
  induction call using Nat.strong_induction_on with
  | _ call inductiveHypothesis =>
      intro counted early
      rw [← Bool.not_eq_true]
      intro holds
      have comes : ComesTrueAt ready call := ⟨counted, holds, fun earlier positive before =>
        inductiveHypothesis earlier before positive (by omega)⟩
      exact absurd (late call comes) (Nat.not_lt.mpr early)

/-- The budget is not spent by the steps that are fewer than its share of them. -/
theorem lt_ceilDiv_iff {budget step count : Nat} (moves : 0 < step) :
    count < budget ⌈/⌉ step ↔ count * step < budget := by
  rw [← Nat.not_le, ceilDiv_le_iff_le_mul moves, Nat.not_le, Nat.mul_comm]

/-- The last step that the budget takes goes less than a step past its end. -/
theorem ceilDiv_mul_lt {budget step : Nat} (moves : 0 < step) :
    (budget ⌈/⌉ step) * step < budget + step := by
  cases count : budget ⌈/⌉ step with
  | zero => omega
  | succ before =>
      have early : before * step < budget := (lt_ceilDiv_iff moves).mp (by omega)
      rw [Nat.succ_mul]
      omega

/-- Checks that fail within the budget bring a wait on as far as the next one. -/
theorem Spins.after_failing {checks more total : Nat} {verdict : Bool}
    (failing : ∀ call, 0 < call → call ≤ checks →
      ready call = false ∧ call * clock.step.toNat < budget.toNat)
    (rest : Spins clock.now budget ready checks (shown more (clock.after (checks + 1)))
      verdict total) :
    Spins clock.now budget ready 0 (shown (checks + more) (clock.after 1)) verdict total := by
  induction checks generalizing more with
  | zero => rwa [Nat.zero_add]
  | succ checks inductiveHypothesis =>
      obtain ⟨fails, within⟩ := failing (checks + 1) (Nat.succ_pos checks) (Nat.le_refl _)
      have longer : Spins clock.now budget ready checks
          (shown (more + 1) (clock.after (checks + 1))) verdict total := by
        rw [shown, after_after]
        exact .goesOn fails (elapsed_lt within) rest
      have whole := inductiveHypothesis
        (fun call counted early => failing call counted (Nat.le_succ_of_le early)) longer
      rwa [Nat.add_right_comm, Nat.add_assoc]

/-- Readings within the budget bring a measurement on as far as the next one. -/
theorem Counts.after_lasting {more : Nat} {total : UInt64}
    (lasting : ∀ count, count < reads → count * clock.step.toNat < budget.toNat)
    (rest : Counts clock.now budget ((clock.after reads).now - clock.now)
      (shown more (clock.after (reads + 1))) total) :
    Counts clock.now budget 0 (shown (reads + more) (clock.after 1)) total := by
  induction reads generalizing more with
  | zero =>
      rw [after_zero, UInt64.sub_self] at rest
      rwa [Nat.zero_add]
  | succ reads inductiveHypothesis =>
      have within := lasting reads (Nat.lt_succ_self reads)
      have longer : Counts clock.now budget ((clock.after reads).now - clock.now)
          (shown (more + 1) (clock.after (reads + 1))) total := by
        rw [shown, after_after]
        exact .goesOn (elapsed_lt within) rest
      have whole := inductiveHypothesis
        (fun count early => lasting count (Nat.lt_succ_of_lt early)) longer
      rwa [Nat.add_right_comm, Nat.add_assoc]

/-- How often a wait checks before it gives up: once for each step that the budget takes,
and at least once. -/
def patience (budget step : UInt64) : Nat :=
  max 1 (budget.toNat ⌈/⌉ step.toNat)

theorem patience_pos (budget step : UInt64) : 0 < patience budget step :=
  Nat.le_max_left 1 _

section Exact

variable (moves : 0 < clock.step.toNat)
include moves

/-- A check before the last leaves time for another one. -/
theorem lasts_of_lt_patience {call : Nat} (counted : 0 < call)
    (early : call < patience budget clock.step) : call * clock.step.toNat < budget.toNat :=
  (lt_ceilDiv_iff moves).mp ((lt_max_iff.mp early).resolve_left (by omega))

/-- A condition that comes true in time ends the wait. -/
theorem waits_in_time {first : Nat} (comes : ComesTrueAt ready first)
    (early : first ≤ patience budget clock.step) :
    Waits budget ready (shown first clock) true first := by
  obtain ⟨failed, rfl⟩ := Nat.exists_eq_succ_of_ne_zero comes.counted.ne'
  have last : Spins clock.now budget ready failed (shown 0 (clock.after (failed + 1))) true
      (failed + 1) := .succeeds comes.holds
  have failing : ∀ call, 0 < call → call ≤ failed →
      ready call = false ∧ call * clock.step.toNat < budget.toNat := fun call counted before =>
    ⟨comes.before call counted (Nat.lt_succ_of_le before),
      lasts_of_lt_patience moves counted (Nat.lt_of_lt_of_le (Nat.lt_succ_of_le before) early)⟩
  exact .begins (last.after_failing failing)

/-- A step that would reach past the end of the counter is never needed. -/
theorem patience_mul_lt (short : budget.toNat + clock.step.toNat ≤ 2 ^ 64) :
    patience budget clock.step * clock.step.toNat < 2 ^ 64 := by
  have bound := clock.step.toNat_lt
  have steps : (budget.toNat ⌈/⌉ clock.step.toNat) * clock.step.toNat <
      budget.toNat + clock.step.toNat := ceilDiv_mul_lt moves
  unfold patience
  rcases Nat.le_total 1 (budget.toNat ⌈/⌉ clock.step.toNat) with some | none
  · rw [Nat.max_eq_right some]
    omega
  · rw [Nat.max_eq_left none]
    omega

/-- A condition that does not come true in time is checked until the budget is spent. -/
theorem waits_in_vain (short : budget.toNat + clock.step.toNat ≤ 2 ^ 64)
    (failing : ∀ call, 0 < call → call ≤ patience budget clock.step → ready call = false) :
    Waits budget ready (shown (patience budget clock.step + 1) clock) false
      (patience budget clock.step) := by
  have within := patience_mul_lt moves short
  have steps : budget.toNat ≤ patience budget clock.step * clock.step.toNat := by
    rw [Nat.mul_comm, ← ceilDiv_le_iff_le_mul moves]
    exact Nat.le_max_right 1 _
  have counted := patience_pos budget clock.step
  have lasts : ∀ call, 0 < call → call < patience budget clock.step →
      call * clock.step.toNat < budget.toNat := fun _ => lasts_of_lt_patience moves
  generalize patience budget clock.step = checks at within steps counted failing lasts
  obtain ⟨failed, rfl⟩ := Nat.exists_eq_succ_of_ne_zero counted.ne'
  have last : Spins clock.now budget ready failed (shown 1 (clock.after (failed + 1))) false
      (failed + 1) :=
    .expires (failing (failed + 1) counted (Nat.le_refl _)) (le_elapsed within steps)
  have before : ∀ call, 0 < call → call ≤ failed →
      ready call = false ∧ call * clock.step.toNat < budget.toNat := fun call positive early =>
    ⟨failing call positive (Nat.le_succ_of_le early),
      lasts call positive (Nat.lt_succ_of_le early)⟩
  exact .begins (last.after_failing before)

/-- A measurement reads until the budget is spent, and not once more. -/
theorem measures_exactly (short : budget.toNat + clock.step.toNat ≤ 2 ^ 64) :
    let steps := budget.toNat ⌈/⌉ clock.step.toNat
    ∃ total, Measures budget (shown (steps + 1) clock) total ∧
      total.toNat = steps * clock.step.toNat := by
  intro steps
  have within : steps * clock.step.toNat < 2 ^ 64 :=
    Nat.lt_of_lt_of_le (ceilDiv_mul_lt moves) short
  have spent : budget.toNat ≤ steps * clock.step.toNat := by
    rw [Nat.mul_comm, ← ceilDiv_le_iff_le_mul moves]
  have last : Counts clock.now budget ((clock.after steps).now - clock.now)
      (shown 0 (clock.after (steps + 1))) _ := .ends (le_elapsed within spent)
  have lasting : ∀ count, count < steps → count * clock.step.toNat < budget.toNat := fun _ =>
    (lt_ceilDiv_iff moves).mp
  exact ⟨_, .begins (last.after_lasting lasting), elapsed_after within⟩

/-- The steps that a budget takes are no more than the counter has values. -/
theorem ceilDiv_lt_counterPeriod : budget.toNat ⌈/⌉ clock.step.toNat < counterPeriod :=
  Nat.lt_of_le_of_lt
    ((ceilDiv_le_iff_le_mul moves).mpr (Nat.le_mul_of_pos_left _ moves)) budget.toNat_lt

theorem patience_le_counterPeriod : patience budget clock.step ≤ counterPeriod :=
  Nat.max_le.mpr ⟨by decide, (ceilDiv_lt_counterPeriod moves).le⟩

variable {timeout : Duration}

/-- A wait for what comes true in time. -/
theorem endsAfter_in_time {first : Nat} (comes : ComesTrueAt ready first)
    (early : first ≤ patience (timeout.toCycles clock.frequency) clock.step) :
    clock.EndsAfter timeout ready first
      { ready := true, calls := first, clock := clock.after first } :=
  (waits_in_time moves comes early).endsAfter (early.trans (patience_le_counterPeriod moves))

/-- A wait for what comes true late, or never. -/
theorem endsAfter_in_vain
    (short : (timeout.toCycles clock.frequency).toNat + clock.step.toNat ≤ 2 ^ 64)
    (late : ∀ first, ComesTrueAt ready first →
      patience (timeout.toCycles clock.frequency) clock.step < first) :
    let checks := patience (timeout.toCycles clock.frequency) clock.step
    clock.EndsAfter timeout ready (checks + 1)
      { ready := false, calls := checks, clock := clock.after (checks + 1) } :=
  (waits_in_vain moves short (fails_of_late late)).endsAfter (patience_le_counterPeriod moves)

end Exact

/-- Timed waits end after the exact number of checks, wherever the counter starts.  Let the
last step that the budget takes not reach past the end of the counter.  A condition that
comes true at a check within the budget ends the wait there, with as many readings; any
other is checked once for each step that the budget takes, and at least once, with one
reading more.  Nothing of this depends on where the counter starts, so it may wrap during
the wait.  And to measure a counter for that time takes one reading, and one more for each
of these steps. -/
theorem timed_waits_are_exact (clock : StepClock) (duration : Duration) (ready : Nat → Bool)
    (ticks : UInt64) (moves : 1 ≤ clock.step)
    (short : (duration.toCycles clock.frequency).toNat ≤ 2 ^ 64 - clock.step.toNat) :
    let budget := duration.toCycles clock.frequency
    let steps := budget.toNat ⌈/⌉ clock.step.toNat
    let checks := max 1 steps
    (∀ first, ComesTrueAt ready first → first ≤ checks →
        clock.EndsAfter duration ready first
          { ready := true, calls := first, clock := clock.after first }) ∧
      ((∀ first, ComesTrueAt ready first → checks < first) →
        clock.EndsAfter duration ready (checks + 1)
          { ready := false, calls := checks, clock := clock.after (checks + 1) }) ∧
      (∃ reads verdict calls, 0 < calls ∧ ∀ start : UInt64,
        let other := { clock with now := start }
        other.EndsAfter duration ready reads
          { ready := verdict, calls, clock := other.after reads }) ∧
      (∀ count total, Measures budget (shown count clock) total ↔
        count = 1 + steps ∧ total.toNat = steps * clock.step.toNat) ∧
      ∃ calibration, Calibration.measure clock duration ticks = some calibration ∧
        calibration.reference = clock.after (1 + steps) := by
  intro budget steps checks
  have positive : 0 < clock.step.toNat := UInt64.le_iff_toNat_le.mp moves
  have room : budget.toNat + clock.step.toNat ≤ 2 ^ 64 := by
    have bound := clock.step.toNat_lt
    show (duration.toCycles clock.frequency).toNat + clock.step.toNat ≤ 2 ^ 64
    omega
  obtain ⟨total, measures, elapsed⟩ := measures_exactly positive room
  rw [Nat.add_comm] at measures
  refine ⟨fun first => endsAfter_in_time positive, endsAfter_in_vain positive room, ?_, ?_, ?_⟩
  · -- where the counter starts is not looked at on the way to the end
    by_cases late : ∀ first, ComesTrueAt ready first → checks < first
    · refine ⟨checks + 1, false, checks, patience_pos budget clock.step, ?_⟩
      intro start other
      have moves : 0 < other.step.toNat := positive
      exact endsAfter_in_vain moves room late
    · push Not at late
      obtain ⟨first, comes, early⟩ := late
      refine ⟨first, true, first, comes.counted, ?_⟩
      intro start other
      have moves : 0 < other.step.toNat := positive
      exact endsAfter_in_time moves comes early
  · intro count other
    constructor
    · intro again
      obtain ⟨rfl, rfl⟩ := measures.unique again
      exact ⟨rfl, elapsed⟩
    · rintro ⟨rfl, same⟩
      rwa [UInt64.toNat_inj.mp (same.trans elapsed.symm)]
  · have enough : 1 + steps ≤ counterPeriod := by
      rw [Nat.add_comm]
      exact ceilDiv_lt_counterPeriod positive
    exact measures.exists_calibration enough ticks

/-- A counter that wraps at its second reading, with a budget of ten ticks in steps of
three. -/
theorem timed_waits_are_exact_across_the_wrap :
    let clock : StepClock := ⟨18446744073709551614, 3, 1000⟩
    let duration : Duration := ⟨0, 10000000, by decide⟩
    1 ≤ clock.step ∧ (duration.toCycles clock.frequency).toNat ≤ 2 ^ 64 - clock.step.toNat ∧
      clock.EndsAfter duration (· == 3) 3 { ready := true, calls := 3, clock := ⟨7, 3, 1000⟩ } ∧
      clock.EndsAfter duration (fun _ => false) 5
        { ready := false, calls := 4, clock := ⟨13, 3, 1000⟩ } ∧
      ∃ calibration, Calibration.measure clock duration 30 = some calibration ∧
        calibration.reference = ⟨13, 3, 1000⟩ := by
  intro clock duration
  have moves : 1 ≤ clock.step := by decide
  have short : (duration.toCycles clock.frequency).toNat ≤ 2 ^ 64 - clock.step.toNat := by
    decide
  have steps : (duration.toCycles clock.frequency).toNat ⌈/⌉ clock.step.toNat = 4 := by decide
  have third : ComesTrueAt (· == 3) 3 := ⟨by decide, rfl, by grind⟩
  obtain ⟨inTime, -⟩ := timed_waits_are_exact clock duration (· == 3) 30 moves short
  obtain ⟨-, inVain, -, -, measures⟩ :=
    timed_waits_are_exact clock duration (fun _ => false) 30 moves short
  rw [steps] at inTime inVain measures
  have afterThree : clock.after 3 = ⟨7, 3, 1000⟩ := by decide
  have afterFive : clock.after 5 = ⟨13, 3, 1000⟩ := by decide
  rw [← afterThree, ← afterFive]
  refine ⟨moves, short, inTime 3 third (by decide), ?_, measures⟩
  exact inVain fun first comes => absurd comes.holds Bool.false_ne_true

end StepClock

end NetStack
