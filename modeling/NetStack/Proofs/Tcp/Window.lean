/-
Module: NetStack.Proofs.Tcp.Window
Purpose: The windows of a pool as plain lists of bytes, over every run of what is done to
  them.
Main exports:
  Tcp.ReceiveWindow.Holds, Tcp.WindowUse, Tcp.WindowUse.onList, Tcp.WindowUse.onPool,
  Tcp.Pool.Keeps, Tcp.Pool.Keeps.use, Tcp.Pool.windows_are_bounded_lists
-/
import Mathlib.Logic.Function.Basic
import NetStack.Proofs.Tcp.Channel
import NetStack.Proofs.Tcp.Pool

namespace NetStack.Tcp

/-!
A window keeps bytes above its mark that were dropped long ago.  Beside each window a plain
list is kept, to which the same is done and which has nothing but what it holds.  They
agree after every run, so the stale bytes never come to light again.
-/

/-- What is done to the window of a channel. -/
inductive WindowUse where
  | append (payload : Bytes)
  | truncate (length : Nat)
  | clear
  /-- The whole channel goes back to its initial binding. -/
  | reset

namespace WindowUse

/-- It is done to a list of bytes: whether it is accepted, and the list afterwards. -/
def onList (bytes : Bytes) : WindowUse → Except Failure Unit × Bytes
  | .append payload =>
      if bytes.length + payload.length < 14600 then
        (.ok (), bytes ++ payload)
      else
        (.error (.refused .bufferOverflow), bytes)
  | .truncate length => (.ok (), bytes.take length)
  | .clear => (.ok (), [])
  | .reset => (.ok (), [])

/-- It is done to a channel of a pool: whether it is accepted, and the pool afterwards. -/
def onPool (pool : Pool) (index : Fin poolSize) : WindowUse → Except Failure Unit × Pool
  | .append payload =>
      match (pool.get index).window.append payload with
      | .ok window => (.ok (), pool.set index { pool.get index with window })
      | .error failure => (.error failure, pool)
  | .truncate length =>
      let window := (pool.get index).window.truncate length
      (.ok (), pool.set index { pool.get index with window })
  | .clear =>
      let window := (pool.get index).window.clear
      (.ok (), pool.set index { pool.get index with window })
  | .reset => (.ok (), pool.reset index)

/-- A list of bytes after all this was done to it. -/
def listAfter (bytes : Bytes) (uses : List WindowUse) : Bytes :=
  uses.foldl (fun bytes use => (use.onList bytes).2) bytes

/-- A pool after something was done to one channel after the other. -/
def poolAfter (pool : Pool) (uses : List (Fin poolSize × WindowUse)) : Pool :=
  uses.foldl (fun pool turn => (turn.2.onPool pool turn.1).2) pool

/-- What was done to one of the channels. -/
def aimedAt (index : Fin poolSize) (uses : List (Fin poolSize × WindowUse)) : List WindowUse :=
  (uses.filter fun turn => turn.1 = index).map Prod.snd

theorem aimedAt_cons (index : Fin poolSize) (turn : Fin poolSize × WindowUse)
    (uses : List (Fin poolSize × WindowUse)) :
    aimedAt index (turn :: uses) =
      if turn.1 = index then turn.2 :: aimedAt index uses else aimedAt index uses := by
  by_cases here : turn.1 = index
  · simp [aimedAt, here]
  · simp [aimedAt, here]

/-- Only the channel that it is done to is touched. -/
theorem get_onPool_other {pool : Pool} {index other : Fin poolSize} (different : other ≠ index)
    (use : WindowUse) : (use.onPool pool index).2.get other = pool.get other := by
  cases use with
  | append payload =>
      unfold onPool
      dsimp only
      split
      · exact Pool.get_set_other _ different.symm
      · rfl
  | truncate length => exact Pool.get_set_other _ different.symm
  | clear => exact Pool.get_set_other _ different.symm
  | reset => exact Pool.get_set_other _ different.symm

end WindowUse

/-! ## One window -/

namespace ReceiveWindow

/-- A window in which these bytes, and no others, count as received. -/
structure Holds (window : ReceiveWindow) (bytes : Bytes) : Prop where
  sized : window.cells.length = windowSize
  filled : window.fill = bytes.length
  short : bytes.length < windowSize
  received : window.received = bytes

theorem holds_empty : empty.Holds [] where
  sized := Bytes.length_zeros windowSize
  filled := rfl
  short := by decide
  received := rfl

variable {window : ReceiveWindow} {bytes : Bytes}

namespace Holds

/-- What counts as received can be read out of the buffer. -/
theorem slice_eq_ok (holds : window.Holds bytes) :
    Bytes.slice window.cells 0 window.fill = .ok bytes := by
  have inside : window.fill ≤ window.cells.length := by
    rw [holds.sized, holds.filled]
    exact Nat.le_of_lt holds.short
  rw [Bytes.slice_eq_ok (Nat.zero_le _) inside, List.drop_zero]
  exact congrArg Except.ok holds.received

theorem append (holds : window.Holds bytes) {payload : Bytes}
    (room : bytes.length + payload.length < windowSize) :
    ∃ longer, window.append payload = .ok longer ∧ longer.Holds (bytes ++ payload) := by
  rw [← holds.filled] at room
  obtain ⟨longer, appended, sized, filled, received, -⟩ := append_fits holds.sized room
  refine ⟨longer, appended, sized, ?_, ?_, ?_⟩
  · rw [filled, holds.filled, List.length_append]
  · rwa [List.length_append, ← holds.filled]
  · rw [received, holds.received]

theorem append_full (holds : window.Holds bytes) {payload : Bytes}
    (full : ¬bytes.length + payload.length < windowSize) :
    window.append payload = .error (.refused .bufferOverflow) := by
  apply append_overflows
  rw [holds.filled]
  exact Nat.not_lt.mp full

/-- What is dropped does not count as received, though it stays in the buffer. -/
theorem truncate (holds : window.Holds bytes) (length : Nat) :
    (window.truncate length).Holds (bytes.take length) where
  sized := holds.sized
  filled := by rw [ReceiveWindow.truncate, holds.filled, List.length_take, Nat.min_comm]
  short := Nat.lt_of_le_of_lt (List.length_take_le' length bytes) holds.short
  received := by
    rw [← holds.received]
    simp only [ReceiveWindow.truncate, ReceiveWindow.received, List.take_take, Nat.min_comm]

theorem clear (holds : window.Holds bytes) : window.clear.Holds [] where
  sized := holds.sized
  filled := rfl
  short := by decide
  received := rfl

end Holds

end ReceiveWindow

/-! ## All windows of a pool -/

namespace Pool

/-- Each window of the pool holds its list. -/
def Keeps (pool : Pool) (lists : Fin poolSize → Bytes) : Prop :=
  ∀ index, (pool.get index).window.Holds (lists index)

theorem keeps_listening (localAddress defaultPeer : Ipv4Address) :
    (listening localAddress defaultPeer).Keeps fun _ => [] := by
  intro index
  rw [get_listening]
  exact ReceiveWindow.holds_empty

variable {pool : Pool} {lists : Fin poolSize → Bytes}

theorem Keeps.set (keeps : pool.Keeps lists) {index : Fin poolSize} {channel : Channel}
    {bytes : Bytes} (holds : channel.window.Holds bytes) :
    (pool.set index channel).Keeps (Function.update lists index bytes) := by
  intro other
  rw [get_set]
  split
  · next same =>
    rw [← same, Function.update_self]
    exact holds
  · next different =>
    rw [Function.update_of_ne (Ne.symm different)]
    exact keeps other

/-- A window and its list answer alike, and go on agreeing. -/
theorem Keeps.use (keeps : pool.Keeps lists) (index : Fin poolSize) (use : WindowUse) :
    (use.onPool pool index).1 = (use.onList (lists index)).1 ∧
      (use.onPool pool index).2.Keeps
        (Function.update lists index (use.onList (lists index)).2) := by
  have holds := keeps index
  cases use with
  | append payload =>
      by_cases room : (lists index).length + payload.length < 14600
      · obtain ⟨longer, appended, onward⟩ := holds.append room
        simp only [WindowUse.onPool, WindowUse.onList, appended, room, if_true]
        exact ⟨trivial, keeps.set onward⟩
      · simp only [WindowUse.onPool, WindowUse.onList, holds.append_full room, room, if_false,
          Function.update_eq_self]
        exact ⟨trivial, keeps⟩
  | truncate length => exact ⟨rfl, keeps.set (holds.truncate length)⟩
  | clear => exact ⟨rfl, keeps.set holds.clear⟩
  | reset => exact ⟨rfl, keeps.set ReceiveWindow.holds_empty⟩

theorem Keeps.holds_use (keeps : pool.Keeps lists) (index : Fin poolSize) (use : WindowUse) :
    ((use.onPool pool index).2.get index).window.Holds (use.onList (lists index)).2 := by
  have onward := (keeps.use index use).2 index
  rwa [Function.update_self] at onward

/-- A payload that was appended can be taken back. -/
theorem Keeps.received_restored (keeps : pool.Keeps lists) (index : Fin poolSize)
    {payload : Bytes} (room : (lists index).length + payload.length < 14600) :
    let longer := ((WindowUse.append payload).onPool pool index).2
    let restored := ((WindowUse.truncate (lists index).length).onPool longer index).2
    (restored.get index).received = lists index := by
  intro longer restored
  have onward := (keeps.use index (.append payload)).2
  have back := (onward.holds_use index (.truncate (lists index).length)).received
  rw [Function.update_self, WindowUse.onList, WindowUse.onList, if_pos room] at back
  rw [List.take_left] at back
  exact back

/-- A payload that does not fit changes nothing at all. -/
theorem Keeps.append_full (keeps : pool.Keeps lists) {index : Fin poolSize} {payload : Bytes}
    (full : ¬(lists index).length + payload.length < 14600) :
    (WindowUse.append payload).onPool pool index = (.error (.refused .bufferOverflow), pool) := by
  rw [WindowUse.onPool, (keeps index).append_full full]

/-- After a run each window holds what the same makes of its list, if it held the list
before. -/
theorem Keeps.run (keeps : pool.Keeps lists) (uses : List (Fin poolSize × WindowUse)) :
    (WindowUse.poolAfter pool uses).Keeps fun index =>
      WindowUse.listAfter (lists index) (WindowUse.aimedAt index uses) := by
  induction uses generalizing pool lists with
  | nil => exact keeps
  | cons turn uses inductiveHypothesis =>
      obtain ⟨target, use⟩ := turn
      obtain ⟨-, onward⟩ := keeps.use target use
      intro index
      have holds := inductiveHypothesis onward index
      dsimp only at holds ⊢
      rw [WindowUse.aimedAt_cons]
      split
      · next here =>
        rw [← here, Function.update_self] at holds
        rw [← here]
        exact holds
      · next elsewhere =>
        rw [Function.update_of_ne (Ne.symm elsewhere)] at holds
        exact holds

theorem keeps_after (localAddress defaultPeer : Ipv4Address)
    (uses : List (Fin poolSize × WindowUse)) :
    (WindowUse.poolAfter (listening localAddress defaultPeer) uses).Keeps fun index =>
      WindowUse.listAfter [] (WindowUse.aimedAt index uses) :=
  (keeps_listening localAddress defaultPeer).run uses

/-- The windows of a pool are lists of fewer than 14600 bytes.  After every run of appends,
truncations, clearings and resets on fresh channels, each channel has received what the
same, as far as it was aimed at that channel, makes of an empty list; and whatever is done
to it next is answered as the list answers, has the same effect, and touches no other
channel.  A payload is appended exactly if it leaves a byte free: then to truncate to the
length before brings back what was there before, and otherwise nothing changes.  To
truncate is to keep the first bytes, as many as there are.  And what is received lies
inside the buffer. -/
theorem windows_are_bounded_lists (localAddress defaultPeer : Ipv4Address)
    (uses : List (Fin poolSize × WindowUse)) (index : Fin poolSize) :
    let reached := WindowUse.poolAfter (listening localAddress defaultPeer) uses
    let window := (reached.get index).window
    let held := WindowUse.listAfter [] (WindowUse.aimedAt index uses)
    (reached.get index).received = held ∧ held.length < 14600 ∧
      Bytes.slice window.cells 0 window.fill = .ok held ∧
      (∀ use : WindowUse,
        (use.onPool reached index).1 = (use.onList held).1 ∧
          ((use.onPool reached index).2.get index).received = (use.onList held).2 ∧
          ∀ other, other ≠ index → (use.onPool reached index).2.get other = reached.get other) ∧
      (∀ payload : Bytes,
        let appended := (WindowUse.append payload).onPool reached index
        if held.length + payload.length < 14600 then
          appended.1 = .ok () ∧ (appended.2.get index).received = held ++ payload ∧
            let restored := ((WindowUse.truncate held.length).onPool appended.2 index).2
            (restored.get index).received = held
        else
          appended = (.error (.refused .bufferOverflow), reached)) ∧
      ∀ length, let cut := ((WindowUse.truncate length).onPool reached index).2
        (cut.get index).received = held.take (min length held.length) := by
  intro reached window held
  have keeps := keeps_after localAddress defaultPeer uses
  have holds : window.Holds held := keeps index
  have seen (use : WindowUse) :
      ((use.onPool reached index).2.get index).received = (use.onList held).2 :=
    (keeps.holds_use index use).received
  refine ⟨holds.received, holds.short, holds.slice_eq_ok, ?_, ?_, ?_⟩
  · intro use
    exact ⟨(keeps.use index use).1, seen use, fun other different =>
      WindowUse.get_onPool_other different use⟩
  · intro payload appended
    split
    · next room =>
      have accepted := (keeps.use index (.append payload)).1
      have longer := seen (.append payload)
      rw [WindowUse.onList, if_pos room] at accepted longer
      exact ⟨accepted, longer, keeps.received_restored index room⟩
    · next full => exact keeps.append_full full
  · intro length cut
    have first : (cut.get index).received = held.take length := seen (.truncate length)
    rw [first]
    exact List.take_eq_take_min

end Pool

end NetStack.Tcp
