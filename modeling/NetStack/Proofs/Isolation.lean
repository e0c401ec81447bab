/-
Module: NetStack.Proofs.Isolation
Purpose: Connections on different ports do not notice each other: what frames
  for one port bring about does not depend on the frames for other ports that
  arrive in between.
Main exports:
  Interleaves, Interface.AgreeAt, Interface.AgreeAt.matches,
  Interface.Resting.agree_delivery, Interface.Resting.confined_delivery,
  Interface.AsIfAlone, Setup.ports_do_not_interfere
-/
import Mathlib.Data.List.Forall2
import NetStack.Proofs.Ports
import NetStack.Proofs.Retry

namespace NetStack

open Interface (Operation)

/-!
Two interfaces agree at a port when they have the same configuration, know the
same stations and have the same channel at that port.  A frame for the port cannot
tell them apart: it is answered alike, and they agree again afterwards.  A frame
for any other port leaves the two in agreement although only one of them gets it,
because it changes one channel and the number of the next packet.  So the frames
for other ports can be left out of a run one by one.
-/

/-! ## Interleavings -/

/-- A list in which the elements of two others take turns, each in their order. -/
inductive Interleaves {α : Type} : List α → List α → List α → Prop where
  | nil : Interleaves [] [] []
  | left {first second merged : List α} (head : α) (rest : Interleaves first second merged) :
      Interleaves (head :: first) second (head :: merged)
  | right {first second merged : List α} (head : α) (rest : Interleaves first second merged) :
      Interleaves first (head :: second) (head :: merged)

namespace Interleaves

variable {α : Type} {first second merged : List α}

theorem symm (interleaves : Interleaves first second merged) :
    Interleaves second first merged := by
  induction interleaves with
  | nil => exact .nil
  | left head rest inductiveHypothesis => exact .right head inductiveHypothesis
  | right head rest inductiveHypothesis => exact .left head inductiveHypothesis

theorem mem_or_mem (interleaves : Interleaves first second merged) {element : α}
    (member : element ∈ merged) : element ∈ first ∨ element ∈ second := by
  induction interleaves with
  | nil => cases member
  | left head rest inductiveHypothesis =>
      rcases List.mem_cons.mp member with rfl | later
      · exact .inl List.mem_cons_self
      · exact (inductiveHypothesis later).imp_left (List.mem_cons_of_mem head)
  | right head rest inductiveHypothesis =>
      rcases List.mem_cons.mp member with rfl | later
      · exact .inr List.mem_cons_self
      · exact (inductiveHypothesis later).imp_right (List.mem_cons_of_mem head)

/-- A test that tells the elements of the two lists apart takes the first list out
again. -/
theorem filter_eq (interleaves : Interleaves first second merged) {test : α → Bool}
    (passes : ∀ element ∈ first, test element = true)
    (fails : ∀ element ∈ second, test element = false) : merged.filter test = first := by
  induction interleaves with
  | nil => rfl
  | left head rest inductiveHypothesis =>
      obtain ⟨passed, others⟩ := List.forall_mem_cons.mp passes
      rw [List.filter_cons_of_pos passed, inductiveHypothesis others fails]
  | right head rest inductiveHypothesis =>
      obtain ⟨failed, others⟩ := List.forall_mem_cons.mp fails
      rw [List.filter_cons_of_neg (Bool.eq_false_iff.mp failed), inductiveHypothesis passes others]

end Interleaves

namespace Interface

/-! ## What comes of a delivery -/

/-- The frame arrived, and was polled, with the same success, and was answered
with the same packets but for their numbers. -/
structure Receipt.Alike (one other : Receipt) : Prop where
  frame : other.frame = one.frame
  accepted : other.accepted = one.accepted
  answer : other.answer = one.answer
  sent : List.Forall₂ Ipv4.Restamped one.sent other.sent

/-- What comes of those among them that are addressed to one port. -/
def receiptsFor (interface : Interface) (port : UInt16) (frames : List Bytes) : List Receipt :=
  (interface.receipts frames).filter fun receipt => Tcp.isFor port receipt.frame

/-- The frames that a run sends from one port. -/
def sentFrom (interface : Interface) (port : UInt16) (operations : List Operation) : List Bytes :=
  (interface.emissions operations).filter (Tcp.isFrom port)

section Deliveries

variable (interface : Interface) {frame : Bytes} {port : UInt16}

theorem receiptsFor_cons (here : Tcp.isFor port frame = true) (frames : List Bytes) :
    interface.receiptsFor port (frame :: frames) =
      interface.receipt frame ::
        (interface.after [.inject frame, .poll]).receiptsFor port frames :=
  List.filter_cons_of_pos here

theorem receiptsFor_cons_other (elsewhere : Tcp.isFor port frame = false) (frames : List Bytes) :
    interface.receiptsFor port (frame :: frames) =
      (interface.after [.inject frame, .poll]).receiptsFor port frames :=
  List.filter_cons_of_neg (Bool.eq_false_iff.mp elsewhere)

/-- Where every frame is for the port, nothing is left out. -/
theorem receiptsFor_eq {frames : List Bytes}
    (here : ∀ frame ∈ frames, Tcp.isFor port frame = true) :
    interface.receiptsFor port frames = interface.receipts frames := by
  induction frames generalizing interface with
  | nil => rfl
  | cons frame frames inductiveHypothesis =>
      obtain ⟨first, others⟩ := List.forall_mem_cons.mp here
      rw [receiptsFor_cons _ first, receipts, inductiveHypothesis _ others]

end Deliveries

/-! ## One port -/

/-- Two interfaces that look alike from one port. -/
structure AgreeAt (port : UInt16) (one other : Interface) : Prop where
  config : other.config = one.config
  cache : other.cache = one.cache
  channels : ∀ index : Fin Tcp.poolSize, Tcp.Pool.localPort index = port →
    other.pool.get index = one.pool.get index

/-- The same is to be done on one port of two interfaces: a frame is dropped for the
same cause, or the channel at the port becomes the same one, and the same segment is
sent if there is one to send. -/
inductive Matches (port : UInt16) (one other : Interface) : Handling → Handling → Prop where
  | refuses (failure : Failure) : Matches port one other (.refuses failure) (.refuses failure)
  | settles {index : Fin Tcp.poolSize} (serves : Tcp.Pool.localPort index = port)
      (channel : Tcp.Channel) :
      Matches port one other (.settles (one.reacted index channel one.identification))
        (.settles (other.reacted index channel other.identification))
  | answers {index : Fin Tcp.poolSize} (serves : Tcp.Pool.localPort index = port)
      {staged : Tcp.Channel} (bound : staged.host.port = port) (flags : Tcp.Flags)
      (payload : Bytes) (next : Tcp.Channel) (unsent otherUnsent : Memory) (excused : Bool) :
      Matches port one other
        (.answers (one.segmentFrame staged flags payload)
          (one.reacted index next (one.identification + 1)) unsent excused)
        (.answers (other.segmentFrame staged flags payload)
          (other.reacted index next (other.identification + 1)) otherUnsent excused)

section Port

variable {port : UInt16} {one other : Interface}

theorem AgreeAt.refl (port : UInt16) (interface : Interface) : AgreeAt port interface interface :=
  ⟨rfl, rfl, fun _ _ => rfl⟩

theorem AgreeAt.symm (agree : AgreeAt port one other) : AgreeAt port other one :=
  ⟨agree.config.symm, agree.cache.symm, fun index serves => (agree.channels index serves).symm⟩

theorem AgreeAt.trans {third : Interface} (first : AgreeAt port one other)
    (second : AgreeAt port other third) : AgreeAt port one third where
  config := second.config.trans first.config
  cache := second.cache.trans first.cache
  channels := fun index serves =>
    (second.channels index serves).trans (first.channels index serves)

/-- Nothing that concerns the port is handled differently by two interfaces that
agree at it. -/
theorem AgreeAt.matches {automatic : Bool} (agree : AgreeAt port one other)
    (sound : one.Sound automatic) (otherSound : other.Sound automatic) {parcel : Parcel}
    (concerns : parcel.For port) :
    Matches port one other (one.handling parcel) (other.handling parcel) := by
  cases concerns with
  | unreadable cause => exact .refuses _
  | @segment segment addressed =>
      have served : other.pool.find? segment.header.destinationPort =
          one.pool.find? segment.header.destinationPort :=
        otherSound.bound.find?_eq sound.bound _
      rw [handling, handling, segmentHandling, segmentHandling, served]
      cases serves : one.pool.find? segment.header.destinationPort with
      | none => exact .refuses _
      | some index =>
          have here : Tcp.Pool.localPort index = port :=
            ((Tcp.Pool.find?_eq_some_iff sound.bound).mp serves).trans addressed
          -- The initial binding of the channel may differ, but no sound channel returns to it.
          have channelSound := sound.channels index
          have same : (other.pool.get index).react (other.pool.fresh index) segment =
              (one.pool.get index).react (one.pool.fresh index) segment := by
            rw [agree.channels index here]
            exact Tcp.Channel.react_fresh channelSound.onLoop _ _
          dsimp only
          rw [same]
          cases reacts : (one.pool.get index).react (one.pool.fresh index) segment with
          | error failure => exact .refuses failure
          | ok reaction =>
              have how := (Tcp.Channel.react_eq_ok_iff channelSound.onLoop).mp reacts
              have bound : reaction.staged.host.port = port := by
                rw [how.staged_host_eq, sound.bound index]
                exact here
              dsimp only [reactionHandling]
              cases reaction.answer? with
              | none => exact .settles here _
              | some answer =>
                  exact .answers here bound answer.flags answer.payload _ _ _ _

namespace Matches

variable {handling again : Handling}

theorem verdict_eq (alike : Matches port one other handling again) :
    again.verdict = handling.verdict := by
  cases alike with
  | refuses failure => rfl
  | settles serves channel => rfl
  | answers serves bound flags payload next unsent otherUnsent excused => rfl

/-- What is sent on the one interface is sent on the other, but for its number. -/
theorem frames_alike (alike : Matches port one other handling again)
    (agree : AgreeAt port one other) :
    List.Forall₂ Ipv4.Restamped handling.frames again.frames := by
  cases alike with
  | refuses failure => exact .nil
  | settles serves channel => exact .nil
  | answers serves bound flags payload next unsent otherUnsent excused =>
      refine .cons ?_ .nil
      rw [take_segmentFrame, take_segmentFrame]
      exact restamped_segmentFrame agree.config agree.cache _ _ _

/-- Whatever is sent is sent from the port. -/
theorem sender_eq (alike : Matches port one other handling again) :
    ∀ frame ∈ handling.frames, Tcp.sender? frame = some port := by
  intro frame member
  cases alike with
  | refuses failure => cases member
  | settles serves channel => cases member
  | answers serves bound flags payload next unsent otherUnsent excused =>
      obtain rfl := List.mem_singleton.mp member
      rw [take_segmentFrame, Tcp.sender?, ports?_segmentFrame, Option.map_some, bound]

/-- Two interfaces that agreed at the port agree at it still. -/
theorem agree (alike : Matches port one other handling again) (agree : AgreeAt port one other) :
    AgreeAt port (one.recalling (handling.remembered one.memory))
      (other.recalling (again.remembered other.memory)) := by
  have changed (index : Fin Tcp.poolSize) (channel : Tcp.Channel)
      (number otherNumber : UInt16) :
      AgreeAt port (one.recalling (one.reacted index channel number))
        (other.recalling (other.reacted index channel otherNumber)) := by
    refine ⟨agree.config, agree.cache, fun place serves => ?_⟩
    show (other.pool.set index channel).get place = (one.pool.set index channel).get place
    rw [Tcp.Pool.get_set, Tcp.Pool.get_set, agree.channels place serves]
  cases alike with
  | refuses failure => exact agree
  | settles serves channel => exact changed _ _ _ _
  | answers serves bound flags payload next unsent otherUnsent excused => exact changed _ _ _ _

/-- At every other port the interface looks as it did before. -/
theorem confined (alike : Matches port one other handling again) {elsewhere : UInt16}
    (apart : port ≠ elsewhere) :
    AgreeAt elsewhere one (one.recalling (handling.remembered one.memory)) := by
  have changed {index : Fin Tcp.poolSize} (serves : Tcp.Pool.localPort index = port)
      (channel : Tcp.Channel) (number : UInt16) :
      AgreeAt elsewhere one (one.recalling (one.reacted index channel number)) := by
    refine ⟨rfl, rfl, fun place there => ?_⟩
    show (one.pool.set index channel).get place = one.pool.get place
    apply Tcp.Pool.get_set_other
    rintro rfl
    exact apart (serves.symm.trans there)
  cases alike with
  | refuses failure => exact .refl elsewhere one
  | settles serves channel => exact changed serves _ _
  | answers serves bound flags payload next unsent otherUnsent excused =>
      exact changed serves _ _

end Matches

end Port

/-! ## One delivery -/

variable {interface one other : Interface} {frame : Bytes} {port : UInt16}

section Delivery

variable (addressed : Tcp.addressee? frame = some port)

include addressed

/-- A frame for a port on which two interfaces agree is received alike by both, and
leaves them in agreement. -/
theorem Resting.agree_delivery (resting : one.Resting) (otherResting : other.Resting)
    (agree : AgreeAt port one other) :
    (one.receipt frame).Alike (other.receipt frame) ∧
      AgreeAt port (one.after [.inject frame, .poll]) (other.after [.inject frame, .poll]) := by
  have concerns := Parcel.arriving_for addressed
  have alike := agree.matches resting.sound otherResting.sound concerns
  obtain ⟨received, left, -⟩ := resting.delivery frame
  obtain ⟨otherReceived, otherLeft, -⟩ := otherResting.delivery frame
  rw [received, otherReceived, left, otherLeft]
  have agreeLater := alike.agree agree
  constructor
  · constructor
    · rfl
    · rfl
    · dsimp only
      rw [alike.verdict_eq]
    · exact alike.frames_alike agree
  · exact ⟨agreeLater.config, agreeLater.cache, agreeLater.channels⟩

/-- A frame for a port is answered from that port, and leaves the interface as it
was at every other one. -/
theorem Resting.confined_delivery (resting : interface.Resting) :
    (∀ sent ∈ (interface.receipt frame).sent, Tcp.sender? sent = some port) ∧
      ∀ elsewhere, port ≠ elsewhere →
        AgreeAt elsewhere interface (interface.after [.inject frame, .poll]) := by
  have concerns := Parcel.arriving_for addressed
  have alike := (AgreeAt.refl port interface).matches resting.sound resting.sound concerns
  obtain ⟨received, left, -⟩ := resting.delivery frame
  rw [received, left]
  refine ⟨alike.sender_eq, fun elsewhere apart => ?_⟩
  have confined := alike.confined apart
  exact ⟨confined.config, confined.cache, confined.channels⟩

end Delivery

/-! ## Many deliveries -/

/-- To a port it is all the same whether frames arrive among others or alone. -/
structure AsIfAlone (interface : Interface) (port : UInt16) (frames alone : List Bytes) :
    Prop where
  receipts : List.Forall₂ Receipt.Alike (interface.receiptsFor port frames)
    (interface.receipts alone)
  sent : List.Forall₂ Ipv4.Restamped (interface.sentFrom port (deliveries frames))
    (interface.sentFrom port (deliveries alone))
  channel : ∀ index, interface.pool.find? port = some index →
    (interface.after (deliveries frames)).pool.get index =
      (interface.after (deliveries alone)).pool.get index

/-- Frames that are addressed to some port each. -/
def Addressed (frames : List Bytes) : Prop :=
  ∀ frame ∈ frames, ∃ port, Tcp.addressee? frame = some port

variable {frames : List Bytes}

/-- The frames for other ports can be left out of a run. -/
theorem Resting.leave_out (resting : one.Resting) (otherResting : other.Resting)
    (agree : AgreeAt port one other) (addressed : Addressed frames) :
    let alone := frames.filter (Tcp.isFor port)
    List.Forall₂ Receipt.Alike (one.receiptsFor port frames) (other.receipts alone) ∧
      AgreeAt port (one.after (deliveries frames)) (other.after (deliveries alone)) := by
  -- The run of the one interface is the longer of the two.
  induction frames generalizing one other with
  | nil => exact ⟨.nil, agree⟩
  | cons frame frames inductiveHypothesis =>
      obtain ⟨⟨place, named⟩, others⟩ := List.forall_mem_cons.mp addressed
      have later := resting.after_delivery frame
      by_cases here : place = port
      · rw [here] at named
        have picked := Tcp.isFor_of_addressee? named
        obtain ⟨alike, agreeLater⟩ := resting.agree_delivery named otherResting agree
        have otherLater := otherResting.after_delivery frame
        obtain ⟨rest, agreeLast⟩ := inductiveHypothesis later otherLater agreeLater others
        rw [List.filter_cons_of_pos picked, receiptsFor_cons _ picked]
        exact ⟨.cons alike rest, agreeLast⟩
      · have skipped := Tcp.isFor_other named here
        obtain ⟨-, confined⟩ := resting.confined_delivery named
        have agreeLater := (confined port here).symm.trans agree
        obtain ⟨rest, agreeLast⟩ := inductiveHypothesis later otherResting agreeLater others
        rw [List.filter_cons_of_neg (Bool.eq_false_iff.mp skipped),
          receiptsFor_cons_other _ skipped]
        exact ⟨rest, agreeLast⟩

/-- A channel that serves none of the ports that frames are addressed to stays as it
was. -/
theorem Resting.untouched (resting : interface.Resting) {index : Fin Tcp.poolSize}
    (elsewhere : ∀ frame ∈ frames, ∃ place, Tcp.addressee? frame = some place ∧
      interface.pool.find? place ≠ some index) :
    (interface.after (deliveries frames)).pool.get index = interface.pool.get index := by
  let port := Tcp.Pool.localPort index
  have addressed : Addressed frames := fun frame member =>
    (elsewhere frame member).imp fun _ => And.left
  have none : frames.filter (Tcp.isFor port) = [] := by
    apply List.filter_eq_nil_iff.mpr
    intro frame member
    obtain ⟨place, named, unserved⟩ := elsewhere frame member
    refine Bool.eq_false_iff.mp (Tcp.isFor_other named ?_)
    rintro rfl
    exact unserved ((Tcp.Pool.find?_eq_some_iff resting.sound.bound).mpr rfl)
  obtain ⟨-, agree⟩ := resting.leave_out resting (.refl port interface) addressed
  rw [none] at agree
  exact (agree.channels index rfl).symm

/-- What is sent from a port is what is sent for the frames that are addressed to
it. -/
theorem Resting.sentFrom_deliveries (resting : interface.Resting) (port : UInt16)
    (addressed : Addressed frames) :
    interface.sentFrom port (deliveries frames) =
      (interface.receiptsFor port frames).flatMap Receipt.sent := by
  rw [sentFrom, emissions_deliveries]
  induction frames generalizing interface with
  | nil => rfl
  | cons frame frames inductiveHypothesis =>
      obtain ⟨⟨place, named⟩, others⟩ := List.forall_mem_cons.mp addressed
      have later := resting.after_delivery frame
      obtain ⟨senders, -⟩ := resting.confined_delivery named
      rw [receipts, List.flatMap_cons, List.filter_append, inductiveHypothesis later others]
      by_cases here : place = port
      · rw [here] at named senders
        have whole : (interface.receipt frame).sent.filter (Tcp.isFrom port) =
            (interface.receipt frame).sent :=
          List.filter_eq_self.mpr fun sent member => Tcp.isFrom_of_sender? (senders sent member)
        rw [whole, receiptsFor_cons _ (Tcp.isFor_of_addressee? named), List.flatMap_cons]
      · have none : (interface.receipt frame).sent.filter (Tcp.isFrom port) = [] :=
          List.filter_eq_nil_iff.mpr fun sent member =>
            Bool.eq_false_iff.mp (Tcp.isFrom_other (senders sent member) here)
        rw [none, List.nil_append, receiptsFor_cons_other _ (Tcp.isFor_other named here)]

/-- Of two lists of frames for different ports, each is received as if the other were
not there. -/
theorem Resting.asIfAlone (resting : interface.Resting) {alone others : List Bytes}
    {elsewhere : UInt16} (apart : elsewhere ≠ port)
    (here : ∀ frame ∈ alone, Tcp.addressee? frame = some port)
    (there : ∀ frame ∈ others, Tcp.addressee? frame = some elsewhere)
    (interleaves : Interleaves alone others frames) :
    interface.AsIfAlone port frames alone := by
  have addressed : Addressed frames := by
    intro frame member
    rcases interleaves.mem_or_mem member with mine | foreign
    · exact ⟨port, here frame mine⟩
    · exact ⟨elsewhere, there frame foreign⟩
  have mine : ∀ frame ∈ alone, Tcp.isFor port frame = true :=
    fun frame member => Tcp.isFor_of_addressee? (here frame member)
  have picked : frames.filter (Tcp.isFor port) = alone :=
    interleaves.filter_eq mine fun frame member => Tcp.isFor_other (there frame member) apart
  obtain ⟨alike, agree⟩ := resting.leave_out resting (.refl port interface) addressed
  rw [picked] at alike agree
  constructor
  · exact alike
  · have addressedAlone : Addressed alone := fun frame member => ⟨port, here frame member⟩
    rw [resting.sentFrom_deliveries port addressed,
      resting.sentFrom_deliveries port addressedAlone, receiptsFor_eq _ mine]
    exact List.rel_flatMap alike fun _ _ same => same.sent
  · intro index serves
    have bound := (Tcp.Pool.find?_eq_some_iff resting.sound.bound).mp serves
    exact (agree.channels index bound).symm

end Interface

/-! ## Messages as they arrive -/

/-- The frame in which a station sends a message is addressed to the port that the
message is for. -/
theorem Tcp.Message.addressee?_frame (message : Tcp.Message) (station : Interface) :
    Tcp.addressee? (message.frame station) = some message.destination.port := by
  unfold Tcp.Message.frame
  rw [addressee?, Interface.ports?_segmentFrame]
  rfl

namespace Setup

/-- Connections on different ports do not interfere.  Wherever a run has led on a
running adapter, if no frame waits, let frames for two ports arrive in any order,
each polled before the next one arrives: bound ports or not, from anybody, and valid
or not.  Then each of the two ports is as well off as if its frames had arrived
alone.  They are accepted and answered with the same success, the same frames are
sent for them but for the numbers of their packets and the checksums over these, and
the channel ends up the same.  Every other channel stays as it was. -/
theorem ports_do_not_interfere (setup : Setup) (running : setup.automatic = true)
    (operations : List Operation)
    (idle : (setup.start.after operations).nic.receiveReady = false) {p q : UInt16}
    (apart : p ≠ q) {first second frames : List Bytes}
    (toFirst : ∀ frame ∈ first, Tcp.addressee? frame = some p)
    (toSecond : ∀ frame ∈ second, Tcp.addressee? frame = some q)
    (interleaves : Interleaves first second frames) :
    let reached := setup.start.after operations
    reached.AsIfAlone p frames first ∧ reached.AsIfAlone q frames second ∧
      ∀ index : Fin Tcp.poolSize,
        reached.pool.find? p ≠ some index → reached.pool.find? q ≠ some index →
          (reached.after (Interface.deliveries frames)).pool.get index =
            reached.pool.get index := by
  intro reached
  have sound : reached.Sound true := running ▸ (setup.sound_after operations).1
  have resting : reached.Resting := ⟨sound, idle⟩
  refine ⟨?_, ?_, ?_⟩
  · exact resting.asIfAlone apart.symm toFirst toSecond interleaves
  · exact resting.asIfAlone apart toSecond toFirst interleaves.symm
  · intro index notFirst notSecond
    apply resting.untouched
    intro frame member
    rcases interleaves.mem_or_mem member with mine | others
    · exact ⟨p, toFirst frame mine, notFirst⟩
    · exact ⟨q, toSecond frame others, notSecond⟩

theorem ports_do_not_interfere_at_openings :
    let start := (Setup.default true).start
    let frames := [openingTo 80, openingTo 8000, openingTo 80]
    start.nic.receiveReady = false ∧ start.AsIfAlone 80 frames [openingTo 80, openingTo 80] ∧
      start.AsIfAlone 8000 frames [openingTo 8000] := by
  intro start frames
  have idle : start.nic.receiveReady = false := (carries_start (Setup.default true)).receiveReady
  have addressed (port : UInt16) : Tcp.addressee? (openingTo port) = some port :=
    Tcp.Message.addressee?_frame _ _
  have toWeb : ∀ frame ∈ [openingTo 80, openingTo 80], Tcp.addressee? frame = some 80 := by
    simp [addressed]
  have toNext : ∀ frame ∈ [openingTo 8000], Tcp.addressee? frame = some 8000 := by
    simp [addressed]
  have interleaves : Interleaves [openingTo 80, openingTo 80] [openingTo 8000] frames :=
    .left _ (.right _ (.left _ .nil))
  obtain ⟨web, next, -⟩ := ports_do_not_interfere (Setup.default true) rfl [] idle
    (by decide : (80 : UInt16) ≠ 8000) toWeb toNext interleaves
  exact ⟨idle, web, next⟩

end Setup

end NetStack
