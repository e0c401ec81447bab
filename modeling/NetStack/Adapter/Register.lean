/-
Module: NetStack.Adapter.Register
Purpose: The registers of an e1000-class adapter: where they lie, a file of
  register words, and the mapped window through which real ones are reached.
Main exports:
  Register, RegisterFile, MappedWindow, MacAddress.ofReceiveAddress
-/
import NetStack.Address

namespace NetStack

/-- The registers that the stack uses. -/
inductive Register where
  | status
  | receiveControl
  | transmitControl
  | interPacketGap
  | receiveBaseLow
  | receiveBaseHigh
  | receiveLength
  | receiveHead
  | receiveTail
  | transmitBaseLow
  | transmitBaseHigh
  | transmitLength
  | transmitHead
  | transmitTail
  | multicastTable
  | receiveAddressLow
  | receiveAddressHigh
deriving Repr, Inhabited, DecidableEq

namespace Register

/-- Where in the window the register lies, in bytes. -/
def offset : Register → Nat
  | status => 0x0008
  | receiveControl => 0x0100
  | transmitControl => 0x0400
  | interPacketGap => 0x0410
  | receiveBaseLow => 0x2800
  | receiveBaseHigh => 0x2804
  | receiveLength => 0x2808
  | receiveHead => 0x2810
  | receiveTail => 0x2818
  | transmitBaseLow => 0x3800
  | transmitBaseHigh => 0x3804
  | transmitLength => 0x3808
  | transmitHead => 0x3810
  | transmitTail => 0x3818
  | multicastTable => 0x5200
  | receiveAddressLow => 0x5400
  | receiveAddressHigh => 0x5404

/-- The number of the register's word. -/
def word (register : Register) : Nat :=
  register.offset / 4

/-- The size of the window in bytes. -/
def windowSize : Nat := 0x8000

theorem word_injective {left right : Register} (same : left.word = right.word) :
    left = right := by
  revert same
  cases left <;> cases right <;> decide

/-- Every register is aligned and lies in the window. -/
theorem offset_inside (register : Register) :
    register.offset % 4 = 0 ∧ register.offset + 4 ≤ windowSize := by
  cases register <;> decide

/-! Control bits -/

def transmitEnable : UInt32 := 0x00000002

def padShortPackets : UInt32 := 0x00000008

/-- A collision threshold of 16. -/
def collisionThreshold : UInt32 := 0x00000100

/-- A collision distance of 64. -/
def collisionDistance : UInt32 := 0x00040000

/-- The gap between packets that IEEE 802.3 recommends. -/
def recommendedGap : UInt32 := 0x0060200a

def receiveEnable : UInt32 := 0x00000002

def acceptBroadcast : UInt32 := 0x00008000

def stripChecksum : UInt32 := 0x04000000

/-- Marks the receive address as valid. -/
def addressValid : UInt32 := 0x80000000

end Register

/-- Register words by number, in ascending order.  A word that was never written
is zero. -/
structure RegisterFile where
  words : List (Nat × UInt32)
deriving Repr, Inhabited, DecidableEq

namespace RegisterFile

def zeroed : RegisterFile := ⟨[]⟩

def lookup : List (Nat × UInt32) → Nat → UInt32
  | [], _ => 0
  | (number, value) :: rest, wanted => if number = wanted then value else lookup rest wanted

def update : List (Nat × UInt32) → Nat → UInt32 → List (Nat × UInt32)
  | [], wanted, value => [(wanted, value)]
  | (number, old) :: rest, wanted, value =>
      if number = wanted then (wanted, value) :: rest
      else if wanted < number then (wanted, value) :: (number, old) :: rest
      else (number, old) :: update rest wanted value

/-- The word with this number. -/
def get (file : RegisterFile) (number : Nat) : UInt32 :=
  lookup file.words number

def set (file : RegisterFile) (number : Nat) (value : UInt32) : RegisterFile :=
  ⟨update file.words number value⟩

/-- The value of a named register. -/
def reg (file : RegisterFile) (register : Register) : UInt32 :=
  file.get register.word

def setReg (file : RegisterFile) (register : Register) (value : UInt32) : RegisterFile :=
  file.set register.word value

/-- The words that are not zero, in ascending order. -/
def nonzero (file : RegisterFile) : List (Nat × UInt32) :=
  file.words.filter fun entry => entry.2 != 0

theorem lookup_update (words : List (Nat × UInt32)) (number other : Nat) (value : UInt32) :
    lookup (update words number value) other = if number = other then value else lookup words other := by
  induction words with
  | nil => simp [update, lookup]
  | cons entry rest inductiveHypothesis =>
      obtain ⟨first, old⟩ := entry
      by_cases here : first = number
      · subst here
        by_cases asked : first = other <;> simp [update, lookup, asked]
      · by_cases before : number < first
        · simp [update, here, before, lookup]
        · by_cases asked : first = other
          · subst asked
            simp [update, here, before, lookup, Ne.symm here]
          · simp [update, here, before, lookup, asked, inductiveHypothesis]

theorem get_set (file : RegisterFile) (number other : Nat) (value : UInt32) :
    (file.set number value).get other = if number = other then value else file.get other :=
  lookup_update file.words number other value

end RegisterFile

/-- A window of `size` bytes onto registers behind which no software works. -/
structure MappedWindow (size : Nat) where
  file : RegisterFile
deriving Repr, Inhabited, DecidableEq

namespace MappedWindow

variable {size : Nat}

def zeroed : MappedWindow size := ⟨.zeroed⟩

/-- The number of the word at `offset`.  The offset has to be aligned and the
whole word inside the window. -/
def wordAt (size offset : Nat) : Except Fault Nat :=
  if offset % 4 = 0 ∧ offset + 4 ≤ size then
    .ok (offset / 4)
  else
    .error (.outsideWindow offset size)

def readAt (window : MappedWindow size) (offset : Nat) : Except Fault UInt32 :=
  (wordAt size offset).map window.file.get

def writeAt (window : MappedWindow size) (offset : Nat) (value : UInt32) :
    Except Fault (MappedWindow size) :=
  (wordAt size offset).map fun number => ⟨window.file.set number value⟩

end MappedWindow

namespace MacAddress

/-- The address held by the two receive address registers, lowest byte first. -/
def ofReceiveAddress (low high : UInt32) : MacAddress :=
  { first := UInt8.ofNat low.toNat
    second := UInt8.ofNat (low.toNat / 256)
    third := UInt8.ofNat (low.toNat / 65536)
    fourth := UInt8.ofNat (low.toNat / 16777216)
    fifth := UInt8.ofNat high.toNat
    sixth := UInt8.ofNat (high.toNat / 256) }

/-- The low receive address register of an adapter with this address. -/
def receiveLow (mac : MacAddress) : UInt32 :=
  UInt32.ofNat
    (mac.first.toNat + mac.second.toNat * 256 + mac.third.toNat * 65536 +
      mac.fourth.toNat * 16777216)

/-- The high receive address register, marked as valid. -/
def receiveHigh (mac : MacAddress) : UInt32 :=
  UInt32.ofNat (mac.fifth.toNat + mac.sixth.toNat * 256) ||| Register.addressValid

end MacAddress

end NetStack
