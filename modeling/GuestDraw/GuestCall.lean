/-
**Calling guest functions.**

The host calls a function of the guest by building a call frame on the guest's stack, whose return
address is a stub, and running the guest until it gets there. While it runs the guest may call the
host, which may call the guest again: all calls share the stub, and `depth` counts those in flight.

Whatever the guest does, the stack pointer, the instruction pointer and the depth are afterwards
what they were before.
-/

import GuestDraw.Memory
import GuestDraw.GuestCall.Fault

namespace GuestDraw

/-- The registers of the guest. -/
structure Registers where
  eax : UInt32
  ecx : UInt32
  edx : UInt32
  ebx : UInt32
  esp : UInt32
  ebp : UInt32
  esi : UInt32
  edi : UInt32
  eip : UInt32
  deriving DecidableEq

/-- The names of the registers of a guest. -/
inductive Register where
  | eax
  | ecx
  | edx
  | ebx
  | esp
  | ebp
  | esi
  | edi
  | eip
  deriving DecidableEq

namespace Register

/-- Every register. -/
def all : List Register := [eax, ecx, edx, ebx, esp, ebp, esi, edi, eip]

/-- How a register is written. -/
def name : Register → String
  | eax => "eax"
  | ecx => "ecx"
  | edx => "edx"
  | ebx => "ebx"
  | esp => "esp"
  | ebp => "ebp"
  | esi => "esi"
  | edi => "edi"
  | eip => "eip"

end Register

namespace Registers

/-- What a register holds. -/
def get (registers : Registers) : Register → UInt32
  | .eax => registers.eax
  | .ecx => registers.ecx
  | .edx => registers.edx
  | .ebx => registers.ebx
  | .esp => registers.esp
  | .ebp => registers.ebp
  | .esi => registers.esi
  | .edi => registers.edi
  | .eip => registers.eip

/-- The registers after a value is put into one of them. -/
def set (registers : Registers) (value : UInt32) : Register → Registers
  | .eax => { registers with eax := value }
  | .ecx => { registers with ecx := value }
  | .edx => { registers with edx := value }
  | .ebx => { registers with ebx := value }
  | .esp => { registers with esp := value }
  | .ebp => { registers with ebp := value }
  | .esi => { registers with esi := value }
  | .edi => { registers with edi := value }
  | .eip => { registers with eip := value }

end Registers

/-- What calling guest functions needs of the guest: registers, memory and stubs. -/
class Machine (σ : Type) where
  registers : σ → Registers
  setRegisters : Registers → σ → σ
  memory : σ → Memory
  modifyMemory : (Memory → Memory) → σ → σ
  registerStub : String → EStateM StubError σ Nat

/-- A guest with the calls in flight. -/
structure Calls (σ : Type) where
  machine : σ
  /-- Where guest functions return to, once there is such a stub. -/
  returnStub : Option UInt32
  depth : Nat

namespace Calls

variable {σ : Type} [Machine σ]

/-- The name of the stub that guest functions return to. -/
def returnName : String := "trampoline_return"

/-- A guest that is not being called. -/
def idle (machine : σ) : Calls σ := ⟨machine, none, 0⟩

def registers (calls : Calls σ) : Registers := Machine.registers calls.machine

def setRegisters (registers : Registers) (calls : Calls σ) : Calls σ :=
  { calls with machine := Machine.setRegisters registers calls.machine }

/-- The stub that guest functions return to, which is handed out at the first call. -/
def stub : EStateM CallError (Calls σ) UInt32 := fun calls =>
  match calls.returnStub with
  | some address => .ok address calls
  | none =>
    match Machine.registerStub returnName calls.machine with
    | .ok address machine =>
      let word := UInt32.ofNat address
      .ok word { calls with machine := machine, returnStub := some word }
    | .error cause machine => .error (.stub cause) { calls with machine := machine }

/-- Pushes words below `esp`, one after the other, and tells where the last one lies. -/
def push (esp : UInt32) : List UInt32 → EStateM CallError (Calls σ) UInt32
  | [] => pure esp
  | word :: rest => do
    let top := esp - 4
    match (Machine.memory (← get).machine).check top.toNat 4 with
    | .ok _ =>
      modify fun calls =>
        { calls with
          machine := Machine.modifyMemory (·.put top.toNat (LittleEndian.ofDword word))
            calls.machine }
    | .error cause => throw (.stack cause)
    push top rest

/-- Runs the function at `target` until it returns to `stub`. -/
def enter (runUntil : UInt32 → EStateM Fault (Calls σ) Unit) (stub target : UInt32)
    (words : List UInt32) : EStateM CallError (Calls σ) Unit := do
  let esp ← push (← get).registers.esp (words.reverse ++ [stub])
  modify fun calls => calls.setRegisters { calls.registers with esp := esp, eip := target }
  let depth := (← get).depth
  modify fun calls => { calls with depth := depth + 1 }
  fun calls =>
    match runUntil stub calls with
    | .ok _ after => .ok () { after with depth := depth }
    | .error cause after => .error (.fault target cause) { after with depth := depth }

/-- The stack and instruction pointers of `saved`, everything else as it is. -/
def restorePointers (saved : Registers) (calls : Calls σ) : Calls σ :=
  calls.setRegisters { calls.registers with esp := saved.esp, eip := saved.eip }

/-- Calls the function at `target` with the given words, the first one on top, and answers with the
result register. -/
def invoke (runUntil : UInt32 → EStateM Fault (Calls σ) Unit) (target : UInt32)
    (words : List UInt32) : EStateM CallError (Calls σ) UInt32 := do
  let stub ← stub
  let saved := (← get).registers
  fun calls =>
    match enter runUntil stub target words calls with
    | .ok _ after => .ok after.registers.eax (after.restorePointers saved)
    | .error failure after => .error failure (after.restorePointers saved)

end Calls

end GuestDraw
