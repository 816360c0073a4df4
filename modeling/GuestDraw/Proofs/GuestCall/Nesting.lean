/-
**Guest calls inside guest calls.**

A guest that is being called may have the host call it again, to any depth, and every call shares
the stub that guest functions return to. A `Conduct` is what a guest does from one point on: it
stops, faults, changes itself, or has the host call it, and then there is the conduct of the
function called and the conduct after its answer. Each choice may depend on everything the guest can
see, so conducts are all the terminating ways to behave.

`Watched` is a guest that keeps a record of what the host does about the stub: when it asks for one,
and what lies on top of the stack when the guest is made to run.

* `Ledger`: what the record says: refusals only, or refusals, one stub, and frames that carry it;
* `Tracked.invoke`: a call keeps the ledger if the run inside it does;
* `Tracked.run`: so does every conduct, by induction on it;
* `guest_calls_balanced`: how calls end, and one stub for all of them.
-/

import GuestDraw.Proofs.GuestCall.Frames

namespace GuestDraw

/-- What the host does about the stub that guest functions return to. -/
inductive Sighting where
  /-- It asks the guest for a stub, and gets it or not. -/
  | asked (answer : Option Nat)
  /-- It makes the guest run until `stop`, with `top` on top of the stack, if anything is there. -/
  | entered (stop : UInt32) (top : Option UInt32)
  deriving DecidableEq

/-- A guest with what the host has done, oldest first. -/
structure Watched (σ : Type) where
  guest : σ
  record : List Sighting

variable {σ : Type} [Machine σ]

namespace Watched

/-- The record with one more sighting. -/
def add (sighting : Sighting) (watched : Watched σ) : Watched σ :=
  { watched with record := watched.record ++ [sighting] }

instance : Machine (Watched σ) where
  registers watched := Machine.registers watched.guest
  setRegisters registers watched :=
    { watched with guest := Machine.setRegisters registers watched.guest }
  memory watched := Machine.memory watched.guest
  modifyMemory change watched :=
    { watched with guest := Machine.modifyMemory change watched.guest }
  registerStub name := fun watched =>
    match Machine.registerStub name watched.guest with
    | .ok address guest => .ok address ({ watched with guest := guest }.add (.asked (some address)))
    | .error cause guest =>
      .error cause ({ watched with guest := guest }.add (.asked none))

theorem record_registerStub (name : String) (watched : Watched σ) :
    match Machine.registerStub name watched with
    | .ok address final => final.record = watched.record ++ [.asked (some address)]
    | .error _ final => final.record = watched.record ++ [.asked none] := by
  simp only [Machine.registerStub]
  cases Machine.registerStub name watched.guest <;> rfl

theorem guest_registerStub (name : String) (watched : Watched σ) :
    (left (Machine.registerStub name watched)).guest =
      left (Machine.registerStub name watched.guest) := by
  simp only [Machine.registerStub]
  cases Machine.registerStub name watched.guest <;> rfl

open Machine.Lawful in
instance [Machine.Lawful σ] : Machine.Lawful (Watched σ) where
  registers_setRegisters registers watched := registers_setRegisters registers watched.guest
  memory_setRegisters registers watched := memory_setRegisters registers watched.guest
  registers_modifyMemory change watched := registers_modifyMemory change watched.guest
  memory_modifyMemory change watched := memory_modifyMemory change watched.guest
  registers_registerStub name watched := by
    show Machine.registers (left (Machine.registerStub name watched)).guest = _
    rw [guest_registerStub]
    exact registers_registerStub name watched.guest

end Watched

/-- What a guest does from one point on. -/
inductive Conduct (σ : Type) where
  /-- It gets to where it is to stop. -/
  | stop
  | fault (cause : Fault)
  /-- It changes its registers, its memory and what else it has, and goes on. -/
  | act (change : Calls σ → σ) (next : Calls σ → Conduct σ)
  /-- It has the host call a function, which conducts itself as `inside` once it knows where to
  stop, and goes on with the answer. -/
  | invoke (target : UInt32) (words : List UInt32) (inside : UInt32 → Conduct σ)
      (next : Except CallError UInt32 → Conduct σ)

namespace Calls

/-- What the guest sees of the calls in flight. -/
def seen (calls : Calls (Watched σ)) : Calls σ :=
  ⟨calls.machine.guest, calls.returnStub, calls.depth⟩

/-- The guest has changed itself. -/
def replaced (guest : σ) (calls : Calls (Watched σ)) : Calls (Watched σ) :=
  { calls with machine := { calls.machine with guest := guest } }

/-- The guest is made to run until `stop`. -/
def noted (stop : UInt32) (calls : Calls (Watched σ)) : Calls (Watched σ) :=
  { calls with
    machine := calls.machine.add
      (.entered stop
        ((Machine.memory calls.machine).readDword (calls.registers.get .esp).toNat).toOption) }

end Calls

namespace Conduct

/-- A guest behaves as its conduct says. -/
def run : Conduct σ → EStateM Fault (Calls (Watched σ)) Unit
  | stop => pure ()
  | fault cause => throw cause
  | act change next => fun calls => run (next calls.seen) (calls.replaced (change calls.seen))
  | invoke target words inside next => fun calls =>
    let runUntil stop : EStateM Fault (Calls (Watched σ)) Unit := fun entered =>
      run (inside stop) (entered.noted stop)
    match Calls.invoke runUntil target words calls with
    | .ok value after => run (next (.ok value)) after
    | .error failure after => run (next (.error failure)) after

end Conduct

/-- What the host has done, when guest functions return to `stub`: it has asked for a stub in vain,
or once with success, and from then on that stub was on top of the stack whenever the guest was made
to run until it. -/
inductive Ledger : (stub : Option UInt32) → List Sighting → Prop
  | refused {refusals : List Sighting}
      (refusal : ∀ sighting ∈ refusals, sighting = .asked none) :
      Ledger none refusals
  | settled {refusals frames : List Sighting} {address : Nat} {stub : UInt32}
      (refusal : ∀ sighting ∈ refusals, sighting = .asked none)
      (word : stub = UInt32.ofNat address)
      (frame : ∀ sighting ∈ frames, sighting = .entered stub (some stub)) :
      Ledger (some stub) (refusals ++ .asked (some address) :: frames)

namespace Ledger

variable {record : List Sighting}

theorem refuse (ledger : Ledger none record) : Ledger none (record ++ [.asked none]) := by
  cases ledger with
  | refused refusal =>
    refine .refused fun sighting member => ?_
    rcases List.mem_append.mp member with earlier | last
    · exact refusal sighting earlier
    · exact List.mem_singleton.mp last

theorem settle (ledger : Ledger none record) (address : Nat) :
    Ledger (some (UInt32.ofNat address)) (record ++ [.asked (some address)]) := by
  cases ledger with
  | refused refusal => exact .settled refusal rfl fun _ member => nomatch member

theorem enter {stub : UInt32} (ledger : Ledger (some stub) record) :
    Ledger (some stub) (record ++ [.entered stub (some stub)]) := by
  cases ledger with
  | settled refusal word frame =>
    rw [List.append_assoc, List.cons_append]
    refine .settled refusal word fun sighting member => ?_
    rcases List.mem_append.mp member with earlier | last
    · exact frame sighting earlier
    · exact List.mem_singleton.mp last

end Ledger

/-- The record of the calls is in order. -/
def Tracked (calls : Calls (Watched σ)) : Prop := Ledger calls.returnStub calls.machine.record

namespace Tracked

variable {calls : Calls (Watched σ)}

theorem stub {result : EStateM.Result CallError (Calls (Watched σ)) UInt32}
    (tracked : Tracked calls) (found : Calls.stub calls = result) : Tracked (left result) := by
  subst found
  unfold Calls.stub
  cases known : calls.returnStub with
  | some word => exact tracked
  | none =>
    have ledger : Ledger none calls.machine.record := known ▸ tracked
    have record := Watched.record_registerStub Calls.returnName calls.machine
    cases asked : Machine.registerStub Calls.returnName calls.machine with
    | ok address machine =>
      rw [asked] at record
      show Ledger (some (UInt32.ofNat address)) machine.record
      exact record ▸ ledger.settle address
    | error cause machine =>
      rw [asked] at record
      show Ledger none machine.record
      exact record ▸ ledger.refuse

theorem push (tracked : Tracked calls) {esp : UInt32} {words : List UInt32}
    {result : EStateM.Result CallError (Calls (Watched σ)) UInt32}
    (pushed : Calls.push esp words calls = result) : Tracked (left result) :=
  pushed ▸ Calls.push_keeps (fun _ _ _ held => held) words esp calls tracked

theorem noted {stub target : UInt32} {words : List UInt32} {entered : Calls (Watched σ)}
    (tracked : Tracked entered) (entry : Calls.Entered stub target words calls entered) :
    Tracked (entered.noted stub) := by
  have ledger : Ledger (some stub) entered.machine.record := entry.returnStub ▸ tracked
  show Ledger entered.returnStub (entered.machine.record ++ [.entered stub _])
  rw [entry.returnStub, entry.top]
  exact ledger.enter

/-- The guest as it is made to run by a call keeps the record in order, and so does the call. -/
theorem invoke [Machine.Lawful σ] {runUntil : UInt32 → EStateM Fault (Calls (Watched σ)) Unit}
    {target : UInt32} {words : List UInt32} (tracked : Tracked calls)
    (runs : ∀ stub entered, Tracked entered → Calls.Entered stub target words calls entered →
      Tracked (left (runUntil stub entered))) :
    Tracked (left (Calls.invoke runUntil target words calls)) := by
  have course := Calls.invoke_course runUntil target words calls
  generalize Calls.invoke runUntil target words calls = result at course ⊢
  cases course with
  | unstubbed refused => exact tracked.stub refused
  | @unframed failure address stubbed framed found refused =>
    have stubbing : Tracked stubbed := tracked.stub found
    have framing : Tracked framed := stubbing.push refused
    exact framing
  | @stopped address esp stubbed framed after found pushed ran =>
    have stubbing : Tracked stubbed := tracked.stub found
    have framing : Tracked framed := stubbing.push pushed
    have ending := runs address (framed.aimed esp target) framing (Calls.entered_aimed found pushed)
    rw [ran] at ending
    exact ending
  | @faulted address esp stubbed framed after cause found pushed ran =>
    have stubbing : Tracked stubbed := tracked.stub found
    have framing : Tracked framed := stubbing.push pushed
    have ending := runs address (framed.aimed esp target) framing (Calls.entered_aimed found pushed)
    rw [ran] at ending
    exact ending

/-- The induction is on the conduct: a function that is called is a conduct of its own, and so is
what follows each of its answers. -/
theorem run [Machine.Lawful σ] (conduct : Conduct σ) (tracked : Tracked calls) :
    Tracked (left (conduct.run calls)) := by
  induction conduct generalizing calls with
  | stop => exact tracked
  | fault cause => exact tracked
  | act change next ih =>
    have replaced : Tracked (calls.replaced (change calls.seen)) := tracked
    exact ih calls.seen replaced
  | invoke target words inside next insideKeeps nextKeeps =>
    let runUntil stop : EStateM Fault (Calls (Watched σ)) Unit := fun entered =>
      (inside stop).run (entered.noted stop)
    have answered : Tracked (left (Calls.invoke runUntil target words calls)) :=
      tracked.invoke fun stub entered tracked entry => insideKeeps stub (tracked.noted entry)
    rw [Conduct.run]
    show Tracked (left (match Calls.invoke runUntil target words calls with
      | .ok value after => (next (.ok value)).run after
      | .error failure after => (next (.error failure)).run after))
    cases called : Calls.invoke runUntil target words calls with
    | ok value after =>
      rw [called] at answered
      exact nextKeeps (.ok value) answered
    | error failure after =>
      rw [called] at answered
      exact nextKeeps (.error failure) answered

end Tracked

/-! ### A small guest -/

/-- A guest with registers, memory and a range of stubs. -/
structure PlainGuest where
  registers : Registers
  memory : Memory
  stubs : StubTable

namespace PlainGuest

instance : Machine PlainGuest where
  registers := registers
  setRegisters registers guest := { guest with registers := registers }
  memory := memory
  modifyMemory change guest := { guest with memory := change guest.memory }
  registerStub name := fun guest =>
    match guest.stubs.register name with
    | .ok (address, stubs) => .ok address { guest with stubs := stubs }
    | .error cause => .error cause guest

instance : Machine.Lawful PlainGuest where
  registers_setRegisters _ _ := rfl
  memory_setRegisters _ _ := rfl
  registers_modifyMemory _ _ := rfl
  memory_modifyMemory _ _ := rfl
  registers_registerStub name guest := by
    simp only [Machine.registerStub]
    cases guest.stubs.register name <;> rfl

/-- A guest with its stack at 16 and room for two stubs. -/
def small : PlainGuest :=
  ⟨⟨0, 0, 0, 0, 16, 0, 0, 0, 0x1000⟩, .zeroed 0 16, .ofRange 0x7000 16⟩

/-- The host calls a function that has it call another one; that one faults with the stack moved,
and the first one faults in turn. -/
def nested : Conduct PlainGuest :=
  .invoke 0x2000 [7]
    (fun _ => .invoke 0x3000 []
      (fun _ => .act
        (fun calls =>
          Machine.setRegisters { calls.registers with esp := 0, ecx := 5 } calls.machine)
        fun _ => .fault ⟨0x3000, "stopped"⟩)
      fun _ => .fault ⟨0x2000, "stopped"⟩)
    fun _ => .stop

end PlainGuest

/-! ### Every call -/

/-- **Guest calls are balanced, and share one stub.** Whatever the guest does while it runs, a call
ends in one of the four ways of `Calls.Answered`, with the depth and the two pointers of its entry.
However a guest that nobody called before goes on and has the host call it, in turn or nested, at
most one stub is handed out for it to return to, and every frame carries that one. -/
theorem guest_calls_balanced [Machine.Lawful σ] :
    (∀ (runUntil : UInt32 → EStateM Fault (Calls σ) Unit) (target : UInt32) (words : List UInt32)
      (calls : Calls σ),
      calls.Answered runUntil target words (Calls.invoke runUntil target words calls)) ∧
    ∀ (conduct : Conduct σ) (guest : σ),
      let final := left (conduct.run (Calls.idle ⟨guest, []⟩))
      Ledger final.returnStub final.machine.record := by
  refine ⟨Calls.invoke_answered, fun conduct guest => ?_⟩
  have idle : Tracked (Calls.idle (Watched.mk guest [])) := .refused fun _ member => nomatch member
  exact Tracked.run conduct idle

theorem guest_calls_balanced_nested :
    let final := left (PlainGuest.nested.run (Calls.idle ⟨.small, []⟩))
    Machine.Lawful PlainGuest ∧ Ledger final.returnStub final.machine.record ∧
      final.registers = { Calls.registers (Calls.idle PlainGuest.small) with ecx := 5 } ∧
      final.machine.record = [.asked (some 0x7000), .entered 0x7000 (some 0x7000),
        .entered 0x7000 (some 0x7000)] :=
  ⟨inferInstance, guest_calls_balanced.2 PlainGuest.nested PlainGuest.small, by decide +kernel,
    by decide +kernel⟩

end GuestDraw
