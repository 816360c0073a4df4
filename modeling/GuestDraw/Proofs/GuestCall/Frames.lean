/-
**What a guest call leaves behind.**

A guest call runs code that the host knows nothing about: it may change every register and all of
memory, leave any number of bytes on the stack, stop at a fault, or call the host, which calls the
guest again. `runUntil` stands for all of that, so it is an arbitrary function on the guest together
with the calls in flight.

* `Machine.Lawful`: a guest holds what is put into its registers and its memory;
* `Calls.invoke_course`: a call as its four parts: the stub, the frame, the run and the way back;
* `Calls.Entered`: where a run begins; `Calls.Restored`: what the host puts back behind it;
* `Calls.invoke_answered`: the ways in which a call ends.
-/

import GuestDraw.GuestCall

namespace GuestDraw

/-- The state in which a computation leaves off, whether it succeeds or fails. -/
def left {ε σ α : Type} : EStateM.Result ε σ α → σ
  | .ok _ final => final
  | .error _ final => final

/-- A guest that holds what is put into it, and whose registers no new stub touches. -/
class Machine.Lawful (σ : Type) [Machine σ] : Prop where
  registers_setRegisters (registers : Registers) (machine : σ) :
    Machine.registers (setRegisters registers machine) = registers
  memory_setRegisters (registers : Registers) (machine : σ) :
    memory (setRegisters registers machine) = memory machine
  registers_modifyMemory (change : Memory → Memory) (machine : σ) :
    registers (modifyMemory change machine) = registers machine
  memory_modifyMemory (change : Memory → Memory) (machine : σ) :
    memory (modifyMemory change machine) = change (memory machine)
  registers_registerStub (name : String) (machine : σ) :
    registers (left (registerStub name machine)) = registers machine

namespace Calls

open Machine.Lawful

variable {σ : Type} [Machine σ]

/-! ### The parts of a call -/

/-- The guest after the host has stored a word in its memory. -/
def stored (top word : UInt32) (calls : Calls σ) : Calls σ :=
  { calls with
    machine := Machine.modifyMemory (·.put top.toNat (LittleEndian.ofDword word)) calls.machine }

/-- The guest about to run the function at `target` on the stack from `esp` on. -/
def aimed (esp target : UInt32) (calls : Calls σ) : Calls σ :=
  { calls.setRegisters { calls.registers with esp := esp, eip := target } with
    depth := calls.depth + 1 }

omit [Machine σ] in
/-- A call that looks at the calls in flight first. -/
theorem bind_get {ε α : Type} (next : Calls σ → EStateM ε (Calls σ) α) (calls : Calls σ) :
    (get >>= next) calls = next calls calls := rfl

theorem push_cons (esp word : UInt32) (rest : List UInt32) (calls : Calls σ) :
    push esp (word :: rest) calls =
      match (Machine.memory calls.machine).check (esp - 4).toNat 4 with
      | .ok _ => push (esp - 4) rest (calls.stored (esp - 4) word)
      | .error cause => .error (.stack cause) calls := by
  rw [push, bind_get]
  cases (Machine.memory calls.machine).check (esp - 4).toNat 4 <;> rfl

/-- The course of a call: the stub, the frame, the run and the way back. -/
inductive Course (runUntil : UInt32 → EStateM Fault (Calls σ) Unit) (target : UInt32)
    (words : List UInt32) (calls : Calls σ) : EStateM.Result CallError (Calls σ) UInt32 → Prop
  | unstubbed {failure : CallError} {stubbed : Calls σ}
      (refused : stub calls = .error failure stubbed) :
      Course runUntil target words calls (.error failure stubbed)
  | unframed {failure : CallError} {address : UInt32} {stubbed framed : Calls σ}
      (found : stub calls = .ok address stubbed)
      (refused : push stubbed.registers.esp (words.reverse ++ [address]) stubbed =
        .error failure framed) :
      Course runUntil target words calls
        (.error failure (framed.restorePointers stubbed.registers))
  | stopped {address esp : UInt32} {stubbed framed after : Calls σ}
      (found : stub calls = .ok address stubbed)
      (pushed : push stubbed.registers.esp (words.reverse ++ [address]) stubbed = .ok esp framed)
      (ran : runUntil address (framed.aimed esp target) = .ok () after) :
      Course runUntil target words calls
        (.ok (after.registers.get .eax)
          (restorePointers stubbed.registers { after with depth := framed.depth }))
  | faulted {address esp : UInt32} {stubbed framed after : Calls σ} {cause : Fault}
      (found : stub calls = .ok address stubbed)
      (pushed : push stubbed.registers.esp (words.reverse ++ [address]) stubbed = .ok esp framed)
      (ran : runUntil address (framed.aimed esp target) = .error cause after) :
      Course runUntil target words calls
        (.error (.fault target cause)
          (restorePointers stubbed.registers { after with depth := framed.depth }))

theorem enter_eq (runUntil : UInt32 → EStateM Fault (Calls σ) Unit) (stub target : UInt32)
    (words : List UInt32) (calls : Calls σ) :
    enter runUntil stub target words calls =
      match push calls.registers.esp (words.reverse ++ [stub]) calls with
      | .error failure framed => .error failure framed
      | .ok esp framed =>
        match runUntil stub (framed.aimed esp target) with
        | .ok _ after => .ok () { after with depth := framed.depth }
        | .error cause after => .error (.fault target cause) { after with depth := framed.depth } := by
  unfold enter
  rw [bind_get]
  simp only [bind, EStateM.bind]
  cases push calls.registers.esp (words.reverse ++ [stub]) calls <;> rfl

theorem invoke_eq (runUntil : UInt32 → EStateM Fault (Calls σ) Unit) (target : UInt32)
    (words : List UInt32) (calls : Calls σ) :
    invoke runUntil target words calls =
      match stub calls with
      | .error failure stubbed => .error failure stubbed
      | .ok address stubbed =>
        match enter runUntil address target words stubbed with
        | .ok _ after => .ok after.registers.eax (after.restorePointers stubbed.registers)
        | .error failure after => .error failure (after.restorePointers stubbed.registers) := by
  unfold invoke
  simp only [bind, EStateM.bind]
  cases stub calls <;> rfl

theorem invoke_course (runUntil : UInt32 → EStateM Fault (Calls σ) Unit) (target : UInt32)
    (words : List UInt32) (calls : Calls σ) :
    Course runUntil target words calls (invoke runUntil target words calls) := by
  rw [invoke_eq]
  cases found : stub calls with
  | error failure stubbed => exact .unstubbed found
  | ok address stubbed =>
    simp only [enter_eq]
    cases pushed : push stubbed.registers.esp (words.reverse ++ [address]) stubbed with
    | error failure framed => exact .unframed found pushed
    | ok esp framed =>
      cases ran : runUntil address (framed.aimed esp target) with
      | ok _ after =>
        simp only [ran]
        show Course runUntil target words calls (.ok (after.registers.get .eax) _)
        exact .stopped found pushed ran
      | error cause after =>
        simp only [ran]
        exact .faulted found pushed ran

/-! ### The frame -/

theorem push_keeps {holds : Calls σ → Prop}
    (step : ∀ top word calls, holds calls → holds (calls.stored top word)) (words : List UInt32)
    (esp : UInt32) (calls : Calls σ) (held : holds calls) : holds (left (push esp words calls)) := by
  induction words generalizing esp calls with
  | nil => exact held
  | cons word rest ih =>
    rw [push_cons]
    cases (Machine.memory calls.machine).check (esp - 4).toNat 4 with
    | ok _ => exact ih _ _ (step _ _ _ held)
    | error cause => exact held

/-- Pushing stops at the first word that there is no memory for. -/
theorem push_error {esp : UInt32} {words : List UInt32} {calls framed : Calls σ}
    {failure : CallError} (pushed : push esp words calls = .error failure framed) :
    ∃ cause, failure = .stack cause ∧ ∃ index < words.length,
      (Machine.memory framed.machine).check (esp - 4 * UInt32.ofNat (index + 1)).toNat 4 =
        .error cause := by
  induction words generalizing esp calls with
  | nil => cases pushed
  | cons word rest ih =>
    rw [push_cons] at pushed
    cases checked : (Machine.memory calls.machine).check (esp - 4).toNat 4 with
    | ok _ =>
      rw [checked] at pushed
      obtain ⟨cause, same, index, inside, refused⟩ := ih pushed
      refine ⟨cause, same, index + 1, Nat.succ_lt_succ inside, ?_⟩
      rw [← refused, UInt32.ofNat_add]
      congr 2
      grind
    | error cause =>
      rw [checked] at pushed
      cases pushed
      exact ⟨cause, rfl, 0, Nat.succ_pos _, checked⟩

/-- Each word takes four bytes below the one before it. -/
theorem push_top {esp top : UInt32} {words : List UInt32} {calls framed : Calls σ}
    (pushed : push esp words calls = .ok top framed) :
    top = esp - 4 * UInt32.ofNat words.length := by
  induction words generalizing esp calls with
  | nil =>
    cases pushed
    simp
  | cons word rest ih =>
    rw [push_cons] at pushed
    cases checked : (Machine.memory calls.machine).check (esp - 4).toNat 4 with
    | ok _ =>
      rw [checked] at pushed
      rw [ih pushed, List.length_cons, UInt32.ofNat_add]
      grind
    | error cause =>
      rw [checked] at pushed
      cases pushed

section Lawful

variable [Machine.Lawful σ]

/-- The word that is pushed last is on top. -/
theorem push_last {esp top word : UInt32} {words : List UInt32} {calls framed : Calls σ}
    (pushed : push esp (words ++ [word]) calls = .ok top framed) :
    (Machine.memory framed.machine).readDword top.toNat = .ok word := by
  induction words generalizing esp calls with
  | nil =>
    rw [List.nil_append, push_cons] at pushed
    cases checked : (Machine.memory calls.machine).check (esp - 4).toNat 4 with
    | ok _ =>
      rw [checked] at pushed
      cases pushed
      rw [stored, memory_modifyMemory]
      exact Memory.readDword_put (Memory.check_eq_ok_iff.mp checked)
    | error cause =>
      rw [checked] at pushed
      cases pushed
  | cons first rest ih =>
    rw [List.cons_append, push_cons] at pushed
    cases checked : (Machine.memory calls.machine).check (esp - 4).toNat 4 with
    | ok _ =>
      rw [checked] at pushed
      exact ih pushed
    | error cause =>
      rw [checked] at pushed
      cases pushed

/-- The host has written to the memory of the guest, if anything. -/
structure Framed (calls framed : Calls σ) : Prop where
  depth : framed.depth = calls.depth
  returnStub : framed.returnStub = calls.returnStub
  registers : framed.registers = calls.registers

theorem framed_push {esp : UInt32} {words : List UInt32} {calls : Calls σ}
    {result : EStateM.Result CallError (Calls σ) UInt32} (pushed : push esp words calls = result) :
    Framed calls (left result) := by
  rw [← pushed]
  refine push_keeps (fun top word framed held => ?_) words esp calls ⟨rfl, rfl, rfl⟩
  refine ⟨held.depth, held.returnStub, ?_⟩
  rw [← held.registers]
  exact registers_modifyMemory _ _

/-! ### The stub -/

/-- Looking for a stub touches no register and no depth, and a stub that is found stays. -/
theorem stub_ok {calls stubbed : Calls σ} {address : UInt32}
    (found : stub calls = .ok address stubbed) :
    stubbed.returnStub = some address ∧ stubbed.depth = calls.depth ∧
      stubbed.registers = calls.registers := by
  unfold stub at found
  cases known : calls.returnStub with
  | some word =>
    rw [known] at found
    cases found
    exact ⟨known, rfl, rfl⟩
  | none =>
    rw [known] at found
    have kept := registers_registerStub returnName calls.machine
    cases asked : Machine.registerStub returnName calls.machine with
    | ok number machine =>
      rw [asked] at found kept
      cases found
      exact ⟨rfl, rfl, kept⟩
    | error cause machine =>
      rw [asked] at found
      cases found

theorem stub_error {calls stubbed : Calls σ} {failure : CallError}
    (refused : stub calls = .error failure stubbed) :
    ∃ cause, failure = .stub cause ∧ stubbed.depth = calls.depth ∧
      stubbed.registers = calls.registers ∧ calls.returnStub = none ∧
      Machine.registerStub returnName calls.machine = .error cause stubbed.machine := by
  unfold stub at refused
  cases known : calls.returnStub with
  | some word =>
    rw [known] at refused
    cases refused
  | none =>
    rw [known] at refused
    have kept := registers_registerStub returnName calls.machine
    cases asked : Machine.registerStub returnName calls.machine with
    | ok number machine =>
      rw [asked] at refused
      cases refused
    | error cause machine =>
      rw [asked] at refused kept
      cases refused
      exact ⟨cause, rfl, rfl, kept, rfl, rfl⟩

/-! ### The call as a whole -/

/-- The function at `target` is about to run: one more call is in flight, and the stub lies on top
of the stack, below it the words. -/
structure Entered (stub target : UInt32) (words : List UInt32) (calls entered : Calls σ) : Prop where
  depth : entered.depth = calls.depth + 1
  returnStub : entered.returnStub = some stub
  eip : entered.registers.get .eip = target
  esp : entered.registers.get .esp =
    calls.registers.get .esp - 4 * UInt32.ofNat (words.length + 1)
  others : ∀ register, register ≠ .eip → register ≠ .esp →
    entered.registers.get register = calls.registers.get register
  top : (Machine.memory entered.machine).readDword (entered.registers.get .esp).toNat = .ok stub

/-- What the guest left in `after` is left, but for the depth and the two pointers, which are those
of `calls` again. -/
structure Restored (calls after final : Calls σ) : Prop where
  depth : final.depth = calls.depth
  eip : final.registers.get .eip = calls.registers.get .eip
  esp : final.registers.get .esp = calls.registers.get .esp
  others : ∀ register, register ≠ .eip → register ≠ .esp →
    final.registers.get register = after.registers.get register

/-- The ways in which a call ends: there is no stub to return to or no room for the frame, and no
guest code runs, or the guest runs until it stops or faults. -/
inductive Answered (runUntil : UInt32 → EStateM Fault (Calls σ) Unit) (target : UInt32)
    (words : List UInt32) (calls : Calls σ) : EStateM.Result CallError (Calls σ) UInt32 → Prop
  | unstubbed {cause : StubError} {final : Calls σ} (unknown : calls.returnStub = none)
      (refused : Machine.registerStub returnName calls.machine = .error cause final.machine)
      (restored : Restored calls calls final) :
      Answered runUntil target words calls (.error (.stub cause) final)
  | unframed {cause : MemoryError} {final : Calls σ} (refused : ∃ index ≤ words.length,
      (Machine.memory final.machine).check
        (calls.registers.get .esp - 4 * UInt32.ofNat (index + 1)).toNat 4 = .error cause)
      (restored : Restored calls calls final) :
      Answered runUntil target words calls (.error (.stack cause) final)
  | stopped {stub : UInt32} {entered after final : Calls σ}
      (entry : Entered stub target words calls entered)
      (ran : runUntil stub entered = .ok () after) (restored : Restored calls after final) :
      Answered runUntil target words calls (.ok (after.registers.get .eax) final)
  | faulted {stub : UInt32} {entered after final : Calls σ} {cause : Fault}
      (entry : Entered stub target words calls entered)
      (ran : runUntil stub entered = .error cause after) (restored : Restored calls after final) :
      Answered runUntil target words calls (.error (.fault target cause) final)

theorem entered_aimed {stub target esp : UInt32} {words : List UInt32}
    {calls stubbed framed : Calls σ}
    (found : Calls.stub calls = .ok stub stubbed)
    (pushed : push stubbed.registers.esp (words.reverse ++ [stub]) stubbed = .ok esp framed) :
    Entered stub target words calls (framed.aimed esp target) := by
  obtain ⟨known, depth, registers⟩ := stub_ok found
  have frame : Framed stubbed framed := framed_push pushed
  have top := push_last pushed
  have length := push_top pushed
  have aimed : (framed.aimed esp target).registers =
      { calls.registers with esp := esp, eip := target } := by
    rw [← registers, ← frame.registers]
    exact registers_setRegisters _ _
  refine ⟨?_, ?_, ?_, ?_, fun register _ _ => ?_, ?_⟩
  · exact congrArg (· + 1) (frame.depth.trans depth)
  · exact frame.returnStub.trans known
  · rw [aimed]
    rfl
  · rw [aimed]
    show esp = _
    rw [length, registers, List.length_append, List.length_reverse]
    rfl
  · rw [aimed]
    cases register <;> first | rfl | contradiction
  · rw [aimed]
    show (Machine.memory (Machine.setRegisters _ framed.machine)).readDword esp.toNat = _
    rw [memory_setRegisters]
    exact top

/-- The depth and the pointers are put back whatever the guest made of them. -/
theorem restored_restorePointers {calls saved : Calls σ} {depth : Nat} (after : Calls σ)
    (known : depth = calls.depth) (registers : saved.registers = calls.registers) :
    Restored calls after (restorePointers saved.registers { after with depth := depth }) := by
  have put : (restorePointers saved.registers { after with depth := depth }).registers =
      { after.registers with esp := saved.registers.esp, eip := saved.registers.eip } :=
    registers_setRegisters _ _
  refine ⟨known, ?_, ?_, fun register _ _ => ?_⟩
  · rw [put, registers]
    rfl
  · rw [put, registers]
    rfl
  · rw [put]
    cases register <;> first | rfl | contradiction

theorem invoke_answered (runUntil : UInt32 → EStateM Fault (Calls σ) Unit) (target : UInt32)
    (words : List UInt32) (calls : Calls σ) :
    Answered runUntil target words calls (invoke runUntil target words calls) := by
  have course := invoke_course runUntil target words calls
  generalize invoke runUntil target words calls = result at course ⊢
  cases course with
  | unstubbed refused =>
    obtain ⟨cause, rfl, depth, registers, unknown, asked⟩ := stub_error refused
    refine .unstubbed unknown asked ⟨depth, ?_, ?_, fun register _ _ => ?_⟩ <;> rw [registers]
  | @unframed failure address stubbed framed found refused =>
    obtain ⟨_, depth, registers⟩ := stub_ok found
    obtain ⟨cause, rfl, index, inside, unbacked⟩ := push_error refused
    have frame : Framed stubbed framed := framed_push refused
    have restored := restored_restorePointers framed (frame.depth.trans depth) registers
    have roomless : (Machine.memory (framed.restorePointers stubbed.registers).machine).check
        (calls.registers.get .esp - 4 * UInt32.ofNat (index + 1)).toNat 4 = .error cause := by
      rw [restorePointers, setRegisters, memory_setRegisters, ← unbacked, registers]
      rfl
    rw [List.length_append, List.length_reverse] at inside
    refine .unframed ⟨index, Nat.le_of_lt_succ inside, roomless⟩
      { restored with others := fun register notEip notEsp => ?_ }
    calc (framed.restorePointers stubbed.registers).registers.get register
        = framed.registers.get register := restored.others register notEip notEsp
      _ = calls.registers.get register := by rw [frame.registers, registers]
  | @stopped address esp stubbed framed after found pushed ran =>
    obtain ⟨_, depth, registers⟩ := stub_ok found
    have frame : Framed stubbed framed := framed_push pushed
    exact .stopped (entered_aimed found pushed) ran
      (restored_restorePointers after (frame.depth.trans depth) registers)
  | @faulted address esp stubbed framed after cause found pushed ran =>
    obtain ⟨_, depth, registers⟩ := stub_ok found
    have frame : Framed stubbed framed := framed_push pushed
    exact .faulted (entered_aimed found pushed) ran
      (restored_restorePointers after (frame.depth.trans depth) registers)

end Lawful

end Calls

end GuestDraw
