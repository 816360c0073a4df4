/-
**The frame of a guest call.**

A call frame is written downwards, a dword at a time: the last word first, the first one later, and
the stub to return to on top. The stack pointer wraps around the end of the address space, and the
store of a word fails where there is no memory for it, after those of the words before.

* `slot`, `InFrame`: where the words of a frame lie, and the bytes that they take;
* `push_backed`: with memory for every word all of them are pushed;
* `byte?_push`, `readDword_push`: what pushing leaves in memory, also if it fails on the way;
* `guest_call_frame`: the frame that a function is run with, and nothing runs without one.
-/

import GuestDraw.Proofs.GuestCall.Nesting
import GuestDraw.Proofs.Interface.Records

namespace GuestDraw.Calls

open Machine.Lawful

/-! ### Places on the stack -/

/-- Where the word number `index` lies of those that are pushed below `esp`. -/
def slot (esp : UInt32) (index : Nat) : UInt32 := esp - 4 * UInt32.ofNat (index + 1)

/-- One of the bytes that `count` words take below `esp`. -/
def InFrame (esp : UInt32) (count address : Nat) : Prop :=
  ∃ offset < 4 * count, address = (esp - 4 * UInt32.ofNat count + UInt32.ofNat offset).toNat

theorem slot_zero (esp : UInt32) : slot esp 0 = esp - 4 := by
  simp [slot]

theorem slot_succ (esp : UInt32) (index : Nat) : slot esp (index + 1) = slot (esp - 4) index := by
  unfold slot
  rw [UInt32.ofNat_add (index + 1)]
  grind

/-- The bytes of the first word, and those of the words below it. -/
theorem inFrame_succ_iff {esp : UInt32} {count address : Nat} : InFrame esp (count + 1) address ↔
    InFrame (esp - 4) count address ∨
      ∃ offset < 4, address = (esp - 4 + UInt32.ofNat offset).toNat := by
  have below : esp - 4 * UInt32.ofNat (count + 1) = esp - 4 - 4 * UInt32.ofNat count := by
    rw [UInt32.ofNat_add]
    grind
  have above : ∀ offset : Nat, esp - 4 - 4 * UInt32.ofNat count + UInt32.ofNat (4 * count + offset) =
      esp - 4 + UInt32.ofNat offset := by
    intro offset
    rw [UInt32.ofNat_add, UInt32.ofNat_mul]
    grind
  unfold InFrame
  rw [below]
  constructor
  · rintro ⟨offset, inside, rfl⟩
    by_cases lower : offset < 4 * count
    · exact .inl ⟨offset, lower, rfl⟩
    · obtain ⟨rest, rfl⟩ := Nat.exists_eq_add_of_le (Nat.not_lt.mp lower)
      exact .inr ⟨rest, by omega, by rw [above]⟩
  · rintro (⟨offset, inside, rfl⟩ | ⟨offset, inside, rfl⟩)
    · exact ⟨offset, by omega, rfl⟩
    · exact ⟨4 * count + offset, by omega, by rw [above]⟩

/-- The words of a frame lie one behind the other from its top on. -/
theorem slot_eq (esp : UInt32) {count index : Nat} (inside : index < count) :
    slot esp (count - 1 - index) = esp - 4 * UInt32.ofNat count + 4 * UInt32.ofNat index := by
  have whole : UInt32.ofNat count = UInt32.ofNat (count - 1 - index + 1) + UInt32.ofNat index := by
    rw [← UInt32.ofNat_add]
    congr 1
    omega
  unfold slot
  rw [whole]
  grind

/-- No address of a dword in memory wraps around, and each is one of those counted from the
first. -/
theorem exists_offset {memory : Memory} {top : UInt32} {address : Nat}
    (window : memory.base + memory.bytes.size ≤ addressSpace)
    (held : memory.holds top.toNat 4 = true)
    (inside : top.toNat ≤ address ∧ address < top.toNat + 4) :
    ∃ offset < 4, address = (top + UInt32.ofNat offset).toNat := by
  rw [Memory.holds_iff] at held
  refine ⟨address - top.toNat, by omega, ?_⟩
  unfold addressSpace at window
  rw [UInt32.toNat_add, UInt32.toNat_ofNat']
  omega

/-- The dword above a frame is not part of it, unless the frame takes all of the address space. -/
theorem not_inFrame {esp : UInt32} {count offset : Nat} (short : 4 * (count + 1) < addressSpace)
    (inside : offset < 4) : ¬ InFrame esp count (esp.toNat + offset) := by
  unfold addressSpace at short
  rintro ⟨place, below, same⟩
  rw [UInt32.toNat_add, UInt32.toNat_sub, UInt32.toNat_mul, UInt32.toNat_ofNat',
    UInt32.toNat_ofNat'] at same
  have four : (4 : UInt32).toNat = 4 := rfl
  rw [four] at same
  omega

/-! ### What is pushed -/

variable {σ : Type} [Machine σ] [Machine.Lawful σ] {esp top : UInt32} {words : List UInt32}
  {calls framed : Calls σ}

theorem memory_stored (top word : UInt32) (calls : Calls σ) :
    Machine.memory (calls.stored top word).machine =
      (Machine.memory calls.machine).put top.toNat (LittleEndian.ofDword word) :=
  memory_modifyMemory _ _

/-- All words are pushed if and only if there is memory for each of them. -/
theorem push_ok_iff : (∃ top framed, push esp words calls = .ok top framed) ↔
    ∀ index < words.length, (Machine.memory calls.machine).holds (slot esp index).toNat 4 = true := by
  induction words generalizing esp calls with
  | nil => exact iff_of_true ⟨_, _, rfl⟩ fun _ inside => absurd inside (Nat.not_lt_zero _)
  | cons word rest ih =>
    rw [push_cons]
    cases checked : (Machine.memory calls.machine).check (esp - 4).toNat 4 with
    | ok _ =>
      have held := Memory.check_eq_ok_iff.mp checked
      rw [ih, memory_stored]
      simp only [Memory.holds_put, ← slot_succ]
      constructor
      · intro later index inside
        cases index with
        | zero => exact slot_zero esp ▸ held
        | succ index => exact later index (Nat.lt_of_succ_lt_succ inside)
      · exact fun all index inside => all (index + 1) (Nat.succ_lt_succ inside)
    | error cause =>
      refine iff_of_false (fun ⟨_, _, pushed⟩ => nomatch pushed) fun all => ?_
      have held := all 0 (Nat.succ_pos _)
      rw [slot_zero, ← Memory.check_eq_ok_iff, checked] at held
      cases held

section Window

variable (window : (Machine.memory calls.machine).base +
  (Machine.memory calls.machine).bytes.size ≤ addressSpace)

theorem window_stored (window : (Machine.memory calls.machine).base +
      (Machine.memory calls.machine).bytes.size ≤ addressSpace) (top word : UInt32) :
    (Machine.memory (calls.stored top word).machine).base +
      (Machine.memory (calls.stored top word).machine).bytes.size ≤ addressSpace := by
  rw [memory_stored]
  have size : ((Machine.memory calls.machine).put _ _).bytes.size = _ :=
    Memory.size_put (Machine.memory calls.machine) top.toNat (LittleEndian.ofDword word)
  rw [Memory.base_put, size]
  exact window

include window

/-- Pushing changes no byte beside the frame, also if it stops before the last word. -/
theorem byte?_push {result : EStateM.Result CallError (Calls σ) UInt32}
    (pushed : push esp words calls = result) {address : Nat}
    (outside : ¬ InFrame esp words.length address) :
    (Machine.memory (left result).machine).byte? address =
      (Machine.memory calls.machine).byte? address := by
  subst pushed
  induction words generalizing esp calls with
  | nil => rfl
  | cons word rest ih =>
    rw [List.length_cons, inFrame_succ_iff, not_or] at outside
    rw [push_cons]
    cases checked : (Machine.memory calls.machine).check (esp - 4).toNat 4 with
    | error cause => rfl
    | ok _ =>
      have held := Memory.check_eq_ok_iff.mp checked
      have length := LittleEndian.length_ofDword word
      dsimp only
      rw [ih (window_stored window _ _) outside.1, memory_stored,
        Memory.byte?_put (length.symm ▸ held), length,
        if_neg fun inside => outside.2 (exists_offset window held inside)]

/-- Every word that was pushed is found in its slot. -/
theorem readDword_push (short : 4 * words.length < addressSpace)
    (pushed : push esp words calls = .ok top framed) {index : Nat} (inside : index < words.length) :
    (Machine.memory framed.machine).readDword (slot esp index).toNat = .ok words[index] := by
  induction words generalizing esp calls index with
  | nil => exact absurd inside (Nat.not_lt_zero _)
  | cons word rest ih =>
    rw [push_cons] at pushed
    cases checked : (Machine.memory calls.machine).check (esp - 4).toNat 4 with
    | error cause =>
      rw [checked] at pushed
      cases pushed
    | ok _ =>
      rw [checked] at pushed
      replace pushed : push (esp - 4) rest (calls.stored (esp - 4) word) = .ok top framed := pushed
      have still := window_stored window (esp - 4) word
      rw [List.length_cons] at short
      cases index with
      | succ index =>
        rw [slot_succ]
        exact ih still (by omega) pushed (Nat.lt_of_succ_lt_succ inside)
      | zero =>
        have held := Memory.check_eq_ok_iff.mp checked
        have length := LittleEndian.length_ofDword word
        rw [slot_zero]
        refine Memory.readDword_of_bytes fun offset within => ?_
        refine (byte?_push still pushed (not_inFrame short within)).trans ?_
        rw [memory_stored, Memory.byte?_put (length.symm ▸ held), length, if_pos (by omega),
          Nat.add_sub_cancel_left]
        rfl

end Window

/-! ### The call -/

/-- A function is about to run on a whole frame: its words lie above the stub, the first one
nearest, and beside the frame every byte is what it was. -/
structure Laid (stub target : UInt32) (words : List UInt32) (calls entered : Calls σ) : Prop
    extends Entered stub target words calls entered where
  word : ∀ index (inside : index < words.length), (Machine.memory entered.machine).readDword
    (entered.registers.get .esp + 4 + 4 * UInt32.ofNat index).toNat = .ok words[index]
  beside : ∀ address, ¬ InFrame (calls.registers.get .esp) (words.length + 1) address →
    (Machine.memory entered.machine).byte? address = (Machine.memory calls.machine).byte? address

/-- There was no memory for a word of a frame: all is as it was but for bytes where the frame would
lie. -/
structure Unlaid (count : Nat) (calls final : Calls σ) : Prop where
  depth : final.depth = calls.depth
  returnStub : final.returnStub = calls.returnStub
  registers : final.registers = calls.registers
  beside : ∀ address, ¬ InFrame (calls.registers.get .esp) count address →
    (Machine.memory final.machine).byte? address = (Machine.memory calls.machine).byte? address

/-- What becomes of a call when its run leaves off: the depth and the pointers are put back. -/
def concluded (target : UInt32) (calls : Calls σ) :
    EStateM.Result Fault (Calls σ) Unit → EStateM.Result CallError (Calls σ) UInt32
  | .ok _ after => .ok (after.registers.get .eax)
      (restorePointers calls.registers { after with depth := calls.depth })
  | .error cause after => .error (.fault target cause)
      (restorePointers calls.registers { after with depth := calls.depth })

omit [Machine.Lawful σ] in
theorem stub_known {stub : UInt32} (known : calls.returnStub = some stub) :
    Calls.stub calls = .ok stub calls := by
  rw [Calls.stub, known]

/-- With a whole frame a call is one run from where it was laid. -/
theorem invoke_of_push {stub target : UInt32} (known : calls.returnStub = some stub)
    (pushed : push calls.registers.esp (words.reverse ++ [stub]) calls = .ok top framed)
    (runUntil : UInt32 → EStateM Fault (Calls σ) Unit) :
    invoke runUntil target words calls =
      concluded target calls (runUntil stub (framed.aimed top target)) := by
  have frame : Framed calls framed := framed_push pushed
  rw [invoke_eq, stub_known known]
  simp only [enter_eq, pushed, frame.depth]
  cases runUntil stub (framed.aimed top target) <;> rfl

omit [Machine.Lawful σ] in
/-- Without one it fails, whatever a run would do. -/
theorem invoke_of_unpushed {stub target : UInt32} {failure : CallError}
    (known : calls.returnStub = some stub)
    (refused : push calls.registers.esp (words.reverse ++ [stub]) calls = .error failure framed)
    (runUntil : UInt32 → EStateM Fault (Calls σ) Unit) :
    invoke runUntil target words calls =
      .error failure (framed.restorePointers calls.registers) := by
  rw [invoke_eq, stub_known known]
  simp only [enter_eq, refused]

/-- **The frame of a guest call.** If there is memory for all its words, the function is run once,
on the stub and its words at the top of the stack and with everything else as it was; and if there
is none for one of them it is not run at all, and nothing has changed but bytes where the frame
would lie. -/
theorem guest_call_frame {calls : Calls σ} {stub : UInt32} (known : calls.returnStub = some stub)
    (window : (Machine.memory calls.machine).base +
      (Machine.memory calls.machine).bytes.size ≤ addressSpace)
    (target : UInt32) {words : List UInt32} (short : 4 * (words.length + 1) < addressSpace) :
    ((∀ index ≤ words.length, (Machine.memory calls.machine).holds
        (slot (calls.registers.get .esp) index).toNat 4 = true) →
      ∃ entered, Laid stub target words calls entered ∧ ∀ runUntil,
        invoke runUntil target words calls = concluded target calls (runUntil stub entered)) ∧
    ((∃ index ≤ words.length, (Machine.memory calls.machine).holds
        (slot (calls.registers.get .esp) index).toNat 4 = false) →
      ∃ cause final, Unlaid (words.length + 1) calls final ∧ ∀ runUntil,
        invoke runUntil target words calls = .error (.stack cause) final) := by
  have count : (words.reverse ++ [stub]).length = words.length + 1 := by
    rw [List.length_append, List.length_reverse]
    rfl
  have backed_iff : (∃ top framed,
        push calls.registers.esp (words.reverse ++ [stub]) calls =
          .ok top framed) ↔ _ := push_ok_iff
  rw [count] at backed_iff
  constructor
  · intro backed
    obtain ⟨top, framed, pushed⟩ :=
      backed_iff.mpr fun index below => backed index (Nat.le_of_lt_succ below)
    have entry : Entered stub target words calls (framed.aimed top target) :=
      entered_aimed (stub_known known) pushed
    have memory : Machine.memory (framed.aimed top target).machine =
      Machine.memory framed.machine :=
      memory_setRegisters _ _
    refine ⟨framed.aimed top target, { entry with word := ?_, beside := ?_ },
      invoke_of_push known pushed⟩
    · intro index inside
      have place : (framed.aimed top target).registers.get .esp + 4 + 4 * UInt32.ofNat index =
          slot calls.registers.esp (words.length - 1 - index) := by
        rw [entry.esp, slot_eq _ inside, UInt32.ofNat_add]
        show calls.registers.esp - 4 * (UInt32.ofNat words.length + UInt32.ofNat 1) + 4 + _ = _
        grind
      have among : words.length - 1 - index < (words.reverse ++ [stub]).length := by
        rw [count]
        omega
      have found := readDword_push window (count.symm ▸ short) pushed among
      have reversed : (words.reverse ++ [stub])[words.length - 1 - index] = words[index] := by
        rw [List.getElem_append_left (by rw [List.length_reverse]; omega), List.getElem_reverse]
        congr 1
        omega
      rw [memory, place, ← reversed]
      exact found
    · intro address outside
      rw [memory]
      exact byte?_push window pushed (count.symm ▸ outside)
  · rintro ⟨index, below, unbacked⟩
    cases pushed : push calls.registers.esp (words.reverse ++ [stub]) calls with
    | ok top framed =>
      have held := backed_iff.mp ⟨top, framed, pushed⟩ index (Nat.lt_succ_of_le below)
      exact absurd (held.symm.trans unbacked) (by decide)
    | error failure framed =>
      obtain ⟨cause, rfl, -⟩ := push_error pushed
      have frame : Framed calls framed := framed_push pushed
      have registers : (framed.restorePointers calls.registers).registers =
          { framed.registers with esp := calls.registers.esp, eip := calls.registers.eip } :=
        registers_setRegisters _ _
      have memory : Machine.memory (framed.restorePointers calls.registers).machine =
          Machine.memory framed.machine := memory_setRegisters _ _
      refine ⟨cause, framed.restorePointers calls.registers,
        ⟨frame.depth, frame.returnStub, ?_, fun address outside => ?_⟩,
        invoke_of_unpushed known pushed⟩
      · rw [registers, frame.registers]
      · rw [memory]
        exact byte?_push window pushed (count.symm ▸ outside)

/-- On a stack of 16 bytes there is room for the stub and two words, but not for the stub and
four. -/
theorem guest_call_frame_small :
    let calls : Calls PlainGuest := ⟨.small, some 0x7000, 0⟩
    calls.returnStub = some 0x7000 ∧
      (Machine.memory calls.machine).base + (Machine.memory calls.machine).bytes.size ≤ addressSpace ∧
      (∃ entered, Laid 0x7000 0x2000 [7, 9] calls entered ∧ ∀ runUntil,
        invoke runUntil 0x2000 [7, 9] calls = concluded 0x2000 calls (runUntil 0x7000 entered)) ∧
      ∃ cause final, Unlaid 5 calls final ∧ ∀ runUntil,
        invoke runUntil 0x2000 [1, 2, 3, 4] calls = .error (.stack cause) final := by
  intro calls
  have window : (Machine.memory calls.machine).base +
      (Machine.memory calls.machine).bytes.size ≤ addressSpace := by decide
  have few := @guest_call_frame PlainGuest _ _ calls 0x7000 rfl window 0x2000 [7, 9] (by decide)
  have many := @guest_call_frame PlainGuest _ _ calls 0x7000 rfl window 0x2000 [1, 2, 3, 4] (by decide)
  exact ⟨rfl, window, few.1 (by decide), many.2 ⟨4, by decide, by decide⟩⟩

end GuestDraw.Calls
