import ForeignCall.Proofs.Image
import ForeignCall.Proofs.Registers
import ForeignCall.Proofs.X86.Execution
import ForeignCall.Stub.Assembly

/-! Call stubs as machine code that runs: a stub loads the register images of a block into the
argument registers, calls its target once on an aligned stack, and returns with the result widened
and everything that a caller relies on restored. -/

namespace ForeignCall

open X86

namespace X86

namespace Code

theorem bytes_appendAll (code : Code) (instructions : List Instruction) :
    (code.appendAll instructions).bytes =
      code.bytes ++ instructions.flatMap Instruction.encode := by
  induction instructions generalizing code with
  | nil => simp [appendAll]
  | cons head tail ih =>
      rw [appendAll, List.foldl_cons, ← appendAll, ih]
      simp [append]

theorem relocations_appendAll (code : Code) (instructions : List Instruction) :
    (code.appendAll instructions).relocations = code.relocations := by
  induction instructions generalizing code with
  | nil => rfl
  | cons head tail ih =>
      rw [appendAll, List.foldl_cons, ← appendAll, ih]
      rfl

end Code

namespace Cpu

def Holds (cpu : Cpu) (class_ : ArgumentClass) (number : Nat) (image : UInt64) : Prop :=
  match class_ with
  | .integer => ∃ register,
      Register.integerArguments[number]? = some register ∧ cpu.general register = image
  | .single => ∃ below : number < 8, (cpu.vector ⟨number, below⟩).toUInt32 = image.toUInt32
  | .double => ∃ below : number < 8, cpu.vector ⟨number, below⟩ = image

theorem Holds.transfer {cpu after : Cpu} {class_ : ArgumentClass} {number : Nat} {image : UInt64}
    (held : cpu.Holds class_ number image)
    (integers : class_.isFloating = false → ∀ register,
      Register.integerArguments[number]? = some register →
        after.general register = cpu.general register)
    (floats : class_.isFloating = true → ∀ register : VectorRegister, register.val = number →
      after.vector register = cpu.vector register) : after.Holds class_ number image := by
  cases class_ with
  | integer =>
      obtain ⟨register, named, value⟩ := held
      exact ⟨register, named, by rw [integers rfl register named, value]⟩
  | single | double =>
      obtain ⟨below, value⟩ := held
      exact ⟨below, by rw [floats rfl ⟨number, below⟩ rfl, value]⟩

/-- What a function keeps under System V of the state in which it is entered, up to the point where
it pops its return address: the registers that belong to its caller, and the words that a stub has
on the stack. -/
structure Kept (entered left : Cpu) : Prop where
  rbx : left.general .rbx = entered.general .rbx
  rsp : left.general .rsp = entered.general .rsp
  words : ∀ index < 3,
    left.load (entered.general .rsp + UInt64.ofNat (8 * index)) =
      entered.load (entered.general .rsp + UInt64.ofNat (8 * index))

def resultImage (left : Cpu) (result : CType) (model : DataModel) : UInt64 :=
  result.cut model (if result.isFloating then left.vector 0 else left.general .rax)

end Cpu

end X86

namespace Stub

/-- A stub is entered: `rdi` names a block of images, and the free stack does not touch it. -/
structure EnteredWith (cpu : Cpu) (block : List UInt64) : Prop where
  images : ∀ index (below : index < block.length),
    cpu.load (cpu.general .rdi + UInt64.ofNat (8 * index)) = block[index]
  apart : ∀ index < block.length,
    Cpu.Apart (cpu.general .rdi + UInt64.ofNat (8 * index)) (cpu.general .rsp - 8)
  aligned : (cpu.general .rsp).toNat % 16 = 8

def opening (target : UInt64) (classes : List ArgumentClass) (registers : List Nat) :
    List Instruction :=
  [.pushRbx, .moveRbxRdi] ++ loads classes registers ++ [.moveRax target]

def closing (result : CType) (model : DataModel) : List Instruction :=
  widening result model ++ [.popRbx]

theorem relocated_assemble (target : UInt64) (classes : List ArgumentClass)
    (registers : List Nat) (result : CType) (model : DataModel) :
    (assemble target classes registers result model).relocated =
      (opening target classes registers).flatMap Instruction.encode ++
        (Instruction.callRax.encode ++
          ((closing result model).flatMap Instruction.encode ++ Instruction.ret.encode)) := by
  let loading : List Instruction := [.pushRbx, .moveRbxRdi] ++ loads classes registers
  let front := loading.flatMap Instruction.encode ++ [0x48, 0xb8]
  let back := Instruction.callRax.encode ++
    ((closing result model).flatMap Instruction.encode ++ Instruction.ret.encode)
  have bytes : (assemble target classes registers result model).bytes =
      front ++ littleEndian 8 0 ++ back := by
    simp [assemble, Code.bytes_appendAll, Code.appendCall, front, back, loading, closing,
      Instruction.encode]
  have places : (assemble target classes registers result model).relocations =
      [⟨front.length, target⟩] := by
    simp [assemble, Code.relocations_appendAll, Code.bytes_appendAll, Code.appendCall, front,
      loading, Nat.add_assoc]
  rw [Code.relocated, bytes, places, List.foldl_cons, List.foldl_nil,
    overwrite_middle _ _ _ _ (by simp)]
  simp [front, back, loading, opening, Instruction.encode]

theorem displacement_eq {position : Nat} (inside : position < 16) :
    (UInt8.ofNat (position * 8)).toInt8.toInt64.toUInt64 = UInt64.ofNat (8 * position) := by
  have all : ∀ position < 16, (UInt8.ofNat (position * 8)).toInt8.toInt64.toUInt64 =
      UInt64.ofNat (8 * position) := by decide
  exact all position inside

structure Loaded (used : RegisterUse) (classes : List ArgumentClass) (registers : List Nat)
    (position : Nat) (cpu after : Cpu) : Prop where
  memory : after.memory = cpu.memory
  rbx : after.general .rbx = cpu.general .rbx
  rsp : after.general .rsp = cpu.general .rsp
  integers : ∀ index < used.integers, ∀ register,
    Register.integerArguments[index]? = some register →
      after.general register = cpu.general register
  floats : ∀ register : VectorRegister, register.val < used.floats →
    after.vector register = cpu.vector register
  arguments : ∀ (index : Nat) (class_ : ArgumentClass) (register : Nat),
    classes[index]? = some class_ → registers[index]? = some register →
      after.Holds class_ register
        (cpu.load (cpu.general .rbx + UInt64.ofNat (8 * (position + index))))

theorem getElem?_integerArguments_eq {left right : Nat} {register : Register}
    (first : Register.integerArguments[left]? = some register)
    (second : Register.integerArguments[right]? = some register) : left = right := by
  have distinct : Register.integerArguments.Nodup := by decide
  have below := (List.getElem?_eq_some_iff.1 first).1
  exact (List.getElem?_inj below distinct).1 (first.trans second.symm)

structure LoadedOne (class_ : ArgumentClass) (number : Nat) (word : UInt64)
    (cpu after : Cpu) : Prop where
  memory : after.memory = cpu.memory
  rbx : after.general .rbx = cpu.general .rbx
  rsp : after.general .rsp = cpu.general .rsp
  integers : ∀ other register, Register.integerArguments[other]? = some register →
    class_.isFloating = true ∨ other ≠ number → after.general register = cpu.general register
  floats : ∀ register : VectorRegister, class_.isFloating = false ∨ register.val ≠ number →
    after.vector register = cpu.vector register
  holds : after.Holds class_ number word

theorem loadedOne_advance (cpu : Cpu) (class_ : ArgumentClass) {number : Nat} (position : Nat)
    (room : number < if class_.isFloating then 8 else 6) (inside : position < 16) :
    LoadedOne class_ number (cpu.load (cpu.general .rbx + UInt64.ofNat (8 * position))) cpu
      (cpu.advance (load class_ number position)) := by
  have reach : ∀ instruction : Instruction,
      (cpu.passing instruction).operandAddress (UInt8.ofNat (position * 8)) =
        cpu.general .rbx + UInt64.ofNat (8 * position) := by
    intro instruction
    rw [Cpu.operandAddress, displacement_eq inside, Cpu.general_passing]
  have words : ∀ instruction : Instruction, (cpu.passing instruction).load = cpu.load :=
    fun instruction => Cpu.load_congr rfl
  cases class_ with
  | integer =>
      have present : number < Register.integerArguments.length := room
      have named := List.getElem?_eq_getElem present
      have others : ∀ register ∈ Register.integerArguments,
          Register.rbx ≠ register ∧ Register.rsp ≠ register := by decide
      obtain ⟨notRbx, notRsp⟩ := others _ (List.getElem_mem present)
      simp only [load, Cpu.advance, Cpu.step, reach, words, named, Option.getD_some]
      constructor
      · rfl
      · simp [notRbx]
      · simp [notRsp]
      · intro other register second apart
        have different : register ≠ Register.integerArguments[number] := by
          rintro rfl
          simp [getElem?_integerArguments_eq second named, ArgumentClass.isFloating] at apart
        simp [different]
      · intro register _
        rfl
      · exact ⟨_, named, by simp⟩
  | single | double =>
      have below : number < 8 := room
      have named : VectorRegister.ofNumber number = ⟨number, below⟩ :=
        Fin.ext (Nat.mod_eq_of_lt below)
      simp only [load, Cpu.advance, Cpu.step, reach, words, named]
      constructor
      · rfl
      · rfl
      · rfl
      · intro other register _ _
        rfl
      · intro register apart
        have different : register ≠ ⟨number, below⟩ := by
          rintro rfl
          simp [ArgumentClass.isFloating] at apart
        simp [different]
      · exact ⟨below, by simp only [Cpu.vector_setVector, Bool.false_eq_true, ↓reduceIte,
          UInt32.toUInt32_toUInt64]⟩

def loadsAt (position : Nat) (classes : List ArgumentClass) (registers : List Nat) :
    List Instruction :=
  ((classes.zip registers).zipIdx position).map fun ((class_, register), position) =>
    load class_ register position

theorem loaded_foldl {classes : List ArgumentClass} {registers : List Nat}
    (used : RegisterUse) (position : Nat) (cpu : Cpu)
    (assigned : RegisterUse.assignFrom .systemV used (classes.map (·.isFloating)) =
      some registers)
    (inside : position + classes.length ≤ 16) :
    Loaded used classes registers position cpu
      ((loadsAt position classes registers).foldl Cpu.advance cpu) := by
  induction classes generalizing registers used position cpu with
  | nil =>
      constructor <;> simp [loadsAt]
  | cons class_ classes ih =>
      obtain ⟨room, tail, tailAssigned, rfl⟩ := RegisterUse.assignFrom_cons assigned
      rw [RegisterUse.hasRoom_systemV] at room
      simp only [List.length_cons] at inside
      generalize numbered : used.next .systemV class_.isFloating = number at room
      have one := loadedOne_advance cpu class_ position room (by omega)
      have rest := ih _ (position + 1) (cpu.advance (load class_ number position)) tailAssigned
        (by omega)
      have folded : (loadsAt position (class_ :: classes) (number :: tail)).foldl Cpu.advance cpu =
          (loadsAt (position + 1) classes tail).foldl Cpu.advance
            (cpu.advance (load class_ number position)) := by
        simp [loadsAt, List.zipIdx_cons]
      rw [RegisterUse.next_systemV] at numbered
      rw [folded]
      constructor
      · rw [rest.memory, one.memory]
      · rw [rest.rbx, one.rbx]
      · rw [rest.rsp, one.rsp]
      · intro index below register named
        have kept : index < (used.claim class_.isFloating).integers := by
          cases class_.isFloating <;> simp [RegisterUse.claim] <;> omega
        rw [rest.integers index kept register named, one.integers index register named]
        cases floating : class_.isFloating <;> simp [floating] at numbered ⊢
        omega
      · intro register below
        have kept : register.val < (used.claim class_.isFloating).floats := by
          cases class_.isFloating <;> simp [RegisterUse.claim] <;> omega
        rw [rest.floats register kept, one.floats register]
        cases floating : class_.isFloating <;> simp [floating] at numbered ⊢
        omega
      · intro index known register present assigned
        cases index with
        | zero =>
            obtain rfl : class_ = known := by simpa using present
            obtain rfl : number = register := by simpa using assigned
            refine one.holds.transfer ?_ ?_
            · intro integer register named
              apply rest.integers number _ register named
              simp only [integer, Bool.false_eq_true, ↓reduceIte] at numbered
              simp [integer, RegisterUse.claim, numbered]
            · intro floating register same
              apply rest.floats register
              simp only [floating, ↓reduceIte] at numbered
              simp [floating, RegisterUse.claim, same, numbered]
        | succ index =>
            have later := rest.arguments index known register (by simpa using present)
              (by simpa using assigned)
            rw [Cpu.load_congr one.memory, one.rbx] at later
            rwa [show position + (index + 1) = position + 1 + index by omega]

theorem foldl_widening {model : DataModel} (valid : model.Valid) (result : CType) (cpu : Cpu) :
    let after := (widening result model).foldl Cpu.advance cpu
    after.memory = cpu.memory ∧ (∀ register, register ≠ .rax →
      after.general register = cpu.general register) ∧
      after.general .rax = cpu.resultImage result model := by
  obtain ⟨pointer, long⟩ := model
  have step : ∀ instruction : Instruction, (∃ value, cpu.advance instruction =
        (cpu.passing instruction).setGeneral .rax value ∧
          value = cpu.resultImage result ⟨pointer, long⟩) →
      let after := [instruction].foldl Cpu.advance cpu
      after.memory = cpu.memory ∧ (∀ register, register ≠ .rax →
        after.general register = cpu.general register) ∧
        after.general .rax = cpu.resultImage result ⟨pointer, long⟩ := by
    rintro instruction ⟨value, advanced, rfl⟩
    simp only [List.foldl_cons, List.foldl_nil, advanced]
    refine ⟨rfl, ?_, rfl⟩
    intro register other
    simp [other]
  have none : cpu.general .rax = cpu.resultImage result ⟨pointer, long⟩ →
      let after := ([] : List Instruction).foldl Cpu.advance cpu
      after.memory = cpu.memory ∧ (∀ register, register ≠ .rax →
        after.general register = cpu.general register) ∧
        after.general .rax = cpu.resultImage result ⟨pointer, long⟩ :=
    fun kept => ⟨rfl, fun _ _ => rfl, kept⟩
  obtain ⟨rfl | rfl, rfl | rfl⟩ := valid <;> cases result <;> first
    | exact step _ ⟨_, rfl, rfl⟩
    | exact none (CType.cut_of_wide _ rfl rfl).symm

theorem isStraight_opening (target : UInt64) (classes : List ArgumentClass)
    (registers : List Nat) :
    ∀ instruction ∈ opening target classes registers, instruction.isStraight = true := by
  intro instruction member
  simp only [opening, loads, List.mem_append, List.mem_cons, List.not_mem_nil, or_false,
    List.mem_map] at member
  obtain ((rfl | rfl) | ⟨⟨⟨class_, register⟩, position⟩, _, rfl⟩) | rfl := member
  · rfl
  · rfl
  · cases class_ <;> rfl
  · rfl

theorem isStraight_closing (result : CType) (model : DataModel) :
    ∀ instruction ∈ closing result model, instruction.isStraight = true := by
  intro instruction member
  simp only [closing, List.mem_append, List.mem_singleton] at member
  obtain widened | rfl := member
  · unfold widening at widened
    split at widened
    · obtain rfl := List.mem_singleton.1 widened; rfl
    · obtain rfl := List.mem_singleton.1 widened; rfl
    · obtain rfl := List.mem_singleton.1 widened; rfl
    · split at widened
      · obtain rfl := List.mem_singleton.1 widened; rfl
      · obtain rfl := List.mem_singleton.1 widened; rfl
      · obtain rfl := List.mem_singleton.1 widened; rfl
      · simp at widened
  · rfl

/-- The state in which a stub makes its call: the argument registers are loaded, `rax` holds the
target, and the stub has put the old `rbx` on the stack. -/
structure Ready (cpu : Cpu) (target : UInt64) (classes : List ArgumentClass)
    (registers : List Nat) (block : List UInt64) (ready : Cpu) : Prop where
  rax : ready.general .rax = target
  rsp : ready.general .rsp = cpu.general .rsp - 8
  saved : ready.load (cpu.general .rsp - 8) = cpu.general .rbx
  others : ∀ address, Cpu.Apart address (cpu.general .rsp - 8) →
    ready.load address = cpu.load address
  arguments : ∀ (index : Nat) (class_ : ArgumentClass) (register : Nat) (image : UInt64),
    classes[index]? = some class_ → registers[index]? = some register →
      block[index]? = some image → ready.Holds class_ register image

theorem ready_opening {cpu : Cpu} {block : List UInt64} (target : UInt64)
    {classes : List ArgumentClass} {registers : List Nat}
    (assigned : assignRegisters .systemV (classes.map (·.isFloating)) = some registers)
    (entered : EnteredWith cpu block) :
    Ready cpu target classes registers block
      ((opening target classes registers).foldl Cpu.advance cpu) := by
  have few := RegisterUse.length_le_of_assignFrom_systemV assigned (by decide) (by decide)
  simp only [List.length_map, Nat.zero_add] at few
  let pushed := [Instruction.pushRbx, .moveRbxRdi].foldl Cpu.advance cpu
  have loaded := loaded_foldl {} 0 pushed assigned (by omega)
  have folded : (opening target classes registers).foldl Cpu.advance cpu =
      ((loadsAt 0 classes registers).foldl Cpu.advance pushed).advance (.moveRax target) := by
    simp [opening, pushed, loadsAt, loads]
  let word := cpu.passing .pushRbx
  have memory : pushed.load = (word.store (cpu.general .rsp - 8) (cpu.general .rbx)).load :=
    Cpu.load_congr rfl
  have after : (((loadsAt 0 classes registers).foldl Cpu.advance pushed).advance
      (.moveRax target)).load = pushed.load := Cpu.load_congr loaded.memory
  have rbx : pushed.general .rbx = cpu.general .rdi := rfl
  rw [folded]
  constructor
  · rfl
  · change ((loadsAt 0 classes registers).foldl Cpu.advance pushed).general .rsp = _
    rw [loaded.rsp]
    rfl
  · rw [after, memory, Cpu.load_store_self]
  · intro address apart
    rw [after, memory, Cpu.load_store_apart _ _ apart]
    rfl
  · intro index class_ register image known numbered present
    obtain ⟨below, rfl⟩ := List.getElem?_eq_some_iff.1 present
    have held := loaded.arguments index class_ register known numbered
    rw [Nat.zero_add, rbx, memory, Cpu.load_store_apart _ _ (entered.apart index below),
      show word.load = cpu.load from Cpu.load_congr rfl, entered.images index below] at held
    refine held.transfer ?_ fun _ _ _ => rfl
    intro _ named argument
    have notRax : ∀ named ∈ Register.integerArguments, named ≠ .rax := by decide
    have different := notRax named (List.mem_of_getElem? argument)
    simp [Cpu.advance, Cpu.step, different]

def finish (result : CType) (model : DataModel) (left : Cpu) : Cpu :=
  let back := { left.pop.2 with next := left.pop.1 }
  let closed := ((closing result model).foldl Cpu.advance back).passing .ret
  { closed.pop.2 with next := closed.pop.1 }

theorem load_entering {cpu ready : Cpu} {target : UInt64} {classes : List ArgumentClass}
    {registers : List Nat} {block : List UInt64}
    (prepared : Ready cpu target classes registers block ready) :
    let stack := ready.entering.general .rsp
    stack = cpu.general .rsp - 8 - 8 ∧
      ready.entering.load stack = (ready.passing .callRax).next ∧
      ready.entering.load (stack + 8) = cpu.general .rbx ∧
      ready.entering.load (stack + 16) = cpu.load (cpu.general .rsp) := by
  let stack := cpu.general .rsp - 8 - 8
  have stackEq : ready.entering.general .rsp = stack := by
    change ready.general .rsp - 8 = stack
    rw [prepared.rsp]
  have load : ready.entering.load =
      ((ready.passing .callRax).store stack (ready.passing .callRax).next).load := by
    apply Cpu.load_congr
    change ((ready.passing .callRax).store (ready.general .rsp - 8) _).memory = _
    rw [prepared.rsp]
  have passed : (ready.passing .callRax).load = ready.load := Cpu.load_congr rfl
  have middle : stack + 8 = cpu.general .rsp - 8 := UInt64.sub_add_cancel _ _
  have top : stack + 16 = cpu.general .rsp := by
    rw [show (16 : UInt64) = 8 + 8 from rfl, ← UInt64.add_assoc, middle, UInt64.sub_add_cancel]
  have above : Cpu.Apart (cpu.general .rsp) (cpu.general .rsp - 8) := by
    have apart : Cpu.Apart (cpu.general .rsp - 8 + 8) (cpu.general .rsp - 8) :=
      Cpu.apart_add _ 8 (by decide) (by decide)
    rwa [UInt64.sub_add_cancel] at apart
  simp only [stackEq, load]
  refine ⟨rfl, Cpu.load_store_self _ _ _, ?_, ?_⟩
  · have apart : Cpu.Apart (stack + 8) stack := Cpu.apart_add stack 8 (by decide) (by decide)
    rw [Cpu.load_store_apart _ _ apart, passed, middle, prepared.saved]
  · have apart : Cpu.Apart (stack + 16) stack := Cpu.apart_add stack 16 (by decide) (by decide)
    rw [Cpu.load_store_apart _ _ apart, passed, top, prepared.others _ above]

theorem finish_of_kept {cpu ready left : Cpu} {target : UInt64} {classes : List ArgumentClass}
    {registers : List Nat} {block : List UInt64} {model : DataModel} (valid : model.Valid)
    (result : CType) (prepared : Ready cpu target classes registers block ready)
    (kept : ready.entering.Kept left) :
    left.pop.1 = (ready.passing .callRax).next ∧
      (finish result model left).general .rbx = cpu.general .rbx ∧
      (finish result model left).general .rsp = cpu.general .rsp + 8 ∧
      (finish result model left).next = cpu.load (cpu.general .rsp) ∧
      (finish result model left).general .rax = left.resultImage result model := by
  obtain ⟨stack, bottom, middle, top⟩ := load_entering prepared
  let back : Cpu := { left.pop.2 with next := left.pop.1 }
  let widened := (widening result model).foldl Cpu.advance back
  obtain ⟨memory, others, rax⟩ := foldl_widening valid result back
  have closed : (closing result model).foldl Cpu.advance back = widened.advance .popRbx := by
    simp [closing, widened]
  have loads : widened.load = left.load := Cpu.load_congr memory
  have rsp : widened.general .rsp = ready.entering.general .rsp + 8 := by
    change ((widening result model).foldl Cpu.advance back).general .rsp = _
    rw [others _ (by decide), ← kept.rsp]
    rfl
  have first := kept.words 0 (by decide)
  have second := kept.words 1 (by decide)
  have third := kept.words 2 (by decide)
  simp only [Nat.mul_zero, show UInt64.ofNat 0 = 0 from rfl, UInt64.add_zero] at first
  change left.load (_ + 8) = ready.entering.load (_ + 8) at second
  change left.load (_ + 16) = ready.entering.load (_ + 16) at third
  have finished : finish result model left =
      { ((widened.advance .popRbx).passing .ret).pop.2 with
        next := ((widened.advance .popRbx).passing .ret).pop.1 } := by
    rw [finish, closed]
  have popped : (widened.advance .popRbx).load = left.load := loads
  refine ⟨?_, ?_, ?_, ?_, ?_⟩
  · change left.load (left.general .rsp) = _
    rw [kept.rsp, first, bottom]
  · rw [finished]
    change widened.load (widened.general .rsp) = _
    rw [loads, rsp, second, middle]
  · rw [finished]
    change widened.general .rsp + 8 + 8 = _
    rw [rsp, stack, UInt64.sub_add_cancel, UInt64.sub_add_cancel]
  · rw [finished]
    change (widened.advance .popRbx).load (widened.general .rsp + 8) = _
    rw [popped, rsp, UInt64.add_assoc, show (8 : UInt64) + 8 = 16 from rfl, third, top]
  · rw [finished]
    exact rax

/-- Code calls a target once and returns, whatever the target does as long as it keeps to the rules:
the target is entered on an aligned stack, with the images of a block in the registers that System V
gives to arguments of their classes; and the code leaves as a function does, with the target's
result as a widened image. -/
def CallsOnce (code : List UInt8) (cpu : Cpu) (target : UInt64) (classes : List ArgumentClass)
    (block : List UInt64) (result : CType) (model : DataModel) : Prop :=
  ∃ (entry : Cpu) (back : { left : Cpu // entry.Kept left } → Cpu),
    (∀ (m : Type → Type) [Monad m] [LawfulMonad m]
      (function : UInt64 → (entry : Cpu) → m { left : Cpu // entry.Kept left }),
      execute (fun address cpu => Subtype.val <$> function address cpu) code cpu =
        (fun left => some (back left)) <$> function target entry) ∧
    (entry.general .rsp + 8).toNat % 16 = 0 ∧
    (∀ (index : Nat) (class_ : ArgumentClass) (image : UInt64),
      classes[index]? = some class_ → block[index]? = some image →
        entry.Holds class_ ((classes.take index).countP (·.isFloating == class_.isFloating))
          image) ∧
    ∀ left, (back left).general .rbx = cpu.general .rbx ∧
      (back left).general .rsp = cpu.general .rsp + 8 ∧
      (back left).next = cpu.load (cpu.general .rsp) ∧
      (back left).general .rax = left.val.resultImage result model

theorem execute_of_ready {cpu ready : Cpu} {target : UInt64} {classes : List ArgumentClass}
    {registers : List Nat} {block : List UInt64} {model : DataModel} (valid : model.Valid)
    (result : CType) (prepared : Ready cpu target classes registers block ready)
    (rest : List UInt8) {m : Type → Type} [Monad m] [LawfulMonad m]
    (function : UInt64 → (entry : Cpu) → m { left : Cpu // entry.Kept left }) :
    execute (fun address cpu => Subtype.val <$> function address cpu)
        (Instruction.callRax.encode ++
          ((closing result model).flatMap Instruction.encode ++
            (Instruction.ret.encode ++ rest))) ready =
      (fun left => some (finish result model left.val)) <$> function target ready.entering := by
  rw [execute_call, prepared.rax, bind_map_left, map_eq_pure_bind]
  congr 1
  funext left
  obtain ⟨address, _⟩ := finish_of_kept valid result prepared left.property
  rw [if_pos address, execute_block _ _ _ _ (isStraight_closing result model), execute_return]
  rfl

/-- A stub whose targets are filled in does what it is for, whatever follows it. -/
theorem callsOnce_assemble {target : UInt64} {classes : List ArgumentClass}
    {registers : List Nat} {model : DataModel} {cpu : Cpu} {block : List UInt64}
    (result : CType) (rest : List UInt8) (valid : model.Valid)
    (assigned : assignRegisters .systemV (classes.map (·.isFloating)) = some registers)
    (entered : EnteredWith cpu block) :
    CallsOnce ((assemble target classes registers result model).relocated ++ rest) cpu target
      classes block result model := by
  have prepared := ready_opening target assigned entered
  generalize reached : (opening target classes registers).foldl Cpu.advance cpu = ready at prepared
  refine ⟨ready.entering, fun left => finish result model left.val, ?_, ?_, ?_, ?_⟩
  · intro m _ _ function
    have straight := isStraight_opening target classes registers
    rw [relocated_assemble, List.append_assoc, execute_block _ _ _ _ straight, reached,
      List.append_assoc, List.append_assoc, execute_of_ready valid result prepared]
  · obtain ⟨stack, _⟩ := load_entering prepared
    have aligned := entered.aligned
    have bound := (cpu.general .rsp).toNat_lt
    rw [stack, UInt64.sub_add_cancel, UInt64.toNat_sub]
    simp only [UInt64.reduceToNat]
    omega
  · intro index class_ image known present
    have flag : (classes.map (·.isFloating))[index]? = some class_.isFloating := by
      simp [known]
    have numbered := RegisterUse.getElem?_assignFrom_systemV assigned flag
    have count : (if class_.isFloating then 0 else 0) +
        ((classes.map (·.isFloating)).take index).count class_.isFloating =
          (classes.take index).countP (·.isFloating == class_.isFloating) := by
      rw [← List.map_take, List.count, List.countP_map, ite_self, Nat.zero_add]
      rfl
    rw [← count]
    refine (prepared.arguments index class_ _ image known numbered present).transfer ?_
      fun _ _ _ => rfl
    intro _ named argument
    have notRsp : ∀ named ∈ Register.integerArguments, named ≠ .rsp := by decide
    have different := notRsp named (List.mem_of_getElem? argument)
    simp [Cpu.entering, Cpu.push, different]
  · intro left
    exact (finish_of_kept valid result prepared left.property).2

theorem getElem?_flatMap_littleEndian (block : List UInt64) (index offset : Nat)
    (inside : offset < 8) :
    (block.flatMap (littleEndian 8))[8 * index + offset]? =
      block[index]?.bind fun word => (littleEndian 8 word)[offset]? := by
  induction block generalizing index with
  | nil => simp
  | cons word block ih =>
      rw [List.flatMap_cons]
      cases index with
      | zero =>
          rw [List.getElem?_append_left (by simpa using inside)]
          simp
      | succ index =>
          rw [List.getElem?_append_right (by simp only [length_littleEndian]; omega),
            length_littleEndian, show 8 * (index + 1) + offset - 8 = 8 * index + offset by omega,
            ih]
          simp

theorem enteredWith_start {block : List UInt64} (few : block.length ≤ 128) :
    EnteredWith (Cpu.start block) block := by
  have small : ∀ distance ≤ 1024, (UInt64.ofNat distance).toNat = distance := by
    intro distance bound
    exact UInt64.toNat_ofNat_of_lt (by simp only [UInt64.size]; omega)
  constructor
  · intro index below
    have bytes : (List.range 8).map (fun offset => (Cpu.start block).memory
        ((Cpu.start block).general .rdi + UInt64.ofNat (8 * index) + UInt64.ofNat offset)) =
          littleEndian 8 block[index] := by
      apply List.ext_getElem
      · simp
      · intro offset bound present
        have inside : offset < 8 := by simpa using bound
        have distance : ((0x7000000 : UInt64) + UInt64.ofNat (8 * index) + UInt64.ofNat offset -
            0x7000000).toNat = 8 * index + offset := by
          simp only [UInt64.toNat_sub, UInt64.toNat_add, small _ (show 8 * index ≤ 1024 by omega),
            small _ (show offset ≤ 1024 by omega), UInt64.reduceToNat]
          omega
        simp only [List.getElem_map, List.getElem_range, Cpu.start, distance,
          getElem?_flatMap_littleEndian block index offset inside,
          List.getElem?_eq_getElem below, Option.bind_some, List.getElem?_eq_getElem present,
          Option.getD_some]
    rw [Cpu.load, bytes, ofLittleEndian_littleEndian]
  · intro index below
    change Cpu.Apart ((0x7000000 : UInt64) + UInt64.ofNat (8 * index)) (0x6fff008 - 8)
    constructor
    · simp only [UInt64.toNat_sub, UInt64.toNat_add, small _ (show 8 * index ≤ 1024 by omega),
        UInt64.reduceToNat]
      omega
    · simp only [UInt64.toNat_sub, UInt64.toNat_add, small _ (show 8 * index ≤ 1024 by omega),
        UInt64.reduceToNat]
      omega
  · change (0x6fff008 : UInt64).toNat % 16 = 8
    decide

/-- The code of an assembled stub calls its target once, with every argument where System V has it,
and returns the widened result. -/
theorem callsOnce_of_assemble? {target : UInt64} {classes : List ArgumentClass} {result : CType}
    {model : DataModel} {code : Code} {cpu : Cpu} {block : List UInt64} (valid : model.Valid)
    (assembled : assemble? target classes result model = some code)
    (entered : EnteredWith cpu block) (rest : List UInt8) :
    CallsOnce (code.relocated ++ rest) cpu target classes block result model := by
  obtain ⟨registers, assigned, rfl⟩ := Option.map_eq_some_iff.1 assembled
  exact callsOnce_assemble result rest valid assigned entered

/-- A stub of two integers, a `float` and a `double`, under a model with narrow sizes. -/
theorem callsOnce_mixed :
    let classes : List ArgumentClass := [.integer, .single, .integer, .double]
    let block : List UInt64 := [0xffffffffffffffff, 0x3f800000, 7, 0x4000000000000000]
    ∃ code, assemble? 0x1122334455667788 classes .short .ilp32 = some code ∧
      EnteredWith (Cpu.start block) block ∧
      CallsOnce (code.relocated ++ [0x90]) (Cpu.start block) 0x1122334455667788 classes block
        .short .ilp32 := by
  intro classes block
  exact ⟨_, rfl, enteredWith_start (by decide),
    callsOnce_of_assemble? (by decide) rfl (enteredWith_start (by decide)) [0x90]⟩

end Stub

end ForeignCall
