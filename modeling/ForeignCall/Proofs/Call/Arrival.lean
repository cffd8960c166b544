import ForeignCall.Proofs.Stub.Execution

/-! How arguments arrive: a function reads every argument from the register or the stack word that
its class and its place give it, and reads no more of it than its C type covers. -/

namespace ForeignCall

namespace EntryRegisters

def read (entry : EntryRegisters) (model : DataModel) : List CType → List UInt64
  | [] => []
  | type :: rest =>
    type.cut model (entry.pop type.isFloating).1 :: (entry.pop type.isFloating).2.read model rest

def wordsOf (floating : Bool) (arguments : List (Bool × UInt64)) : List UInt64 :=
  (arguments.filter (·.1 == floating)).map (·.2)

/-- The words that go to the stack when some registers of each class are left. -/
def overflow (integers floats : Nat) : List (Bool × UInt64) → List UInt64
  | [] => []
  | (true, word) :: rest =>
    match floats with
    | 0 => word :: overflow integers 0 rest
    | floats + 1 => overflow integers floats rest
  | (false, word) :: rest =>
    match integers with
    | 0 => word :: overflow 0 floats rest
    | integers + 1 => overflow integers floats rest

theorem foldl_push (arguments : List (Bool × UInt64)) (entry : EntryRegisters)
    (integers floats : Nat) (someIntegers : entry.integers.length + integers = 6)
    (someFloats : entry.floats.length + floats = 8) :
    arguments.foldl (fun entry (floating, image) => entry.push floating image) entry =
      ⟨entry.integers ++ (wordsOf false arguments).take integers,
        entry.floats ++ (wordsOf true arguments).take floats,
        entry.stack ++ overflow integers floats arguments⟩ := by
  induction arguments generalizing entry integers floats with
  | nil => simp [wordsOf, overflow]
  | cons head rest ih =>
      obtain ⟨floating, word⟩ := head
      rw [List.foldl_cons]
      change List.foldl _ (entry.push floating word) rest = _
      cases floating with
      | false =>
          cases integers with
          | zero =>
              have pushed : entry.push false word =
                  { entry with stack := entry.stack ++ [word] } := by
                simp [push, Abi.integerRegisters, show ¬ entry.integers.length < 6 by omega]
              rw [pushed, ih { entry with stack := entry.stack ++ [word] } 0 floats someIntegers
                someFloats]
              simp [wordsOf, overflow]
          | succ integers =>
              have pushed : entry.push false word =
                  { entry with integers := entry.integers ++ [word] } := by
                simp [push, Abi.integerRegisters, show entry.integers.length < 6 by omega]
              have counted : (entry.integers ++ [word]).length + integers = 6 := by
                simp only [List.length_append, List.length_singleton]
                omega
              rw [pushed, ih { entry with integers := entry.integers ++ [word] } integers floats
                counted someFloats]
              simp [wordsOf, overflow]
      | true =>
          cases floats with
          | zero =>
              have pushed : entry.push true word =
                  { entry with stack := entry.stack ++ [word] } := by
                simp [push, Abi.floatRegisters, show ¬ entry.floats.length < 8 by omega]
              rw [pushed, ih { entry with stack := entry.stack ++ [word] } integers 0 someIntegers
                someFloats]
              simp [wordsOf, overflow]
          | succ floats =>
              have pushed : entry.push true word =
                  { entry with floats := entry.floats ++ [word] } := by
                simp [push, Abi.floatRegisters, show entry.floats.length < 8 by omega]
              have counted : (entry.floats ++ [word]).length + floats = 8 := by
                simp only [List.length_append, List.length_singleton]
                omega
              rw [pushed, ih { entry with floats := entry.floats ++ [word] } integers floats
                someIntegers counted]
              simp [wordsOf, overflow]

def classed (types : List CType) (words : List UInt64) : List (Bool × UInt64) :=
  (types.zip words).map fun (type, word) => (type.isFloating, word)

theorem read_overflow (model : DataModel) (types : List CType) (words : List UInt64)
    (integers floats : Nat) (counted : types.length = words.length) :
    read ⟨(wordsOf false (classed types words)).take integers,
      (wordsOf true (classed types words)).take floats,
      overflow integers floats (classed types words)⟩ model types =
        types.zipWith (·.cut model ·) words := by
  induction types generalizing words integers floats with
  | nil => rfl
  | cons type types ih =>
      obtain _ | ⟨word, words⟩ := words
      · simp at counted
      · have rest := fun integers floats => ih words integers floats (by simpa using counted)
        simp only [classed] at rest
        cases floating : type.isFloating with
        | false =>
            cases integers with
            | zero => simpa [read, classed, wordsOf, overflow, pop, floating] using rest 0 floats
            | succ integers =>
                simpa [read, classed, wordsOf, overflow, pop, floating] using rest integers floats
        | true =>
            cases floats with
            | zero => simpa [read, classed, wordsOf, overflow, pop, floating] using rest integers 0
            | succ floats =>
                simpa [read, classed, wordsOf, overflow, pop, floating] using rest integers floats

theorem read_ofArguments (model : DataModel) (types : List CType) (words : List UInt64)
    (counted : types.length = words.length) :
    (ofArguments (classed types words)).read model types =
      types.zipWith (·.cut model ·) words := by
  rw [ofArguments, foldl_push _ empty 6 8 rfl rfl]
  exact read_overflow model types words 6 8 counted

def registersOf (entry : EntryRegisters) (floating : Bool) : List UInt64 :=
  if floating then entry.floats else entry.integers

theorem pop_of_registersOf {entry : EntryRegisters} {floating : Bool} {image : UInt64}
    (first : (entry.registersOf floating)[0]? = some image) :
    (entry.pop floating).1 = image ∧
      (entry.pop floating).2.registersOf floating = (entry.registersOf floating).tail ∧
      ∀ other, other ≠ floating →
        (entry.pop floating).2.registersOf other = entry.registersOf other := by
  obtain ⟨integers, floats, stack⟩ := entry
  cases floating with
  | false =>
      obtain _ | ⟨head, rest⟩ := integers
      · simp [registersOf] at first
      · refine ⟨Option.some.inj first, rfl, ?_⟩
        intro other different
        have opposite : other = true := by simpa using different
        subst opposite
        rfl
  | true =>
      obtain _ | ⟨head, rest⟩ := floats
      · simp [registersOf] at first
      · refine ⟨Option.some.inj first, rfl, ?_⟩
        intro other different
        have opposite : other = false := by simpa using different
        subst opposite
        rfl

theorem read_of_registersOf (model : DataModel) (types : List CType) (words : List UInt64)
    (entry : EntryRegisters) (counted : types.length = words.length)
    (held : ∀ (index : Nat) (type : CType) (word : UInt64),
      types[index]? = some type → words[index]? = some word →
        ∃ found, (entry.registersOf type.isFloating)[(types.take index).countP
            (·.isFloating == type.isFloating)]? = some found ∧
          type.cut model found = type.cut model word) :
    entry.read model types = types.zipWith (·.cut model ·) words := by
  induction types generalizing words entry with
  | nil => rfl
  | cons type types ih =>
      obtain _ | ⟨word, words⟩ := words
      · simp at counted
      · obtain ⟨found, first, same⟩ := held 0 type word rfl rfl
        obtain ⟨taken, left, others⟩ := pop_of_registersOf first
        rw [read, taken, same, List.zipWith_cons_cons]
        congr 1
        apply ih words _ (by simpa using counted)
        intro index next image known present
        obtain ⟨later, place, alike⟩ := held (index + 1) next image known present
        refine ⟨later, ?_, alike⟩
        rw [List.take_succ_cons, List.countP_cons] at place
        by_cases shared : next.isFloating = type.isFloating
        · rw [shared] at place ⊢
          rw [left, List.getElem?_tail]
          simpa using place
        · rw [others _ shared]
          simpa [Ne.symm shared] using place

end EntryRegisters

namespace X86

namespace Cpu

theorem getElem?_integers_entry (cpu : Cpu) {number : Nat} {register : Register}
    (named : Register.integerArguments[number]? = some register) :
    (cpu.entry.registersOf false)[number]? = some (cpu.general register) := by
  change (Register.integerArguments.map cpu.general)[number]? = _
  simp [named]

theorem getElem?_floats_entry (cpu : Cpu) {number : Nat} (below : number < 8) :
    (cpu.entry.registersOf true)[number]? = some (cpu.vector ⟨number, below⟩) := by
  change ((List.finRange 8).map cpu.vector)[number]? = _
  have inside : number < (List.finRange 8).length := by simpa using below
  rw [List.getElem?_map, List.getElem?_eq_getElem inside, List.getElem_finRange]
  rfl

theorem read_entry {cpu : Cpu} (model : DataModel) (types : List CType) (images : List UInt64)
    (counted : types.length = images.length)
    (held : ∀ (index : Nat) (class_ : ArgumentClass) (image : UInt64),
      (types.map ArgumentClass.ofCType)[index]? = some class_ → images[index]? = some image →
        cpu.Holds class_ (((types.map ArgumentClass.ofCType).take index).countP
          (·.isFloating == class_.isFloating)) image) :
    cpu.entry.read model types = types.zipWith (·.cut model ·) images := by
  apply EntryRegisters.read_of_registersOf model types images _ counted
  intro index type image known present
  have holds := held index (.ofCType type) image (by simp [known]) present
  have count : ((types.map ArgumentClass.ofCType).take index).countP
      (·.isFloating == (ArgumentClass.ofCType type).isFloating) =
        (types.take index).countP (·.isFloating == type.isFloating) := by
    rw [← List.map_take, List.countP_map, ArgumentClass.isFloating_ofCType]
    congr 1
    funext earlier
    simp [ArgumentClass.isFloating_ofCType]
  rw [count] at holds
  cases type with
  | float =>
      obtain ⟨below, value⟩ := holds
      exact ⟨_, cpu.getElem?_floats_entry below, congrArg UInt32.toUInt64 value⟩
  | double =>
      obtain ⟨below, value⟩ := holds
      exact ⟨_, cpu.getElem?_floats_entry below, value⟩
  | _ =>
      obtain ⟨register, named, rfl⟩ := holds
      exact ⟨_, cpu.getElem?_integers_entry named, rfl⟩

end Cpu

end X86

end ForeignCall
