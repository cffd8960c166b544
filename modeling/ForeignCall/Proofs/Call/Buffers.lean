import ForeignCall.Invocation
import ForeignCall.Proofs.Bytes
import ForeignCall.Proofs.Text.Passing

/-! The buffers of what is passed by reference: what they hold when they are lent, and what is left
of them in their owner once they were copied back. -/

namespace ForeignCall

theorem wholeChunks_of_length {size : Nat} (some_byte : 0 < size) {bytes : List UInt8}
    {count : Nat} (counted : bytes.length = count * size) :
    (wholeChunks size bytes).length = count ∧ Whole size bytes := by
  induction count generalizing bytes with
  | zero =>
      obtain rfl : bytes = [] := List.length_eq_zero_iff.1 (by simpa using counted)
      rw [Whole, wholeChunks_of_short some_byte]
      exact ⟨rfl, rfl⟩
  | succ count ih =>
      rw [Nat.succ_mul] at counted
      have first : (bytes.take size).length = size := by
        rw [List.length_take]
        omega
      have remaining : (bytes.drop size).length = count * size := by
        rw [List.length_drop]
        omega
      obtain ⟨others, whole⟩ := ih remaining
      have split := wholeChunks_append some_byte first (bytes.drop size)
      rw [List.take_append_drop] at split
      rw [Whole] at whole
      rw [Whole, split, List.length_cons, others, List.flatten_cons, whole,
        List.take_append_drop]
      exact ⟨rfl, rfl⟩

theorem flatMap_littleEndian (words : List UInt64) {image : UInt64 → UInt64} {width : Nat}
    (same : ∀ word : UInt64, ∀ index < 8 * width,
      (image word).toBitVec.getLsbD index = word.toBitVec.getLsbD index) :
    (words.map image).flatMap (littleEndian width) = words.flatMap (littleEndian width) := by
  rw [List.flatMap_map]
  exact congrArg (words.flatMap ·) (funext fun word => littleEndian_congr (same word))

theorem getLsbD_narrowed {width : Nat} (small : width ≤ 8) (word : BitVec 64) {index : Nat}
    (below : index < 8 * width) :
    ((word.signExtend (8 * width)).signExtend 64).getLsbD index = word.getLsbD index := by
  have inside : index < 64 := by omega
  simp only [BitVec.getLsbD_signExtend, below, inside, decide_true, Bool.true_and, if_true]

namespace Elements

theorem toBytes_ofWords (kind : Element) (items : List UInt64) :
    (ofWords kind items).toBytes = items.flatMap (littleEndian kind.size) := by
  rw [toBytes, element_ofWords]
  cases kind with
  | byte =>
      simp only [ofWords, words, List.map_map]
      refine flatMap_littleEndian items fun word index below => ?_
      change (word.toInt64.toInt8.toInt64).toBitVec.getLsbD index = _
      rw [Int8.toBitVec_toInt64, Int64.toBitVec_toInt8]
      exact @getLsbD_narrowed 1 (by decide) word.toBitVec _ below
  | short =>
      simp only [ofWords, words, List.map_map]
      refine flatMap_littleEndian items fun word index below => ?_
      change (word.toInt64.toInt16.toInt64).toBitVec.getLsbD index = _
      rw [Int16.toBitVec_toInt64, Int64.toBitVec_toInt16]
      exact @getLsbD_narrowed 2 (by decide) word.toBitVec _ below
  | int =>
      simp only [ofWords, words, List.map_map]
      refine flatMap_littleEndian items fun word index below => ?_
      change (word.toInt64.toInt32.toInt64).toBitVec.getLsbD index = _
      rw [Int32.toBitVec_toInt64, Int64.toBitVec_toInt32]
      exact @getLsbD_narrowed 4 (by decide) word.toBitVec _ below
  | long =>
      simp only [ofWords, words, List.map_map]
      exact flatMap_littleEndian items fun word index below => rfl
  | float =>
      simp only [ofWords, words, List.map_map]
      refine flatMap_littleEndian items fun word index below => ?_
      have inside : index < 32 := below
      rw [Function.comp_apply, UInt32.toBitVec_toUInt64, UInt64.toBitVec_toUInt32,
        BitVec.getLsbD_setWidth, BitVec.getLsbD_setWidth]
      simp [inside, show index < 64 by omega]
  | double => rfl

theorem readFrom_of_length {elements : Elements} {source : List UInt8}
    (exact : source.length = elements.byteSize) :
    elements.readFrom source = ofWords elements.element
      ((wholeChunks elements.element.size source).map ofLittleEndian) := by
  have counted := (wholeChunks_of_length elements.element.size_pos exact).1
  rw [readFrom, List.take_of_length_le (by simp [counted]),
    List.drop_of_length_le (by simp [counted]), List.append_nil]

section ReadFrom

variable {elements : Elements} {source : List UInt8} (exact : source.length = elements.byteSize)
include exact

theorem element_readFrom : (elements.readFrom source).element = elements.element := by
  rw [readFrom_of_length exact, element_ofWords]

theorem length_readFrom : (elements.readFrom source).length = elements.length := by
  rw [readFrom_of_length exact, length_ofWords, List.length_map,
    (wholeChunks_of_length elements.element.size_pos exact).1]

theorem byteSize_readFrom : (elements.readFrom source).byteSize = elements.byteSize := by
  rw [byteSize, length_readFrom exact, element_readFrom exact, byteSize]

theorem toBytes_readFrom : (elements.readFrom source).toBytes = source := by
  have whole := (wholeChunks_of_length elements.element.size_pos exact).2
  have small : elements.element.size ≤ 8 := by cases elements.element <;> decide
  have chunks : (wholeChunks elements.element.size source).map
      (littleEndian elements.element.size ∘ ofLittleEndian) =
        (wholeChunks elements.element.size source).map id := by
    refine List.map_congr_left fun chunk known => ?_
    have sized := length_of_mem_wholeChunks known
    rw [Function.comp_apply, ← sized, littleEndian_ofLittleEndian (by omega), id]
  rw [readFrom_of_length exact, toBytes_ofWords, List.flatMap_def, List.map_map, chunks,
    List.map_id, whole]

theorem readFrom_readFrom {later : List UInt8} (same : later.length = elements.byteSize) :
    (elements.readFrom source).readFrom later = elements.readFrom later := by
  have kept : later.length = (elements.readFrom source).byteSize :=
    same.trans (byteSize_readFrom exact).symm
  rw [readFrom_of_length kept, readFrom_of_length same, element_readFrom exact]

end ReadFrom

end Elements

/-- The buffer of an array starts as its contents or as zeros, with a zero element behind where one
is asked for. -/
theorem marshalElements_eq (elements : Elements) (direction : Direction) :
    marshalElements elements direction =
      (if direction.copyIn then elements.toBytes else List.replicate elements.byteSize 0) ++
        List.replicate (if direction.terminated then elements.element.size else 0) 0 := by
  have room : (elements.length + if direction.terminated then 1 else 0) * elements.element.size =
      elements.byteSize + if direction.terminated then elements.element.size else 0 := by
    rw [Nat.add_mul, Elements.byteSize]
    split <;> simp
  rw [marshalElements, room]
  split
  next =>
    rw [Elements.writeOver_of_fits (by simp), List.drop_replicate, Nat.add_sub_cancel_left]
  next => rw [List.replicate_append_replicate]

/-- The buffer of a struct starts as its bytes or as zeros, and is filled up with zeros to the size
of its layout. -/
theorem marshalBytes_eq (layout : StructLayout) (bytes : List UInt8) (direction : Direction) :
    marshalBytes layout bytes direction =
      (if direction.copyIn then bytes else List.replicate bytes.length 0) ++
        List.replicate (layout.size - bytes.length) 0 := by
  have room : max layout.size bytes.length = bytes.length + (layout.size - bytes.length) := by omega
  rw [marshalBytes, room]
  split
  next => simp [overwrite]
  next => rw [List.replicate_append_replicate]

theorem length_marshalElements (elements : Elements) (direction : Direction) :
    elements.byteSize ≤ (marshalElements elements direction).length := by
  rw [marshalElements_eq, List.length_append]
  split <;> simp

theorem length_marshalBytes (layout : StructLayout) (bytes : List UInt8) (direction : Direction) :
    (marshalBytes layout bytes direction).length = max layout.size bytes.length := by
  have opened : (if direction.copyIn then bytes else List.replicate bytes.length 0).length =
      bytes.length := by
    split <;> simp
  rw [marshalBytes_eq, List.length_append, opened, List.length_replicate]
  omega

theorem unmarshalBytes_of_le {bytes buffer : List UInt8} {direction : Direction}
    (outward : direction.copyOut = true) (enough : bytes.length ≤ buffer.length) :
    unmarshalBytes bytes buffer direction = buffer.take bytes.length := by
  rw [unmarshalBytes, if_pos outward, Nat.min_eq_left enough, List.drop_length, List.append_nil]

theorem unmarshalElements?_of_le {elements : Elements} {buffer : List UInt8}
    {direction : Direction}
    (enough : direction.copyOut = true → elements.byteSize ≤ buffer.length) :
    unmarshalElements? elements buffer direction =
      some (if direction.copyOut then elements.readFrom (buffer.take elements.byteSize)
        else elements) := by
  rw [unmarshalElements?]
  cases outward : direction.copyOut with
  | false => rfl
  | true => simp [enough outward]

/-- Whether a buffer is copied back to an owner. -/
def Loan.ReturnsTo (loan : Loan) (owner : Owner) : Prop :=
  loan.owner = owner ∧ loan.direction.copyOut = true

instance (loan : Loan) (owner : Owner) : Decidable (loan.ReturnsTo owner) :=
  inferInstanceAs (Decidable (_ ∧ _))

def lastReturned? (loans : List Loan) (owner : Owner) : Option Loan :=
  (loans.filter fun loan => loan.ReturnsTo owner).getLast?

theorem lastReturned?_cons (loan : Loan) (rest : List Loan) (owner : Owner) :
    lastReturned? (loan :: rest) owner =
      (lastReturned? rest owner).or (if loan.ReturnsTo owner then some loan else none) := by
  rw [lastReturned?, lastReturned?, List.filter_cons]
  by_cases returned : loan.ReturnsTo owner
  · rw [if_pos (by simpa using returned), if_pos returned, List.getLast?_cons]
    cases (rest.filter fun loan => loan.ReturnsTo owner).getLast? <;> rfl
  · rw [if_neg (by simpa using returned), if_neg returned, Option.or_none]

theorem of_lastReturned? {loans : List Loan} {owner : Owner} {loan : Loan}
    (last : lastReturned? loans owner = some loan) : loan ∈ loans ∧ loan.ReturnsTo owner := by
  simpa using List.mem_filter.1 (List.mem_of_getLast? last)

namespace Heap

def fits (heap : Heap) (loan : Loan) : Bool :=
  match loan.owner with
  | .array reference =>
    !loan.direction.copyOut || (heap.array reference).byteSize ≤ loan.length
  | .struct _ => true

/-- The buffers that are copied back: all before the first that an array has outgrown. -/
def returned (heap : Heap) (loans : List Loan) : List Loan := loans.takeWhile heap.fits

def copyBackAll? (heap : Heap) (contents : Loan → List UInt8) (loans : List Loan) : Option Heap :=
  loans.foldlM (fun heap loan => heap.copyBack? loan.owner (contents loan) loan.direction) heap

variable {heap after : Heap} {reference : Nat} {loans : List Loan}

theorem of_fits_eq_false {loan : Loan} (outgrown : heap.fits loan = false) :
    ∃ reference, loan.ReturnsTo (.array reference) ∧
      loan.length < (heap.array reference).byteSize := by
  obtain ⟨address, length, owner, direction⟩ := loan
  cases owner with
  | array reference => exact ⟨reference, by simpa [fits, Loan.ReturnsTo] using outgrown⟩
  | struct reference => cases outgrown

theorem mem_of_mem_returned {loan : Loan} (known : loan ∈ heap.returned loans) :
    loan ∈ loans := (List.takeWhile_prefix _).subset known

theorem returned_eq_self (fit : ∀ loan ∈ loans, heap.fits loan = true) :
    heap.returned loans = loans := List.takeWhile_eq_self_iff.2 fit

section Single

variable {loan : Loan} {buffer : List UInt8}

theorem isSome_copyBack? (whole : buffer.length = loan.length) :
    (heap.copyBack? loan.owner buffer loan.direction).isSome = heap.fits loan := by
  obtain ⟨address, length, owner, direction⟩ := loan
  cases owner with
  | array reference =>
      simp only [copyBack?, Option.isSome_map, isSome_unmarshalElements?, fits, whole]
  | struct reference => rfl

variable (copied : heap.copyBack? loan.owner buffer loan.direction = some after)
include copied

theorem length_copyBack? :
    after.arrays.length = heap.arrays.length ∧ after.structs.length = heap.structs.length := by
  obtain ⟨address, length, owner, direction⟩ := loan
  cases owner with
  | array other =>
      obtain ⟨elements, -, rfl⟩ := Option.map_eq_some_iff.1 copied
      exact ⟨List.length_set, rfl⟩
  | struct other =>
      cases copied
      exact ⟨rfl, List.length_set⟩

theorem enough_of_copyBack? (returns : loan.ReturnsTo (.array reference)) :
    (heap.array reference).byteSize ≤ buffer.length := by
  obtain ⟨address, length, owner, direction⟩ := loan
  obtain ⟨rfl, outward⟩ := returns
  obtain ⟨elements, read, -⟩ := Option.map_eq_some_iff.1 copied
  have readable := isSome_unmarshalElements? (heap.array reference) buffer direction
  rw [read, show direction.copyOut = true from outward] at readable
  simpa using readable

theorem array_copyBack? (bound : reference < heap.arrays.length) :
    after.array reference =
      if loan.ReturnsTo (.array reference) then
        (heap.array reference).readFrom (buffer.take (heap.array reference).byteSize)
      else heap.array reference := by
  have enough := @enough_of_copyBack? heap after reference loan buffer copied
  obtain ⟨address, length, owner, direction⟩ := loan
  cases owner with
  | struct other =>
      cases copied
      exact (if_neg (by simp [Loan.ReturnsTo])).symm
  | array other =>
      obtain ⟨elements, read, rfl⟩ := Option.map_eq_some_iff.1 copied
      by_cases same : other = reference
      · subst same
        simp only [Loan.ReturnsTo, true_and] at enough ⊢
        rw [unmarshalElements?_of_le enough] at read
        rw [array_setArray _ _ _ _ bound, if_pos rfl, ← Option.some.inj read]
      · rw [if_neg (by simp [Loan.ReturnsTo, same])]
        simp [setArray, array, List.getElem?_set_ne same]

theorem byteSize_copyBack? (reference : Nat) :
    (after.array reference).byteSize = (heap.array reference).byteSize := by
  by_cases bound : reference < heap.arrays.length
  · rw [array_copyBack? copied bound]
    split
    next returns =>
      refine Elements.byteSize_readFrom ?_
      rw [List.length_take, Nat.min_eq_left (enough_of_copyBack? copied returns)]
    next => rfl
  · have beyond := Nat.not_lt.1 bound
    have counted := (length_copyBack? copied).1
    rw [array, array, List.getElem?_eq_none beyond, List.getElem?_eq_none (counted ▸ beyond)]

theorem fits_copyBack? : after.fits = heap.fits := by
  funext other
  rw [fits, fits]
  split
  next => rw [byteSize_copyBack? copied]
  next => rfl

theorem struct_copyBack? (bound : reference < heap.structs.length)
    (enough : loan.ReturnsTo (.struct reference) →
      (heap.struct reference).length ≤ buffer.length) :
    after.struct reference =
      if loan.ReturnsTo (.struct reference) then buffer.take (heap.struct reference).length
      else heap.struct reference := by
  obtain ⟨address, length, owner, direction⟩ := loan
  cases owner with
  | array other =>
      obtain ⟨elements, -, rfl⟩ := Option.map_eq_some_iff.1 copied
      exact (if_neg (by simp [Loan.ReturnsTo])).symm
  | struct other =>
      cases copied
      by_cases same : other = reference
      · subst same
        rw [struct_setStruct _ _ _ _ bound, if_pos rfl]
        simp only [Loan.ReturnsTo, true_and] at enough ⊢
        split
        next outward => exact unmarshalBytes_of_le outward (enough outward)
        next inward => rw [unmarshalBytes, if_neg inward]
      · rw [if_neg (by simp [Loan.ReturnsTo, same])]
        simp [setStruct, struct, List.getElem?_set_ne same]

end Single

section All

variable {contents : Loan → List UInt8} {loan : Loan}

theorem copyBackAll?_cons :
    heap.copyBackAll? contents (loan :: loans) =
      (heap.copyBack? loan.owner (contents loan) loan.direction).bind
        (·.copyBackAll? contents loans) := List.foldlM_cons

theorem copyBackAll?_congr {others : Loan → List UInt8}
    (same : ∀ loan ∈ loans, contents loan = others loan) :
    heap.copyBackAll? contents loans = heap.copyBackAll? others loans := by
  induction loans generalizing heap with
  | nil => rfl
  | cons loan rest ih =>
      obtain ⟨first, later⟩ := List.forall_mem_cons.1 same
      rw [copyBackAll?_cons, copyBackAll?_cons, first]
      exact congrArg _ (funext fun _ => ih later)

variable (copied : heap.copyBackAll? contents loans = some after)
include copied

theorem length_copyBackAll? :
    after.arrays.length = heap.arrays.length ∧ after.structs.length = heap.structs.length := by
  induction loans generalizing heap with
  | nil =>
      cases copied
      exact ⟨rfl, rfl⟩
  | cons loan rest ih =>
      rw [copyBackAll?_cons] at copied
      obtain ⟨next, first, others⟩ := Option.bind_eq_some_iff.1 copied
      obtain ⟨arrays, structs⟩ := length_copyBack? first
      obtain ⟨moreArrays, moreStructs⟩ := ih others
      exact ⟨moreArrays.trans arrays, moreStructs.trans structs⟩

theorem array_copyBackAll? (bound : reference < heap.arrays.length)
    (enough : ∀ loan ∈ loans, loan.ReturnsTo (.array reference) →
      (heap.array reference).byteSize ≤ (contents loan).length) :
    after.array reference =
      (lastReturned? loans (.array reference)).elim (heap.array reference) fun loan =>
        (heap.array reference).readFrom ((contents loan).take (heap.array reference).byteSize) := by
  induction loans generalizing heap with
  | nil =>
      cases copied
      rfl
  | cons loan rest ih =>
      rw [copyBackAll?_cons] at copied
      obtain ⟨next, first, others⟩ := Option.bind_eq_some_iff.1 copied
      obtain ⟨room, rooms⟩ := List.forall_mem_cons.1 enough
      have changed := array_copyBack? first bound
      have later := ih others ((length_copyBack? first).1 ▸ bound)
      rw [changed] at later
      rw [lastReturned?_cons]
      by_cases returned : loan.ReturnsTo (.array reference)
      · -- what this buffer brings is forgotten as soon as a later one is read
        have exact : ((contents loan).take (heap.array reference).byteSize).length =
            (heap.array reference).byteSize := by
          rw [List.length_take, Nat.min_eq_left (room returned)]
        simp only [if_pos returned, Elements.byteSize_readFrom exact] at later ⊢
        rw [later rooms]
        cases last : lastReturned? rest (.array reference) with
        | none => rfl
        | some final =>
            obtain ⟨known, outward⟩ := of_lastReturned? last
            refine Elements.readFrom_readFrom exact ?_
            rw [List.length_take, Nat.min_eq_left (rooms final known outward)]
      · simp only [if_neg returned, Option.or_none] at later ⊢
        exact later rooms

theorem struct_copyBackAll? (bound : reference < heap.structs.length)
    (enough : ∀ loan ∈ loans, loan.ReturnsTo (.struct reference) →
      (heap.struct reference).length ≤ (contents loan).length) :
    after.struct reference =
      (lastReturned? loans (.struct reference)).elim (heap.struct reference) fun loan =>
        (contents loan).take (heap.struct reference).length := by
  induction loans generalizing heap with
  | nil =>
      cases copied
      rfl
  | cons loan rest ih =>
      rw [copyBackAll?_cons] at copied
      obtain ⟨next, first, others⟩ := Option.bind_eq_some_iff.1 copied
      obtain ⟨room, rooms⟩ := List.forall_mem_cons.1 enough
      have changed := struct_copyBack? first bound room
      have later := ih others ((length_copyBack? first).2 ▸ bound)
      rw [changed] at later
      rw [lastReturned?_cons]
      by_cases returned : loan.ReturnsTo (.struct reference)
      · simp only [if_pos returned, List.length_take, Nat.min_eq_left (room returned)] at later ⊢
        rw [later rooms]
        cases lastReturned? rest (.struct reference) <;> rfl
      · simp only [if_neg returned, Option.or_none] at later ⊢
        exact later rooms

end All

end Heap

end ForeignCall
