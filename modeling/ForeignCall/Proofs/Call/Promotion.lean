import ForeignCall.Proofs.Call.Lending
import ForeignCall.Proofs.Call.Suitability

/-! What a trailing argument is promoted to: a parameter that could have been declared for it, and
that makes the same operand of it. -/

namespace ForeignCall

def ConverterBody.lentText (encoding : TextEncoding) : ConverterBody :=
  { textToNative encoding with annotations := .ofList [.copyIn] }

/-- The declaration of a parameter that takes a trailing value. The heap tells what an array has
for elements. -/
def Value.promotion? (encoding : TextEncoding) (heap : Heap) : Value → Option ValueDeclaration
  | .bool _ | .byte _ | .short _ | .char _ | .int _ => some { type := .int }
  | .long _ => some { type := .long }
  | .float _ | .double _ => some { type := .double }
  | .address _ | .null => some { type := .address }
  | .enum constant => some { type := .enum constant.enumeration }
  | .text _ => some { type := .text, converter := some ⟨.lentText encoding, 0⟩ }
  | .array reference => some { type := .array (heap.array reference).element }
  | .struct layout _ => some { type := .struct layout }
  | .void | .enumSet _ | .callback _ | .object _ => none

def Value.mayTrail : Value → Bool
  | .void | .enumSet _ | .callback _ | .object _ => false
  | _ => true

theorem Value.isSome_promotion? (encoding : TextEncoding) (heap : Heap) (value : Value) :
    (value.promotion? encoding heap).isSome = value.mayTrail := by
  cases value <;> rfl

structure Parameter.Passes (type : HostType) (found : Option ConverterBody) (native : CType)
    (kind : ParameterKind) (parameter : Parameter) : Prop where
  converter : parameter.converter.map (·.toConverterBody) = found
  carrier : parameter.carrier = (found.map (·.carrier)).getD type
  native : parameter.native = native
  kind : parameter.kind = kind

namespace Parameter.Passes

variable {parameter : Parameter} {type : HostType} {native : CType} {kind : ParameterKind}

theorem send_eq (passes : parameter.Passes type none native kind) (value : Value)
    (context : ConversionContext) (model : DataModel) :
    parameter.send value context model = liftM (value.toImage type native model) := by
  rw [Passage.send, Passage.convert, Option.map_eq_none_iff.1 passes.converter, passes.carrier,
    passes.native]
  rfl

theorem convert_none (passes : parameter.Passes type none native kind) (value : Value)
    (context : ConversionContext) : parameter.convert value context = pure value := by
  rw [Passage.convert, Option.map_eq_none_iff.1 passes.converter]

theorem convert_some {body : ConverterBody} (passes : parameter.Passes type (some body) native kind)
    (value : Value) (context : ConversionContext) :
    parameter.convert value context = body.convert value context := by
  obtain ⟨converter, present, same⟩ := Option.map_eq_some_iff.1 passes.converter
  rw [Passage.convert, present, ← same]

end Parameter.Passes

/-- An operand as the function finds it: an address only as far as a pointer reaches. -/
def Operand.arriving (model : DataModel) : Operand → Operand
  | .image .pointer address => .image .pointer (CType.pointer.cut model address)
  | operand => operand

namespace Value

theorem toImage_int (value : Int32) (model : DataModel) :
    (int value).toImage .int .int model = .ok value.toInt64.toUInt64 := by
  have held : narrow value.toInt64 .int = value.toInt64 := by
    rw [narrow, Int32.toInt32_toInt64]
  have kept : normalize value.toInt64 .int model = value.toInt64 := by
    have widths : CType.int.bits model = IntegerKind.int.bits := rfl
    have signs : CType.int.isSigned = IntegerKind.int.isSigned := rfl
    rw [normalize_eq_fromLow _ rfl, widths, signs, ← narrow_eq_fromLow _ (by decide), held]
  have sent := @toImage_valueOfInt64 .int .int .int model rfl rfl _ held
  rwa [HostType.valueOfInt64, Int32.toInt32_toInt64, kept] at sent

theorem toImage_long (value : Int64) (model : DataModel) :
    (long value).toImage .long .longLong model = .ok value.toUInt64 := by
  have sent := @toImage_valueOfInt64 .long .long .longLong model rfl rfl value rfl
  rwa [normalize_eq_self_of_wide _ _ _ rfl] at sent

end Value

namespace World

section Resolving

variable {defaults : SignatureDefaults} {declaration : ValueDeclaration} {now : World}

def Finds (defaults : SignatureDefaults) (declaration : ValueDeclaration)
    (body : Option ConverterBody) (now : World) : Prop :=
  ∃ found after, (liftM (defaults.converters.choose .toNative declaration.converter
      declaration.type ⟨declaration.annotations, defaults.encoding⟩) :
        Act World (Option Converter)).run.run now = (.ok found, after) ∧
    after.Standard defaults.converters ∧ found.map (·.toConverterBody) = body

theorem finds_explicit (converter : Converter) (owned : declaration.converter = some converter)
    (standard : now.Standard defaults.converters) :
    Finds defaults declaration (some converter.toConverterBody) now := by
  refine ⟨some converter, now, ?_, standard, rfl⟩
  rw [owned]
  rfl

theorem run_resolve_kind {Result : Type} {carrier : HostType} {annotations : Annotations}
    {native : CType} {kind : ParameterKind} (lowered : lower carrier annotations = .ok native)
    (passed : parameterKind carrier native annotations = pure kind)
    (build : CType → ParameterKind → Result) (standard : now.Standard defaults.converters) :
    ∃ after, (do
        let native := (← (LoweringTable.resolve carrier annotations : Act LoweringTable _)).type
        let kind ← parameterKind carrier native annotations
        return build native kind : Act World Result).run.run now =
          (.ok (build native kind), after) ∧ after.Standard defaults.converters := by
  obtain ⟨layout, after, resolves, rfl⟩ := run_resolve_of_lower lowered now
  refine ⟨after, ?_, (keeps_standard_resolve _ _).of_run _ resolves standard⟩
  rw [Act.run_bind, resolves]
  dsimp only
  rw [passed]
  rfl

theorem run_resolveParameter_of_finds (unmarked : declaration.annotations = .empty)
    {body : Option ConverterBody} {native : CType} {kind : ParameterKind}
    (finds : Finds defaults declaration body now)
    (lowered : lower ((body.map (·.carrier)).getD declaration.type)
      (body.elim .empty fun body => Annotations.empty.union body.annotations) = .ok native)
    (passed : parameterKind ((body.map (·.carrier)).getD declaration.type) native
      (body.elim .empty fun body => Annotations.empty.union body.annotations) = pure kind) :
    ∃ parameter after,
      (resolveParameter defaults declaration).run.run now = (.ok parameter, after) ∧
        after.Standard defaults.converters ∧
        parameter.Passes declaration.type body native kind := by
  obtain ⟨type, annotations, converter⟩ := declaration
  cases unmarked
  obtain ⟨found, chosen, chooses, standard, rfl⟩ := finds
  let build (native : CType) (kind : ParameterKind) : Parameter :=
    ⟨⟨(found.map (·.carrier)).getD type, native, found⟩, type,
      (found.map (·.toConverterBody)).elim .empty fun body =>
        Annotations.empty.union body.annotations, ⟨.empty, defaults.encoding⟩, kind⟩
  obtain ⟨after, ran, kept⟩ := run_resolve_kind lowered passed build standard
  refine ⟨build native kind, after, ?_, kept, rfl, by rw [Option.map_map]; rfl, rfl, rfl⟩
  rw [resolveParameter, Act.run_bind]
  dsimp only
  rw [chooses, ← ran]
  cases found <;> rfl

end Resolving

end World

def Heap.SameElements (before after : Heap) : Prop :=
  ∀ reference, (after.array reference).element = (before.array reference).element

theorem Heap.SameElements.newBytes {before heap : Heap} (same : before.SameElements heap)
    (bytes : List UInt8) : before.SameElements (heap.newArray (.ofBytes bytes)).2 := by
  intro reference
  rw [← same reference]
  simp only [newArray, array]
  rcases Nat.lt_trichotomy reference heap.arrays.length with inside | rfl | beyond
  · rw [List.getElem?_append_left inside]
  · simp [Elements.ofBytes, Elements.element]
  · have outside : heap.arrays.length ≤ reference := by omega
    have last : (heap.arrays ++ [Elements.ofBytes bytes]).length ≤ reference := by
      rw [List.length_append]
      exact beyond
    rw [List.getElem?_eq_none last, List.getElem?_eq_none outside]

def Value.PassedBy (encoding : TextEncoding) (heap : Heap) (value : Value) (parameter : Parameter) :
    Prop :=
  match value with
  | .bool _ | .byte _ | .short _ | .char _ | .int _ => parameter.Passes .int none .int .integer
  | .long _ => parameter.Passes .long none .longLong .integer
  | .float _ | .double _ => parameter.Passes .double none .double .double
  | .address _ | .null => parameter.Passes .address none .pointer .integer
  | .enum constant =>
    parameter.Passes (.enum constant.enumeration) (some (.enumToNative constant.enumeration)) .int
      .integer
  | .text _ =>
    parameter.Passes .text (some (.lentText encoding)) .pointer (.array .byte ⟨true, false, false⟩)
  | .array reference =>
    let element := (heap.array reference).element
    parameter.Passes (.array element) none .pointer (.array element .both)
  | .struct layout _ => parameter.Passes (.struct layout) none .pointer (.struct .both)
  | .void | .enumSet _ | .callback _ | .object _ => False

theorem Value.exists_promotions (encoding : TextEncoding) (heap : Heap) {values : List Value}
    (fit : ∀ value ∈ values, value.mayTrail = true) :
    ∃ declarations, values.mapM (·.promotion? encoding heap) = some declarations := by
  induction values with
  | nil => exact ⟨[], rfl⟩
  | cons value values ih =>
      obtain ⟨first, others⟩ := List.forall_mem_cons.1 fit
      rw [← isSome_promotion? encoding heap, Option.isSome_iff_exists] at first
      obtain ⟨declaration, known⟩ := first
      obtain ⟨declarations, rest⟩ := ih others
      exact ⟨declaration :: declarations, by rw [List.mapM_cons, known, rest]; rfl⟩

theorem Value.PassedBy.native {encoding : TextEncoding} {heap : Heap} {value : Value}
    {parameter : Parameter} (passed : value.PassedBy encoding heap parameter) :
    parameter.native = value.trailingType := by
  cases value with
  | void | enumSet | callback | object => exact passed.elim
  | _ => exact Parameter.Passes.native passed

namespace World

variable {defaults : SignatureDefaults} {encoding : TextEncoding} {heap : Heap}

theorem exists_resolveParameter_promotion {value : Value} {declaration : ValueDeclaration}
    (promoted : value.promotion? encoding heap = some declaration) {now : World}
    (standard : now.Standard defaults.converters) :
    ∃ parameter after,
      (resolveParameter defaults declaration).run.run now = (.ok parameter, after) ∧
        after.Standard defaults.converters ∧ value.PassedBy encoding heap parameter := by
  have finds (type : HostType) (body : Option ConverterBody)
      (known : ∀ context, ConverterBody.builtin? .toNative type context = .ok body) :
      Finds defaults { type } body now := run_converter_of_known rfl standard known
  cases value with
  | void | enumSet | callback | object => cases promoted
  | text =>
      cases promoted
      exact run_resolveParameter_of_finds rfl
        (finds_explicit ⟨.lentText encoding, 0⟩ rfl standard) rfl rfl
  | _ =>
      cases promoted
      exact run_resolveParameter_of_finds rfl (finds _ _ fun _ => rfl) rfl rfl

theorem exists_resolveParameters_promotion {values : List Value}
    {declarations : List ValueDeclaration}
    (promoted : values.mapM (·.promotion? encoding heap) = some declarations) {now : World}
    (standard : now.Standard defaults.converters) :
    ∃ parameters after,
      (declarations.mapM (resolveParameter defaults)).run.run now = (.ok parameters, after) ∧
        List.Forall₂ (·.PassedBy encoding heap ·) values parameters := by
  induction values generalizing declarations now with
  | nil =>
      cases promoted
      exact ⟨[], now, rfl, .nil⟩
  | cons value values ih =>
      rw [List.mapM_cons] at promoted
      obtain ⟨first, known, promoted⟩ := Option.bind_eq_some_iff.1 promoted
      obtain ⟨others, rest, promoted⟩ := Option.bind_eq_some_iff.1 promoted
      cases promoted
      obtain ⟨parameter, between, ran, kept, passed⟩ :=
        exists_resolveParameter_promotion known standard
      obtain ⟨parameters, after, rans, all⟩ := ih rest kept
      refine ⟨parameter :: parameters, after, ?_, .cons passed all⟩
      rw [List.mapM_cons, Act.run_bind, ran]
      dsimp only
      rw [Act.run_bind, rans]
      rfl

theorem run_trailingOperand_text (signature : Signature) (text : String) (now : World) :
    (trailingOperand signature (.text text)).run.run now =
      match (Store.encodeText signature.encoding text).run.run now.toStore with
      | (.ok bytes, store) =>
        let (reference, heap) := store.heap.newArray (.ofBytes bytes)
        (.ok (.loan (.array reference) ⟨true, false, false⟩
          (marshalElements (.ofBytes bytes) ⟨true, false, false⟩)),
          { now with toStore := { store with heap } })
      | (.error fault, store) => (.error fault, { now with toStore := store }) := by
  rw [trailingOperand.eq_def, Act.run_bind, run_inStore]
  generalize (Store.encodeText signature.encoding text).run.run now.toStore = encoded
  obtain ⟨fault | bytes, store⟩ : Except Fault (List UInt8) × Store := encoded
  · rfl
  · rfl

theorem run_operand_array (signature : Signature) {parameter : Parameter} {element : Element}
    {direction : Direction} (kind : parameter.kind = .array element direction) {value : Value}
    {now : World} {reference : Nat} {store : Store}
    (converted : (parameter.convert value parameter.context).run.run now.toStore =
      (.ok (.array reference), store)) (fits : (store.heap.array reference).element = element) :
    (operand signature parameter value).run.run now =
      (.ok (.loan (.array reference) direction
        (marshalElements (store.heap.array reference) direction)),
        { now with toStore := store }) := by
  simp only [operand, kind]
  rw [Act.run_bind, run_inStore, converted]
  dsimp only
  rw [Act.run_bind, Act.run_get]
  dsimp only
  rw [if_pos fits]
  rfl

theorem run_operand_array_error {signature : Signature} {parameter : Parameter} {element : Element}
    {direction : Direction} (kind : parameter.kind = .array element direction) {value : Value}
    {now : World} {fault : Fault} {store : Store}
    (refused : (parameter.convert value parameter.context).run.run now.toStore =
      (.error fault, store)) :
    (operand signature parameter value).run.run now =
      (.error fault, { now with toStore := store }) := by
  simp only [operand, kind]
  rw [Act.run_bind, run_inStore, refused]

theorem arriving_enum (signature : Signature) {constant : EnumConstant} {parameter : Parameter}
    (passes : parameter.Passes (.enum constant.enumeration)
      (some (.enumToNative constant.enumeration)) .int .integer) (now : World) :
    (Operand.arriving signature.model <$> trailingOperand signature (.enum constant)).run.run now =
      (Operand.arriving signature.model <$>
        operand signature parameter (.enum constant)).run.run now := by
  simp only [operand, trailingOperand.eq_def, passes.kind, passes.native, Passage.send,
    passes.convert_some, passes.carrier]
  simp only [ConverterBody.enumToNative]
  cases constant.enumeration.intOf constant with
  | error fault => rfl
  | ok integer =>
      change (Except.ok (Operand.image .int integer.toInt64.toUInt64), now) =
        (Operand.arriving signature.model <$> (liftM
          ((Value.int integer).toImage .int .int signature.model) >>= fun image =>
            pure (.image .int image)) : Act World Operand).run.run now
      rw [Value.toImage_int]
      rfl

theorem arriving_text (signature : Signature) {parameter : Parameter}
    (passes : parameter.Passes .text (some (.lentText signature.encoding)) .pointer
      (.array .byte ⟨true, false, false⟩)) (text : String) (now : World) :
    (Operand.arriving signature.model <$> trailingOperand signature (.text text)).run.run now =
      (Operand.arriving signature.model <$>
        operand signature parameter (.text text)).run.run now := by
  have converts : (ConverterBody.lentText signature.encoding).convert (.text text)
      parameter.context = (Store.encodeText signature.encoding text >>= fun bytes =>
        liftM (Store.newArray (.ofBytes bytes))) := rfl
  rw [← bind_pure_comp, ← bind_pure_comp, Act.run_bind, Act.run_bind, run_trailingOperand_text]
  cases encoded : (Store.encodeText signature.encoding text).run.run now.toStore with
  | mk outcome store =>
  have converted := Act.run_bind (Store.encodeText signature.encoding text)
    (fun bytes => (liftM (Store.newArray (.ofBytes bytes)) : Act Store Value)) now.toStore
  rw [encoded, ← converts, ← passes.convert_some] at converted
  cases outcome with
  | error fault =>
      rw [run_operand_array_error passes.kind converted]
  | ok bytes =>
      let after : Store := { store with heap := (store.heap.newArray (.ofBytes bytes)).2 }
      have stored : after.heap.array store.heap.arrays.length = .ofBytes bytes :=
        Heap.array_newArray store.heap _
      have made : (parameter.convert (.text text) parameter.context).run.run now.toStore =
          (.ok (.array store.heap.arrays.length), after) := converted
      have passing := run_operand_array signature passes.kind made
        (congrArg Elements.element stored)
      rw [stored] at passing
      rw [passing]
      rfl

theorem run_trailingOperand (signature : Signature) {value : Value} {parameter : Parameter}
    (passed : value.PassedBy signature.encoding heap parameter) {now : World}
    (same : heap.SameElements now.heap) :
    (Operand.arriving signature.model <$> trailingOperand signature value).run.run now =
      (Operand.arriving signature.model <$> operand signature parameter value).run.run now := by
  cases value with
  | void | enumSet | callback | object => exact passed.elim
  | bool | byte | short | char | int =>
      have passes : parameter.Passes .int none .int .integer := passed
      simp only [operand, trailingOperand.eq_def, passes.kind, passes.native, passes.send_eq]
      rfl
  | long integer =>
      have passes : parameter.Passes .long none .longLong .integer := passed
      simp only [operand, trailingOperand.eq_def, passes.kind, passes.native, passes.send_eq,
        Value.toImage_long]
      rfl
  | float | double =>
      have passes : parameter.Passes .double none .double .double := passed
      simp only [operand, trailingOperand.eq_def, passes.kind, passes.native, passes.send_eq]
      rfl
  | address address =>
      have passes : parameter.Passes .address none .pointer .integer := passed
      simp only [operand, trailingOperand.eq_def, passes.kind, passes.native, passes.send_eq]
      exact congrArg (fun image => (Except.ok (Operand.image .pointer image), now))
        (CType.cut_cut .pointer signature.model address).symm
  | null =>
      have passes : parameter.Passes .address none .pointer .integer := passed
      simp only [operand, trailingOperand.eq_def, passes.kind, passes.native, passes.send_eq]
      exact congrArg (fun image => (Except.ok (Operand.image .pointer image), now))
        (CType.cut_cut .pointer signature.model 0).symm
  | enum constant => exact arriving_enum signature passed now
  | text text => exact arriving_text signature passed text now
  | array reference =>
      let element := (heap.array reference).element
      have passes : parameter.Passes (.array element) none .pointer (.array element .both) := passed
      have converted : (parameter.convert (.array reference) parameter.context).run.run
          now.toStore = (.ok (.array reference), now.toStore) := by
        rw [passes.convert_none]
        rfl
      rw [← bind_pure_comp, ← bind_pure_comp, Act.run_bind, Act.run_bind,
        run_operand_array signature passes.kind converted (same reference)]
      rfl
  | struct layout reference =>
      have passes : parameter.Passes (.struct layout) none .pointer (.struct .both) := passed
      simp only [operand, trailingOperand.eq_def, passes.kind, passes.convert_none]
      rfl

theorem keeps_trailingOperand (signature : Signature) (value : Value) :
    (trailingOperand signature value).Keeps fun world => heap.SameElements world.heap := by
  cases value with
  | bool | byte | short | char | int | float | double | enum =>
      exact .bind (.ofExcept fun _ _ => trivial) fun _ _ => .pure trivial
  | long | address | null => exact .pure trivial
  | text text =>
      have encodes : (Store.encodeText signature.encoding text).Keeps
          fun store => heap.SameElements store.heap :=
        Store.keeps_encodeText (fun _ _ => id) _ text
      refine (ensures_onStore encodes).bind fun bytes _ => ?_
      have makes : Act.Keeps (fun world : World => heap.SameElements world.heap)
          (liftM (Store.newArray (.ofBytes bytes)) : Act World Value) :=
        .ofState (fun world same => same.newBytes bytes) fun _ _ => trivial
      refine makes.bind fun made _ => ?_
      split
      next => exact .pure trivial
      next => exact .throw _
  | array | struct =>
      refine .bind (Act.Ensures.get.weaken fun _ _ => trivial) fun world _ => ?_
      split
      next => exact .pure trivial
      next => exact .throw _
  | void | enumSet | callback | object => exact .throw _

theorem run_trailingOperands (signature : Signature) {values : List Value}
    {parameters : List Parameter}
    (all : List.Forall₂ (·.PassedBy signature.encoding heap ·) values parameters) {now : World}
    (same : heap.SameElements now.heap) :
    (List.map (Operand.arriving signature.model) <$>
        values.mapM (trailingOperand signature)).run.run now =
      (List.map (Operand.arriving signature.model) <$>
        (parameters.zip values).mapM fun (parameter, value) =>
          operand signature parameter value).run.run now := by
  induction all generalizing now with
  | nil => rfl
  | @cons value parameter values parameters passed _ ih =>
      let view := Operand.arriving signature.model
      have split (action : Act World Operand) (rest : Act World (List Operand)) :
          List.map view <$> (action >>= fun operand => rest >>= fun operands =>
              pure (operand :: operands)) =
            (view <$> action) >>= fun operand => (List.map view <$> rest) >>= fun operands =>
              pure (operand :: operands) := by
        simp only [map_bind, bind_map_left, map_pure, List.map_cons]
      have keeps : (view <$> trailingOperand signature value).Keeps
          fun world => heap.SameElements world.heap := by
        rw [← bind_pure_comp]
        exact (keeps_trailingOperand signature value).bind fun _ _ => .pure trivial
      have first := run_trailingOperand signature passed same
      rw [List.zip_cons_cons, List.mapM_cons, List.mapM_cons, split, split]
      rw [Act.run_bind, Act.run_bind, ← first]
      cases ran : (view <$> trailingOperand signature value).run.run now with
      | mk outcome between =>
      have kept := keeps.of_run _ ran same
      cases outcome with
      | error fault => rfl
      | ok operand =>
          dsimp only
          rw [Act.run_bind, Act.run_bind, ih kept]

end World

end ForeignCall
