import ForeignCall.Proofs.Call.Arrival

/-! Calls through stubs: the function is entered with what was put into the block, as far as the
arguments' types cover it, and the answer is what the function leaves, as far as its type does. -/

namespace ForeignCall

namespace X86

theorem Cpu.kept_leave (entry : Cpu) (returned : ReturnRegisters) :
    entry.Kept (entry.leave returned) := by
  refine ⟨rfl, rfl, ?_⟩
  intro index _
  rfl

theorem Cpu.resultImage_leave (entry : Cpu) (returned : ReturnRegisters) (result : CType)
    (model : DataModel) :
    (entry.leave returned).resultImage result model = result.cut model (returned.image result) := by
  rfl

theorem callBlock_of_callsOnce {code : List UInt8} {target : UInt64} {types : List CType}
    {result : CType} {model : DataModel} {images : List UInt64}
    (counted : types.length = images.length)
    (calls : Stub.CallsOnce code (.start images) target (types.map .ofCType) images result model) :
    ∃ entry : EntryRegisters,
      entry.read model types = types.zipWith (·.cut model ·) images ∧
        ∀ (m : Type → Type) [Monad m] [LawfulMonad m]
          (call : UInt64 → EntryRegisters → m ReturnRegisters),
          callBlock call code images =
            (fun returned => result.cut model (returned.image result)) <$> call target entry := by
  obtain ⟨entry, back, runs, _, held, finished⟩ := calls
  refine ⟨entry.entry, Cpu.read_entry model types images counted held, ?_⟩
  intro m _ _ call
  let function (address : UInt64) (entry : Cpu) : m { left : Cpu // entry.Kept left } :=
    (fun returned => ⟨entry.leave returned, entry.kept_leave returned⟩) <$>
      call address entry.entry
  have plain : (fun address cpu => Subtype.val <$> function address cpu) =
      fun address cpu => cpu.leave <$> call address cpu.entry := by
    funext address cpu
    simp [function]
  have executed := runs m function
  rw [plain] at executed
  rw [callBlock, executed]
  simp only [function, bind_pure_comp, Functor.map_map]
  congr 1
  funext returned
  obtain ⟨_, _, _, rax⟩ := finished ⟨entry.leave returned, entry.kept_leave returned⟩
  simp [rax, Cpu.resultImage_leave]

end X86

end ForeignCall
