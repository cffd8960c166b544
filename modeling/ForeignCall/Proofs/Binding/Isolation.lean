import ForeignCall.Proofs.Binding.Beginning
import ForeignCall.Proofs.Binding.Invoking
import ForeignCall.Proofs.Binding.Publishing

/-! Isolation: a library publishes under each name what binding that function alone would build,
whatever else it declares. -/

namespace ForeignCall

/-- What became of a function whose stub was to be attached with others: its entry point leads
through the stub, or it records the size of a block that could not be made executable. -/
inductive StubFate (function : PreparedFunction) (policy : PagePolicy) (pages : PageStore) :
    EntryPoint → Prop
  | attached {stub : InstalledStub} {block : Nat} (seals : policy.seals = true)
      (ready : (EntryPoint.stubbed function stub block).Ready pages.memory) :
      StubFate function policy pages (.stubbed function stub block)
  | unsealed {block wanted : Nat} (open_ : policy.seals = false)
      (noted : .allocated block wanted ∈ pages.history) :
      StubFate function policy pages
        ⟨function.signature.name, .error (.memoryExhausted (policy.bytesOf wanted))⟩

/-- Two entry points fail because neither's pages could be made executable, each with the size of
its own block. -/
structure EntryPoint.Unsealed (policy : PagePolicy) (name : String) (left right : EntryPoint)
    (leftPages rightPages : PageStore) : Prop where
  open_ : policy.seals = false
  left : ∃ block pages, .allocated block pages ∈ leftPages.history ∧
    left = ⟨name, .error (.memoryExhausted (policy.bytesOf pages))⟩
  right : ∃ block pages, .allocated block pages ∈ rightPages.history ∧
    right = ⟨name, .error (.memoryExhausted (policy.bytesOf pages))⟩

namespace StubFate

variable {function twin : PreparedFunction} {policy : PagePolicy} {pages after : PageStore}
  {entry alone : EntryPoint}

theorem later (fate : StubFate function policy pages entry)
    (history : pages.history <+: after.history)
    (memory : policy.seals = true → after.memory = pages.memory) :
    StubFate function policy after entry := by
  cases fate with
  | attached seals ready => exact .attached seals (memory seals ▸ ready)
  | unsealed open_ noted => exact .unsealed open_ (history.subset noted)

theorem alike (same : function.essence = twin.essence)
    (fate : StubFate function policy pages entry)
    (other : StubFate twin policy after alone) :
    entry.essence = alone.essence ∧
        (entry.Ready pages.memory ∧ alone.Ready after.memory) ∨
      entry.Unsealed policy function.signature.name alone pages after := by
  have signatures : function.signature.essence = twin.signature.essence :=
    (congrArg PreparedFunction.signature same :)
  have addresses : function.address = twin.address := (congrArg PreparedFunction.address same :)
  have names : function.signature.name = twin.signature.name :=
    (congrArg Signature.name signatures :)
  cases fate with
  | attached seals ready =>
      cases other with
      | attached _ otherReady =>
          refine .inl ⟨?_, ready, otherReady⟩
          simp only [EntryPoint.stubbed, EntryPoint.essence, Except.map, BoundFunction.essence,
            CallPath.essence, names, signatures, addresses]
      | unsealed open_ _ => cases seals.symm.trans open_
  | unsealed open_ noted =>
      cases other with
      | attached seals _ => cases seals.symm.trans open_
      | unsealed _ otherNoted =>
          exact .inr ⟨open_, ⟨_, _, noted, rfl⟩, ⟨_, _, otherNoted, by rw [names]⟩⟩

end StubFate

variable {stubbed : List (PreparedFunction × PendingStub)} {pages after : PageStore}
  {outcome : Except Fault (Nat × List InstalledStub)}

namespace World

theorem run_attachAlone {world : World} (binder : Binder) (function : PreparedFunction)
    {stub : PendingStub}
    (attached : (Stub.attach [stub]).run.run world.toPageStore = (outcome, after)) :
    let run := (attachAlone binder function stub).run.run world
    stubEntries [(function, stub)] outcome = [.ofOutcome function.signature.name run.1] ∧
      after.history <+: run.2.history ∧
        (outcome.toBool = true → run.2.memory = after.memory) := by
  intro run
  let alone : World := { world with toPageStore := after }
  have ran : (liftM (Stub.attach [stub]) : Act World (Nat × List InstalledStub)).run.run world =
      (outcome, alone) := by rw [run_onPages, attached]
  cases outcome with
  | error fault =>
      have failed : run = (.error fault, alone) := by
        dsimp only [run]
        rw [attachAlone, Act.run_bind, ran]
      rw [failed]
      exact ⟨rfl, List.prefix_rfl, fun done => by cases done⟩
  | ok granted =>
      obtain ⟨block, installed⟩ := granted
      obtain ⟨holding, counted⟩ := Stub.holding_of_run_attach attached
      obtain ⟨entry, rfl⟩ := List.length_eq_one_iff.1 counted
      let retained := ((buildStubbed function entry block).run alone).2
      have built : run = (.ok (.stubbed function entry block), { retained with
          toPageStore := ((PageStore.release block).run retained.toPageStore).2 }) := by
        dsimp only [run]
        rw [attachAlone, Act.run_bind, ran]
        rfl
      have shared : retained.toPageStore.Holding block 2 :=
        holding.set rfl (Nat.succ_le_succ holding.holders)
      rw [built]
      refine ⟨rfl, PageStore.history_release retained.toPageStore block, fun _ => ?_⟩
      exact congrArg (·.memory) (PageStore.run_release_of_shared _ shared.holders)

end World

namespace World

end World

namespace World

end World

end ForeignCall
