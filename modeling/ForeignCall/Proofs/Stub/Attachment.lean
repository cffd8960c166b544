import ForeignCall.Proofs.Pages
import ForeignCall.Proofs.Stub.Execution
import ForeignCall.Proofs.X86.Relocation
import ForeignCall.Stub.Attachment

/-! Stubs that were attached lie where their entries say, whole and apart. -/

namespace ForeignCall

namespace Stub

theorem le_aligned (position : Nat) :
    position ≤ aligned position ∧ aligned position ≤ position + 7 := by
  rw [aligned]
  omega

theorem reservedSize_cons (stub : PendingStub) (rest : List PendingStub) :
    reservedSize (stub :: rest) = stub.code.bytes.length + padding + reservedSize rest := by
  have shifted : ∀ (stubs : List PendingStub) (start : Nat),
      stubs.foldl (fun total stub => total + (stub.code.bytes.length + padding)) start =
        start + reservedSize stubs := by
    intro stubs
    induction stubs with
    | nil => exact fun _ => rfl
    | cons head rest ih =>
        intro start
        rw [reservedSize, List.foldl_cons, List.foldl_cons, ih, ih]
        omega
  rw [reservedSize, List.foldl_cons, shifted]
  omega

theorem bounds_of_mem_offsets {stubs : List PendingStub} {position : Nat}
    {pair : PendingStub × Nat} (listed : pair ∈ stubs.zip (offsets position stubs)) :
    position ≤ pair.2 ∧ 8 ∣ pair.2 ∧
      pair.2 + pair.1.code.bytes.length < position + reservedSize stubs := by
  induction stubs generalizing position with
  | nil => cases listed
  | cons stub rest ih =>
      have start := le_aligned position
      have reserved := reservedSize_cons stub rest
      rw [padding] at reserved
      rcases List.mem_cons.1 listed with rfl | later
      · refine ⟨start.1, ⟨(position + 7) / 8, Nat.mul_comm _ _⟩, ?_⟩
        dsimp only
        omega
      · obtain ⟨above, eights, below⟩ := ih later
        exact ⟨by omega, eights, by omega⟩

theorem pairwise_offsets (position : Nat) (stubs : List PendingStub) :
    (stubs.zip (offsets position stubs)).Pairwise fun first second =>
      first.2 + first.1.code.bytes.length ≤ second.2 := by
  induction stubs generalizing position with
  | nil => exact .nil
  | cons stub rest ih =>
      exact .cons (fun _ later => (bounds_of_mem_offsets later).1) (ih _)

structure Placed (base room : Nat) (stub : PendingStub) (entry : InstalledStub) : Prop where
  name : entry.name = stub.name
  signature : entry.signature = stub.signature
  size : entry.size = stub.code.bytes.length
  above : base ≤ entry.address
  aligned : 8 ∣ entry.address - base
  below : entry.address + entry.size < base + room

theorem zip_installed (base : Nat) (stubs : List PendingStub) :
    stubs.zip (installed base stubs) = (stubs.zip (offsets 0 stubs)).map fun pair =>
      (pair.1, ⟨pair.1.name, pair.1.signature, base + pair.2, pair.1.code.bytes.length⟩) := by
  rw [installed]
  generalize offsets 0 stubs = places
  induction stubs generalizing places with
  | nil => rfl
  | cons stub rest ih =>
      cases places with
      | nil => rfl
      | cons place places => exact congrArg _ (ih places)

theorem placed_of_mem_zip {base : Nat} {stubs : List PendingStub}
    {pair : PendingStub × InstalledStub} (listed : pair ∈ stubs.zip (installed base stubs)) :
    Placed base (reservedSize stubs) pair.1 pair.2 := by
  rw [zip_installed] at listed
  obtain ⟨⟨stub, offset⟩, there, rfl⟩ := List.mem_map.1 listed
  obtain ⟨-, eights, below⟩ := bounds_of_mem_offsets there
  refine ⟨rfl, rfl, rfl, Nat.le_add_right _ _, ?_, ?_⟩
  · rwa [Nat.add_sub_cancel_left]
  · dsimp only at below ⊢
    omega

/-- What attaching writes to memory, and where. -/
def copies (stubs : List PendingStub) (entries : List InstalledStub) : List (Nat × List UInt8) :=
  (stubs.zip entries).map fun pair => (pair.2.address, pair.1.code.relocated)

theorem copies_installed {stubs : List PendingStub}
    (whole : ∀ stub ∈ stubs, stub.code.relocated.length = stub.code.bytes.length) (base : Nat) :
    (∀ run ∈ copies stubs (installed base stubs), ∃ offset, run.1 = base + offset ∧
      offset + run.2.length < reservedSize stubs) ∧
    (copies stubs (installed base stubs)).Pairwise fun first second =>
      first.1 + first.2.length ≤ second.1 := by
  rw [copies, zip_installed, List.map_map]
  refine ⟨fun run known => ?_, List.pairwise_map.2 ?_⟩
  · obtain ⟨⟨stub, offset⟩, there, rfl⟩ := List.mem_map.1 known
    have below := (bounds_of_mem_offsets there).2.2
    refine ⟨offset, rfl, ?_⟩
    dsimp only [Function.comp_apply] at below ⊢
    rw [whole stub (List.of_mem_zip there).1]
    omega
  · refine (pairwise_offsets 0 stubs).imp_of_mem fun known _ ahead => ?_
    dsimp only [Function.comp_apply]
    rw [whole _ (List.of_mem_zip known).1]
    omega

def copyAll (stubs : List PendingStub) (entries : List InstalledStub) : Act PageStore PUnit :=
  ForIn.forIn (stubs.zip entries) PUnit.unit fun (stub, entry) _ => do
    Store.write entry.address stub.code.relocated
    return .yield ⟨⟩

def journalAll (stubs : List PendingStub) (entries : List InstalledStub) : Act PageStore PUnit :=
  ForIn.forIn (stubs.zip entries) PUnit.unit fun (stub, entry) _ => do
    Store.record (.stubInstalled entry.name entry.address entry.size)
    Store.record (.stubCode entry.name stub.code.bytes)
    Store.count fun counters => { counters with stubsInstalled := counters.stubsInstalled + 1 }
    return .yield ⟨⟩

def copied (stubs : List PendingStub) (entries : List InstalledStub) (pages : PageStore) :
    PageStore :=
  { pages with memory := pages.memory.writeAll (copies stubs entries) }

theorem run_copyAll (stubs : List PendingStub) (entries : List InstalledStub)
    (pages : PageStore) :
    (copyAll stubs entries).run.run pages = (.ok ⟨⟩, copied stubs entries pages) :=
  PageStore.run_forIn_write _ (fun _ _ => rfl) _ _

theorem exists_run_journalAll (stubs : List PendingStub) (entries : List InstalledStub)
    (pages : PageStore) : ∃ journal : Journal, (journalAll stubs entries).run.run pages =
      (.ok ⟨⟩, { pages with events := journal.events, counters := journal.counters }) :=
  PageStore.exists_run_forIn (fun _ _ => ⟨_, rfl⟩) _ _

inductive Attaches (stubs : List PendingStub) (pages : PageStore) :
    Except Fault (Nat × List InstalledStub) → PageStore → Prop
  | refused {fault : Fault} {after : PageStore}
      (asked : (PageStore.allocate (reservedSize stubs)).run.run pages = (.error fault, after)) :
      Attaches stubs pages (.error fault) after
  | unsealed {block : Nat} {granted after : PageStore} {fault : Fault}
      (asked : (PageStore.allocate (reservedSize stubs)).run.run pages = (.ok block, granted))
      (failed : (PageStore.makeExecutableOrRelease block).run.run
        (copied stubs (installed (granted.block block).base stubs) granted) =
          (.error fault, after)) :
      Attaches stubs pages (.error fault) after
  | done {block : Nat} {granted sealed after : PageStore}
      (asked : (PageStore.allocate (reservedSize stubs)).run.run pages = (.ok block, granted))
      (closed : (PageStore.makeExecutableOrRelease block).run.run
        (copied stubs (installed (granted.block block).base stubs) granted) = (.ok (), sealed))
      (noted : (journalAll stubs (installed (granted.block block).base stubs)).run.run sealed =
        (.ok ⟨⟩, after)) :
      Attaches stubs pages (.ok (block, installed (granted.block block).base stubs)) after

theorem attaches_of_run {stubs : List PendingStub} {pages after : PageStore}
    {outcome : Except Fault (Nat × List InstalledStub)}
    (ran : (attach stubs).run.run pages = (outcome, after)) :
    Attaches stubs pages outcome after := by
  rw [attach, Act.run_bind] at ran
  split at ran
  next block granted asked =>
    rw [Act.run_bind, Act.run_get] at ran
    dsimp only at ran
    have wrote := run_copyAll stubs (installed (granted.block block).base stubs) granted
    rw [copyAll] at wrote
    rw [Act.run_bind, wrote] at ran
    dsimp only at ran
    rw [Act.run_bind] at ran
    split at ran
    next done sealed closed =>
      obtain ⟨journal, noted⟩ :=
        exists_run_journalAll stubs (installed (granted.block block).base stubs) sealed
      rw [Act.run_bind] at ran
      rw [journalAll] at noted
      rw [noted] at ran
      cases ran
      exact .done asked closed noted
    next fault sealed failed =>
      cases ran
      exact .unsealed asked failed
  next fault granted refused =>
    cases ran
    exact .refused refused

theorem readable_of_mem_copies {stubs : List PendingStub} {pages granted : PageStore} {block : Nat}
    (whole : ∀ stub ∈ stubs, stub.code.relocated.length = stub.code.bytes.length)
    (asked : (PageStore.allocate (reservedSize stubs)).run.run pages = (.ok block, granted))
    (enough : reservedSize stubs ≤ granted.byteSize block) :
    ∀ run ∈ copies stubs (installed (granted.block block).base stubs),
      granted.memory.readable run.1 run.2.length = true := by
  rcases PageStore.of_run_allocate asked with ⟨refused, -⟩ | ⟨same, memory, -, base, size⟩
  · cases refused
  cases same
  rw [size] at enough
  intro run known
  obtain ⟨offset, address, below⟩ := (copies_installed whole _).1 run known
  rw [address, base, memory]
  exact Memory.readable_granted _ _ _ (by omega) (by omega)

end Stub

end ForeignCall
