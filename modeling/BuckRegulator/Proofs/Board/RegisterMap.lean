import BuckRegulator.Board.Basic
import BuckRegulator.Proofs.Bus.Request

/-!
Boards whose devices are plain register maps, under any rules for failing
transactions. What a run may change is read off its requests: a register keeps
its value if every write that names it carries the byte it holds, in
particular if no write names it. Failed writes need no case of their own, since
a failed write either changed nothing or was stored like any other.
-/

namespace BuckRegulator.Board

open Bus (Failure Procedure Request requests)

variable {α : Type}

def AllDevices (holds : Device → Prop) (b : Board) : Prop :=
  ∀ a device, b.devices a = some device → holds device

/-- No register plays readings of its own, so a read that succeeds returns what
is stored. -/
def IsRegisterMap (b : Board) : Prop :=
  b.AllDevices fun device => ∀ r, device.script r = []

theorem allDevices_bare {holds : Device → Prop} : bare.AllDevices holds := by
  intro a device fitted
  cases fitted

theorem allDevices_place {holds : Device → Prop} {b : Board} {address : UInt8}
    {device : Device} (hb : b.AllDevices holds) (hdevice : holds device) :
    (b.place address device).AllDevices holds := by
  intro a d fitted
  simp only [place, ByteMap.set] at fitted
  split at fitted
  · cases fitted
    exact hdevice
  · exact hb a d fitted

theorem allDevices_read {holds : Device → Prop}
    (hread : ∀ device r, holds device → holds (device.read r).2)
    (address register : UInt8) (b : Board) (hb : b.AllDevices holds) :
    (b.read address register).2.AllDevices holds := by
  dsimp only [read]
  split
  · exact hb
  · next device reached =>
      have hdevice : holds device := hb address device (devices_of_reach reached)
      exact allDevices_place hb (hread device register hdevice)

theorem allDevices_write {holds : Device → Prop}
    (hwrite : ∀ device r v, holds device → holds (device.write r v))
    (address register value : UInt8) (b : Board) (hb : b.AllDevices holds) :
    (b.write address register value).2.AllDevices holds := by
  dsimp only [write]
  split
  · dsimp only [modify]
    split
    · exact hb
    · next device fitted =>
        have hdevice : holds device := hb address device fitted
        exact allDevices_place hb (hwrite device register value hdevice)
  · exact hb

/-- A property that devices keep when read and written, they keep in a run. -/
theorem allDevices_run {holds : Device → Prop}
    (hread : ∀ device r, holds device → holds (device.read r).2)
    (hwrite : ∀ device r v, holds device → holds (device.write r v))
    (p : Procedure Failure α) (b : Board) (hb : b.AllDevices holds) :
    (p.run transport b).bus.AllDevices holds :=
  Procedure.run_keeps transport _ (allDevices_read hread) (allDevices_write hwrite) p b hb

theorem isRegisterMap_run (p : Procedure Failure α) {b : Board} (h : b.IsRegisterMap) :
    (p.run transport b).bus.IsRegisterMap := by
  refine allDevices_run ?_ ?_ p b h
  · intro device r plain
    rw [device.read_unscripted (plain r)]
    exact plain
  · intro device r v plain
    unfold Device.write
    split
    · exact plain
    · exact plain

theorem isRegisterMap_read {b : Board} (h : b.IsRegisterMap) (address register : UInt8) :
    (b.read address register).2.IsRegisterMap :=
  isRegisterMap_run (Bus.read address register) h

theorem isRegisterMap_attach {b : Board} (h : b.IsRegisterMap) {layout : Layout}
    (plain : layout.scripts = []) : (b.attach layout).IsRegisterMap := by
  apply allDevices_place h
  intro r
  simp only [Device.fit, plain, ByteMap.setAll, List.foldl_nil]
  cases fitted : b.devices layout.address with
  | none => rfl
  | some device => exact h _ _ fitted r

/-- Layouts without scripts describe register maps, with any rules. -/
theorem isRegisterMap_ofLayouts {layouts : List Layout}
    (plain : ∀ layout ∈ layouts, layout.scripts = []) (faults : List Fault) :
    (ofLayouts layouts faults).IsRegisterMap := by
  have hfold : (layouts.foldl (fun board layout => board.attach layout) bare).IsRegisterMap := by
    apply List.foldlRecOn layouts _ (motive := IsRegisterMap)
    · exact allDevices_bare
    · intro b h layout member
      exact isRegisterMap_attach h (plain layout member)
  exact hfold

/-- On a register map, a read that succeeds returns what is stored. -/
theorem value?_of_read {b : Board} (h : b.IsRegisterMap) {address register value : UInt8}
    (got : (b.read address register).1 = .ok value) :
    b.value? address register = some value := by
  dsimp only [read] at got
  split at got
  · cases got
  · next device reached =>
      have fitted : b.devices address = some device := devices_of_reach reached
      rw [device.read_unscripted (h address device fitted register)] at got
      cases got
      simp [value?, fitted]

/-- Whatever comes of a write, a register that it does not name keeps its
value, and so does one that holds the written byte already. -/
theorem value?_write_of_stored (b : Board) (address register value a r : UInt8)
    (h : a = address → r = register → ∀ old ∈ b.value? a r, value = old) :
    (b.write address register value).2.value? a r = b.value? a r := by
  rw [value?_write]
  cases fitted : b.devices a with
  | none => simp [value?, fitted]
  | some device =>
      simp only [value?, fitted, Option.map_some]
      split
      · next here =>
          have stored := h here.1.1 here.1.2 (device.value r) (by simp [value?, fitted])
          rw [stored]
      · rfl

/-- A write never tears: the register that it names is left as it was or holds
the whole new byte. -/
theorem value?_write_self {b : Board} {address register old : UInt8}
    (h : b.value? address register = some old) (value : UInt8) :
    (b.write address register value).2.value? address register = some old ∨
      (b.write address register value).2.value? address register = some value := by
  rw [value?_write]
  obtain ⟨device, fitted, rfl⟩ := Option.map_eq_some_iff.mp h
  simp only [fitted, Option.map_some]
  split
  · exact Or.inr rfl
  · exact Or.inl rfl

/-- A register keeps its value in a run if every write that names it carries
the byte it holds. -/
theorem value?_run (p : Procedure Failure α) (b : Board) (a r : UInt8)
    (h : ∀ value, .write a r value ∈ requests (p.run transport b).log →
      ∀ old ∈ b.value? a r, value = old) :
    (p.run transport b).bus.value? a r = b.value? a r := by
  induction p generalizing b with
  | done => rfl
  | read address register next ih =>
      have hread : (b.read address register).2.value? a r = b.value? a r :=
        value?_read b address register a r
      have hrest := ih (b.read address register).1 (b.read address register).2 (by
        intro value later
        rw [hread]
        exact h value (List.mem_cons_of_mem _ later))
      exact hrest.trans hread
  | write address register value next ih =>
      have hwrite : (b.write address register value).2.value? a r = b.value? a r := by
        apply value?_write_of_stored
        rintro rfl rfl
        exact h value List.mem_cons_self
      have hrest := ih (b.write address register value).1
        (b.write address register value).2 (by
          intro later member
          rw [hwrite]
          exact h later (List.mem_cons_of_mem _ member))
      exact hrest.trans hwrite

/-- Without writes a run changes nothing that is stored. -/
theorem value?_run_of_reads (p : Procedure Failure α) (b : Board)
    (h : ∀ entry ∈ (p.run transport b).log, entry.isWrite = false) (a r : UInt8) :
    (p.run transport b).bus.value? a r = b.value? a r := by
  apply value?_run
  intro value asked
  obtain ⟨answer, member⟩ := Bus.write_mem_requests.mp asked
  cases h _ member

end BuckRegulator.Board
