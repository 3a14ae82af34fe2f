import BuckRegulator.Trim.Detection

/-!
What a calibration is going to do, decided by the two detections alone, and
the writes it takes. Calibrating one site unlocks it, writes its status and
writes its trim bytes back. Calibrating a pair unlocks both sites, restores the
secondary, writes to the commit address, and restores the primary last. Every
status is written at the primary address, also the status of the secondary.
-/

namespace BuckRegulator.Trim

inductive Outcome where
  | noTargets
  | calibrated
  | alreadyCalibrated
  /-- The secondary is alone with a part of another kind at the primary site,
  where its status would have to be written. -/
  | unsupported
  /-- Some trim byte could not be saved, so nothing was written. -/
  | aborted
  deriving DecidableEq, Repr

inductive Plan where
  | rest (outcome : Outcome)
  | solo (site : Site)
  | pair
  deriving DecidableEq, Repr

/-- A pair is calibrated together unless both are done already. -/
def Plan.ofDetections (primary secondary : Detection) : Plan :=
  match Population.classify primary secondary with
  | .neither => .rest .noTargets
  | .primaryOnly =>
      if primary.isCalibrated then .rest .alreadyCalibrated else .solo .primary
  | .secondaryOnly =>
      if secondary.isCalibrated then .rest .alreadyCalibrated
      else if primary.isForeign then .rest .unsupported
      else .solo .secondary
  | .both =>
      if primary.isCalibrated && secondary.isCalibrated then .rest .alreadyCalibrated
      else .pair

structure Write where
  address : UInt8
  register : UInt8
  value : UInt8
  deriving DecidableEq, Repr

/-- Register contents that were saved, in the order in which they were read. -/
abbrev Snapshot := List (UInt8 × UInt8)

namespace Site

def unlock (site : Site) : Write :=
  ⟨site.address, unlockRegister, unlockKey⟩

def restore (site : Site) (saved : Snapshot) : List Write :=
  saved.map fun (register, value) => ⟨site.address, register, value⟩

end Site

/-- A status write; it always goes to the primary address. -/
def writeStatus (status : UInt8) : Write :=
  ⟨Site.primary.address, statusRegister, status⟩

def commit : Write :=
  ⟨commitAddress, statusRegister, commitStatus⟩

def soloWrites (site : Site) (saved : Snapshot) : List Write :=
  site.unlock :: writeStatus site.soloStatus :: site.restore saved

def pairWrites (primary secondary : Snapshot) : List Write :=
  [Site.primary.unlock, writeStatus Site.primary.pairStatus,
    Site.secondary.unlock, writeStatus Site.secondary.pairStatus] ++
  Site.secondary.restore secondary ++ commit :: Site.primary.restore primary

theorem length_soloWrites (site : Site) (saved : Snapshot) :
    (soloWrites site saved).length = saved.length + 2 := by
  simp [soloWrites, Site.restore]

theorem length_pairWrites (primary secondary : Snapshot) :
    (pairWrites primary secondary).length = primary.length + secondary.length + 5 := by
  simp only [pairWrites, Site.restore, List.length_append, List.length_cons,
    List.length_map, List.length_nil]
  omega

end BuckRegulator.Trim
