namespace BuckRegulator

inductive Vendor where
  | fairchild
  | silergy
  deriving DecidableEq, Repr

/-- Only Silergy boards may carry chips with the trim protocol. -/
def Vendor.needsTrim : Vendor → Bool
  | .fairchild => false
  | .silergy => true

end BuckRegulator
