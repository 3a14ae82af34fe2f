namespace BuckRegulator.Bus

inductive Transaction (ε : Type) where
  | read (address register : UInt8) (answer : Except ε UInt8)
  | write (address register value : UInt8) (answer : Except ε Unit)

namespace Transaction

variable {ε : Type}

def address : Transaction ε → UInt8
  | .read address _ _ | .write address _ _ _ => address

def register : Transaction ε → UInt8
  | .read _ register _ | .write _ register _ _ => register

def isWrite : Transaction ε → Bool
  | .read .. => false
  | .write .. => true

def failure? : Transaction ε → Option ε
  | .read _ _ (.error e) | .write _ _ _ (.error e) => some e
  | .read _ _ (.ok _) | .write _ _ _ (.ok _) => none

def failed (t : Transaction ε) : Bool :=
  t.failure?.isSome

end Transaction

end BuckRegulator.Bus
