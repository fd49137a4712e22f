import LoadLadder.Fault

/-!
# The debuggable attribute

An image may carry a short blob that says how its code is to be debugged.  Only blobs of six or
eight bytes are decoded; an absent blob, or one of any other length, changes nothing.  The first two
bytes are a fixed prolog, the third holds two flags, and the fourth asks for optimizations to be
turned off, which counts only while tracking is on.
-/

namespace LoadLadder

/-- How the code of a unit is to be debugged. -/
structure DebuggingConfig where
  trackJitInfo : Bool := false
  ignoreSymbols : Bool := false
  allowOptimizations : Bool := true
  deriving DecidableEq, Repr, Inhabited

namespace DebuggingConfig

/-- The lengths at which a blob is decoded. -/
def blobLengths : List Nat := [6, 8]

def showByte (byte : UInt8) : String :=
  String.ofList (Text.hexadecimal Text.upperDigit 2 byte.toNat)

def applyBlob (config : DebuggingConfig) : Option (List UInt8) → Except Fault DebuggingConfig
  | some (first :: second :: flags :: disable :: rest) =>
      let length := rest.length + 4
      if length ∉ blobLengths then .ok config
      else if first ≠ 1 ∨ second ≠ 0 then
        .error (.malformedAttribute length
          ("expected prolog 01 00, found " ++ showByte first ++ " " ++ showByte second))
      else
        let tracking := flags &&& 1 != 0
        .ok {
          trackJitInfo := tracking
          ignoreSymbols := flags &&& 2 != 0
          allowOptimizations := !tracking || disable == 0 }
  | _ => .ok config

/-- Decodes a blob on top of the default configuration. -/
def ofBlob (blob : Option (List UInt8)) : Except Fault DebuggingConfig :=
  applyBlob {} blob

end DebuggingConfig

end LoadLadder
