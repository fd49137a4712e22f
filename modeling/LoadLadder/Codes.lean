import LoadLadder.Text.Digits

/-!
# Codes

The numbers by which units, domains and results are known outside.  Units are numbered within their
domain and domains within the process, both from one upwards.  Load-finished notifications carry
32-bit status words, of which the negative ones are failures, and what a debugger's load
notification covers is said by the bits of another such word.
-/

namespace LoadLadder

/-- The number of a unit within its domain. -/
structure UnitId where
  number : Nat
  deriving DecidableEq, Repr, Inhabited

/-- The number of a domain. -/
structure DomainId where
  number : Nat
  deriving DecidableEq, Repr, Inhabited

def UnitId.display (id : UnitId) : String :=
  "unit#" ++ Text.showNat id.number

def DomainId.display (id : DomainId) : String :=
  "domain#" ++ Text.showNat id.number

/-- A status word. -/
structure ResultCode where
  /-- The word, read as a signed number. -/
  value : Int32
  deriving DecidableEq, Repr, Inhabited

namespace ResultCode

def ofBits (bits : UInt32) : ResultCode :=
  ⟨bits.toInt32⟩

def ok : ResultCode := ofBits 0

def fail : ResultCode := ofBits 0x80004005

def loadInProgress : ResultCode := ofBits 0x80131016

def badImageFormat : ResultCode := ofBits 0x8007000B

def contractViolation : ResultCode := ofBits 0x80131500

def isSuccess (code : ResultCode) : Bool :=
  0 ≤ code.value.toInt

/-- The bit pattern, as `0x` and eight upper-case digits. -/
def display (code : ResultCode) : String :=
  "0x" ++ String.ofList (Text.hexadecimal Text.upperDigit 8 code.value.toUInt32.toNat)

instance : ToString ResultCode := ⟨display⟩

end ResultCode

/-- A set of attach flags. -/
structure AttachFlags where
  /-- One bit for each flag. -/
  bits : UInt32
  deriving DecidableEq, Repr, Inhabited

namespace AttachFlags

def none : AttachFlags := ⟨0⟩

def assemblyLoad : AttachFlags := ⟨1⟩

def moduleLoad : AttachFlags := ⟨2⟩

def contains (flags wanted : AttachFlags) : Bool :=
  flags.bits &&& wanted.bits == wanted.bits

def union (left right : AttachFlags) : AttachFlags :=
  ⟨left.bits ||| right.bits⟩

end AttachFlags

end LoadLadder
