import LoadLadder.Codes
import LoadLadder.Document.Node
import LoadLadder.Domain
import LoadLadder.LoadUnit

/-!
# Values in documents

How the values of the loader are written to documents and read from them.  Levels and listener kinds
are variants; identifiers, result codes and flags are bare numbers; the others are records.
-/

namespace LoadLadder

open Documented

instance : Documented Level where
  toNode level := .text level.name
  ofNode? dialect node := (node.variant? dialect).bind Level.ofName?

instance : Documented ListenerKind where
  toNode kind := .text kind.name
  ofNode? dialect node := (node.variant? dialect).bind ListenerKind.ofName?

instance : Documented UnitId where
  toNode id := .integer id.number
  ofNode? _ node := (node.natural? 0xFFFFFFFFFFFFFFFF).map UnitId.mk

instance : Documented ResultCode where
  toNode code := .integer code.value.toInt
  ofNode?
    | _, .integer value =>
        if -0x80000000 ≤ value ∧ value < 0x80000000 then some ⟨Int32.ofInt value⟩ else none
    | _, _ => none

instance : Documented AttachFlags where
  toNode flags := .integer flags.bits.toNat
  ofNode? _ node := (node.natural? 0xFFFFFFFF).map fun bits => ⟨UInt32.ofNat bits⟩

instance : Documented Cause where
  toNode cause := .table [
    ("code", toNode cause.code),
    ("message", toNode cause.message),
    ("unit", toNode cause.unit),
    ("level", toNode cause.level)]
  ofNode? dialect node := do
    let [code, message, unit, level] ←
      node.fields? dialect .ignored ["code", "message", "unit", "level"] | none
    return {
      code := ← required dialect code
      message := ← required dialect message
      unit := ← required dialect unit
      level := ← required dialect level }

instance : Documented DebuggingConfig where
  toNode config := .table [
    ("track_jit_info", toNode config.trackJitInfo),
    ("ignore_symbols", toNode config.ignoreSymbols),
    ("allow_optimizations", toNode config.allowOptimizations)]
  ofNode? dialect node := do
    let [track, ignore, allow] ←
      node.fields? dialect .ignored ["track_jit_info", "ignore_symbols", "allow_optimizations"]
      | none
    return {
      trackJitInfo := ← required dialect track
      ignoreSymbols := ← required dialect ignore
      allowOptimizations := ← required dialect allow }

instance : Documented LoaderConfig where
  toNode config := .table [
    ("expand_modules_on_load", toNode config.expandModulesOnLoad),
    ("strict_activation_checks", toNode config.strictActivationChecks)]
  ofNode? dialect node := do
    let [expand, strict] ←
      node.fields? dialect .refused ["expand_modules_on_load", "strict_activation_checks"] | none
    let defaults : LoaderConfig := {}
    return {
      expandModulesOnLoad := ← optional dialect defaults.expandModulesOnLoad expand
      strictActivationChecks := ← optional dialect defaults.strictActivationChecks strict }

instance : Documented Snapshot where
  toNode snapshot := .table [
    ("id", toNode snapshot.id),
    ("name", toNode snapshot.name),
    ("level", toNode snapshot.level),
    ("error", toNode snapshot.error),
    ("notified", toNode snapshot.notified),
    ("activated", toNode snapshot.activated),
    ("is_system", toNode snapshot.isSystem)]
  ofNode? dialect node := do
    let [id, name, level, error, notified, activated, isSystem] ←
      node.fields? dialect .ignored
        ["id", "name", "level", "error", "notified", "activated", "is_system"]
      | none
    return {
      id := ← required dialect id
      name := ← required dialect name
      level := ← required dialect level
      error := ← optional dialect none error
      notified := ← required dialect notified
      activated := ← required dialect activated
      isSystem := ← required dialect isSystem }

end LoadLadder
