import LoadLadder.Manifest.Basic
import LoadLadder.Proofs.JsonTexts

/-!
# Documents give values back

A value is written to a document and read from it without loss, and a record is read from
every spelling of its fields: a table with its keys in any order, or a list.  Whatever
text a value was read from, the text that the value is written to is therefore a normal
form of it, which is read as the same value and written the same again.
-/

namespace LoadLadder

namespace Node

variable {name : String} {node : Node} {entries : List (String × Node)}

/-- The ways to spell a record: as a table with its entries in any order, or as the list
of its values. -/
inductive Spells (entries : List (String × Node)) : Node → Prop
  | table {others : List (String × Node)} (same : others.Perm entries) :
      Spells entries (.table others)
  | list : Spells entries (.list (entries.map Prod.snd))

theorem filter_key_of_mem (distinct : (entries.map Prod.fst).Nodup)
    (member : (name, node) ∈ entries) :
    entries.filter (fun entry => entry.1 == name) = [(name, node)] := by
  induction entries with
  | nil => contradiction
  | cons first entries ih =>
      rw [List.map_cons, List.nodup_cons] at distinct
      rcases List.mem_cons.mp member with rfl | later
      · have none : entries.filter (fun entry => entry.1 == name) = [] := by
          apply List.filter_eq_nil_iff.mpr
          intro entry member same
          exact distinct.1 (List.mem_map.mpr ⟨entry, member, eq_of_beq same⟩)
        simp [none]
      · have other : first.1 ≠ name := by
          rintro rfl
          exact distinct.1 (List.mem_map.mpr ⟨_, later, rfl⟩)
        simp [other, ih distinct.2 later]

theorem field?_of_mem (distinct : (entries.map Prod.fst).Nodup)
    (member : (name, node) ∈ entries) : field? entries name = some (some node) := by
  rw [field?, filter_key_of_mem distinct member]

/-- The fields of a record do not depend on how it is spelled. -/
theorem fields?_of_spells (spells : node.Spells entries)
    (distinct : (entries.map Prod.fst).Nodup) (dialect : Dialect) (unknown : UnknownKeys) :
    node.fields? dialect unknown (entries.map Prod.fst) =
      some (entries.map fun entry => some entry.2) := by
  cases spells with
  | table same =>
      rename_i others
      have known : (others.any fun entry => !(entries.map Prod.fst).contains entry.1) = false := by
        simp only [List.any_eq_false, Bool.not_eq_true, Bool.not_eq_false',
          List.contains_iff_mem]
        intro entry member
        exact List.mem_map_of_mem (same.mem_iff.mp member)
      have distinctOthers : (others.map Prod.fst).Nodup :=
        (same.map Prod.fst).nodup_iff.mpr distinct
      rw [fields?, known, Bool.and_false, if_neg Bool.false_ne_true, List.mapM_map]
      apply mapM_eq_some
      intro entry member
      exact field?_of_mem distinctOthers (same.mem_iff.mpr member)
  | list => simp [fields?, Function.comp_def]

end Node

namespace Documented

variable {α : Type} [Documented α] {dialect : Dialect} {node : Node} {value : α}

/-- A value loses nothing when it is written, and is read again. -/
structure Restored (value : α) : Prop where
  whole : (toNode value).Whole
  back : ∀ dialect, ofNode? dialect (toNode value) = some value

@[simp]
theorem whole_of_restored (restored : Restored value) : (toNode value).Whole :=
  restored.whole

@[simp]
theorem required_of_restored (restored : Restored value) :
    required dialect (some (toNode value)) = some value :=
  restored.back dialect

@[simp]
theorem optional_of_restored {default : α} (restored : Restored value) :
    optional dialect default (some (toNode value)) = some value :=
  restored.back dialect

@[simp]
theorem restored_bool (value : Bool) : Restored value where
  whole := .boolean value
  back _ := rfl

@[simp]
theorem restored_string (value : String) : Restored value where
  whole := .text value
  back _ := rfl

theorem natural?_integer {bound number : Nat} (small : number ≤ bound) :
    (Node.integer number).natural? bound = some number :=
  if_pos small

theorem restored_byte (value : UInt8) : Restored value where
  whole := .integer _
  back dialect := by
    have small : value.toNat ≤ 255 := Nat.le_of_lt_succ value.toNat_lt
    change ((Node.integer value.toNat).natural? 255).map UInt8.ofNat = some value
    rw [natural?_integer small, Option.map_some, UInt8.ofNat_toNat]

@[simp]
theorem restored_list {values : List α} (each : ∀ value ∈ values, Restored value) :
    Restored values where
  whole := by
    apply Node.Whole.list
    intro item member
    obtain ⟨value, valueMember, rfl⟩ := List.mem_map.mp member
    exact (each value valueMember).whole
  back dialect := by
    change (values.map toNode).mapM (ofNode? dialect) = some values
    have read : ∀ value ∈ values, (ofNode? dialect ∘ toNode) value = some (id value) :=
      fun value member => (each value member).back dialect
    rw [List.mapM_map, mapM_eq_some id read, List.map_id]

theorem ofNode?_of_ne_null (present : node ≠ .null) :
    (ofNode? dialect node : Option (Option α)) = (ofNode? dialect node : Option α).map some := by
  cases node with
  | null => contradiction
  | _ => rfl

theorem restored_option {value? : Option α}
    (each : ∀ value ∈ value?, Restored value ∧ toNode value ≠ .null) : Restored value? := by
  cases value? with
  | none => exact ⟨.null, fun _ => rfl⟩
  | some value =>
      obtain ⟨restored, present⟩ := each value rfl
      refine ⟨restored.whole, fun dialect => ?_⟩
      change ofNode? dialect (toNode value) = some (some value)
      rw [ofNode?_of_ne_null present, restored.back, Option.map_some]

@[simp]
theorem restored_level (level : Level) : Restored level where
  whole := .text _
  back _ := by cases level <;> rfl

@[simp]
theorem restored_listenerKind (kind : ListenerKind) : Restored kind where
  whole := .text _
  back _ := by cases kind <;> rfl

theorem restored_unitId {id : UnitId} (small : id.number ≤ 0xFFFFFFFFFFFFFFFF) :
    Restored id where
  whole := .integer _
  back dialect := by
    change ((Node.integer id.number).natural? 0xFFFFFFFFFFFFFFFF).map UnitId.mk = some id
    rw [natural?_integer small, Option.map_some]

@[simp]
theorem restored_resultCode (code : ResultCode) : Restored code where
  whole := .integer _
  back dialect := by
    have lower := code.value.le_toInt
    have upper := code.value.toInt_lt
    change (if _ then some _ else none) = some code
    rw [if_pos (by omega), Int32.ofInt_toInt]

/-- The fields of a record are written as entries of a table, and every spelling of these
entries is read as the record. -/
structure Recorded (value : α) (entries : List (String × Node)) : Prop where
  written : toNode value = .table entries
  whole : ∀ entry ∈ entries, entry.2.Whole
  read : ∀ dialect node, node.Spells entries → ofNode? dialect node = some value

theorem Recorded.restored {entries : List (String × Node)}
    (recorded : Recorded value entries) : Restored value where
  whole := by
    rw [recorded.written]
    exact .table recorded.whole
  back dialect := by
    rw [recorded.written]
    exact recorded.read dialect _ (.table (.refl entries))

/-- A record is read from every spelling if it is read from the values of its fields. -/
theorem recorded_of_fields {entries : List (String × Node)}
    (written : toNode value = .table entries) (distinct : (entries.map Prod.fst).Nodup)
    (whole : ∀ entry ∈ entries, entry.2.Whole)
    (read : ∀ dialect node, (∀ unknown, node.fields? dialect unknown (entries.map Prod.fst) =
      some (entries.map fun entry => some entry.2)) → ofNode? dialect node = some value) :
    Recorded value entries where
  written := written
  whole := whole
  read dialect node spells := read dialect node (Node.fields?_of_spells spells distinct dialect)

theorem recorded_cause (cause : Cause) :
    Recorded cause [
      ("code", toNode cause.code),
      ("message", toNode cause.message),
      ("unit", toNode cause.unit),
      ("level", toNode cause.level)] := by
  apply recorded_of_fields rfl (by simp) (by simp)
  intro dialect node fields
  simp only [List.map] at fields
  unfold ofNode? instDocumentedCause
  simp [fields]

theorem recorded_debuggingConfig (config : DebuggingConfig) :
    Recorded config [
      ("track_jit_info", toNode config.trackJitInfo),
      ("ignore_symbols", toNode config.ignoreSymbols),
      ("allow_optimizations", toNode config.allowOptimizations)] := by
  apply recorded_of_fields rfl (by simp) (by simp)
  intro dialect node fields
  simp only [List.map] at fields
  unfold ofNode? instDocumentedDebuggingConfig
  simp [fields]

theorem recorded_loaderConfig (config : LoaderConfig) :
    Recorded config [
      ("expand_modules_on_load", toNode config.expandModulesOnLoad),
      ("strict_activation_checks", toNode config.strictActivationChecks)] := by
  apply recorded_of_fields rfl (by simp) (by simp)
  intro dialect node fields
  simp only [List.map] at fields
  unfold ofNode? instDocumentedLoaderConfig
  simp [fields]

theorem recorded_sinkConfig (sinks : SinkConfig) :
    Recorded sinks [
      ("profiler", toNode sinks.profiler),
      ("debugger", toNode sinks.debugger),
      ("inspection", toNode sinks.inspection)] := by
  apply recorded_of_fields rfl (by simp) (by simp)
  intro dialect node fields
  simp only [List.map] at fields
  unfold ofNode? instDocumentedSinkConfig
  simp [fields]

theorem recorded_snapshot {snapshot : Snapshot}
    (small : snapshot.id.number ≤ 0xFFFFFFFFFFFFFFFF) :
    Recorded snapshot [
      ("id", toNode snapshot.id),
      ("name", toNode snapshot.name),
      ("level", toNode snapshot.level),
      ("error", toNode snapshot.error),
      ("notified", toNode snapshot.notified),
      ("activated", toNode snapshot.activated),
      ("is_system", toNode snapshot.isSystem)] := by
  have id := restored_unitId small
  have error : Restored snapshot.error :=
    restored_option fun text _ => ⟨restored_string text, Node.noConfusion⟩
  apply recorded_of_fields rfl (by simp) (by simp [id, error])
  intro dialect node fields
  simp only [List.map] at fields
  unfold ofNode? instDocumentedSnapshot
  simp [fields, id, error]

theorem recorded_unitSpec (spec : UnitSpec) :
    Recorded spec [
      ("name", toNode spec.name),
      ("bootstrap", toNode spec.bootstrap),
      ("precompiled", toNode spec.precompiled),
      ("initializer", toNode spec.initializer),
      ("depends_on", toNode spec.dependsOn),
      ("fail_at", toNode spec.failAt),
      ("debuggable", toNode spec.debuggable),
      ("invalid", toNode spec.invalid)] := by
  have failAt : Restored spec.failAt :=
    restored_option fun level _ => ⟨restored_level level, Node.noConfusion⟩
  have debuggable : Restored spec.debuggable :=
    restored_option fun bytes _ =>
      ⟨restored_list fun byte _ => restored_byte byte, Node.noConfusion⟩
  apply recorded_of_fields rfl (by simp) (by simp [failAt, debuggable])
  intro dialect node fields
  simp only [List.map] at fields
  unfold ofNode? instDocumentedUnitSpec
  simp [fields, failAt, debuggable]

theorem recorded_manifest (manifest : Manifest) :
    Recorded manifest [
      ("loader", toNode manifest.loader),
      ("sinks", toNode manifest.sinks),
      ("unit", toNode manifest.units)] := by
  have loader := (recorded_loaderConfig manifest.loader).restored
  have sinks := (recorded_sinkConfig manifest.sinks).restored
  have units : Restored manifest.units :=
    restored_list fun spec _ => (recorded_unitSpec spec).restored
  apply recorded_of_fields rfl (by simp) (by simp [loader, sinks, units])
  intro dialect node fields
  simp only [List.map] at fields
  unfold ofNode? instDocumentedManifest
  simp [fields, loader, sinks, units]

theorem natural?_le {bound number : Nat} (has : node.natural? bound = some number) :
    number ≤ bound := by
  unfold Node.natural? at has
  split at has
  · split at has
    · cases has
      assumption
    · contradiction
  · contradiction

theorem unitId_le_of_read {id : UnitId} (read : ofNode? dialect node = some id) :
    id.number ≤ 0xFFFFFFFFFFFFFFFF := by
  obtain ⟨number, has, rfl⟩ := Option.map_eq_some_iff.mp read
  exact natural?_le has

theorem snapshot_id_le_of_read {snapshot : Snapshot}
    (read : ofNode? dialect node = some snapshot) :
    snapshot.id.number ≤ 0xFFFFFFFFFFFFFFFF := by
  unfold ofNode? instDocumentedSnapshot at read
  obtain ⟨fields, -, read⟩ := Option.bind_eq_some_iff.mp read
  split at read
  · simp only [Option.bind_eq_bind, Option.bind_eq_some_iff] at read
    obtain ⟨id, idRead, _, -, _, -, _, -, _, -, _, -, _, -, rest⟩ := read
    cases rest
    obtain ⟨node, -, read⟩ := Option.bind_eq_some_iff.mp idRead
    exact unitId_le_of_read read
  · contradiction

end Documented

namespace Json

open Documented

/-- A text written anew: what it is read as, written. -/
def normalize? (α : Type) [Documented α] (write : Node → String) (text : String) :
    Option String :=
  (decode? text : Option α).map fun value => write (toNode value)

/-- Values that fit are given back by documents, and documents have normal forms. -/
structure Survives (α : Type) [Documented α] (fits : α → Prop) : Prop where
  /-- A value is read from the text that it is written to. -/
  returned : ∀ value, fits value → ∀ write ∈ [compact, indented],
    decode? (write (toNode value)) = some value
  /-- It is read from every text that spells its fields, in any order or as a list. -/
  respelled : ∀ value, fits value → ∃ entries, toNode value = .table entries ∧
    ∀ text node, read? text = some node → node.Spells entries → decode? text = some value
  /-- Whatever is read from a text fits. -/
  fitting : ∀ text value, decode? text = some value → fits value
  /-- What a text is written anew as is read as the same value and stays as it is. -/
  normal : ∀ text, ∀ write ∈ [compact, indented], ∀ normal,
    normalize? α write text = some normal →
      (decode? normal : Option α) = decode? text ∧ normalize? α write normal = some normal

variable {α : Type} [Documented α] {fits : α → Prop} {value : α}

theorem decode?_of_restored (restored : Restored value) :
    ∀ write ∈ [compact, indented], decode? (write (toNode value)) = some value := by
  intro write member
  have read : read? (write (toNode value)) = some (toNode value) := by
    simp only [List.mem_cons, List.not_mem_nil, or_false] at member
    rcases member with rfl | rfl
    · exact read?_compact restored.whole
    · exact read?_indented restored.whole
  rw [decode?, read, Option.bind_some, restored.back]

theorem survives_of_recorded
    (recorded : ∀ value, fits value → ∃ entries, Recorded value entries)
    (fitting : ∀ node value, ofNode? .json node = some value → fits value) :
    Survives α fits := by
  have fittingText : ∀ text value, decode? text = some value → fits value := by
    intro text value decoded
    obtain ⟨node, -, read⟩ := Option.bind_eq_some_iff.mp decoded
    exact fitting node value read
  have returned : ∀ value, fits value → ∀ write ∈ [compact, indented],
      decode? (write (toNode value)) = some value := by
    intro value fit
    obtain ⟨entries, recorded⟩ := recorded value fit
    exact decode?_of_restored recorded.restored
  refine ⟨returned, ?_, fittingText, ?_⟩
  · intro value fit
    obtain ⟨entries, recorded⟩ := recorded value fit
    refine ⟨entries, recorded.written, ?_⟩
    intro text node read spells
    rw [decode?, read, Option.bind_some, recorded.read .json node spells]
  · intro text write member normal normalized
    obtain ⟨value, decoded, rfl⟩ := Option.map_eq_some_iff.mp normalized
    have again := returned value (fittingText text value decoded) write member
    exact ⟨again.trans decoded.symm, by rw [normalize?, again, Option.map_some]⟩

/-- Documents give back every value of the loader and of manifests, and every document of
such a value has a normal form.  Units are numbered in 64 bits, so that a snapshot is given
back if its unit's number fits in them. -/
theorem documents_return_values :
    Survives Cause (fun _ => True) ∧
    Survives DebuggingConfig (fun _ => True) ∧
    Survives LoaderConfig (fun _ => True) ∧
    Survives Snapshot (fun snapshot => snapshot.id.number ≤ 0xFFFFFFFFFFFFFFFF) ∧
    Survives UnitSpec (fun _ => True) ∧
    Survives Manifest (fun _ => True) := by
  refine ⟨?cause, ?debugging, ?loader, ?snapshot, ?spec, ?manifest⟩
  case cause =>
    exact survives_of_recorded (fun cause _ => ⟨_, recorded_cause cause⟩) fun _ _ _ => trivial
  case debugging =>
    exact survives_of_recorded (fun config _ => ⟨_, recorded_debuggingConfig config⟩)
      fun _ _ _ => trivial
  case loader =>
    exact survives_of_recorded (fun config _ => ⟨_, recorded_loaderConfig config⟩)
      fun _ _ _ => trivial
  case snapshot =>
    exact survives_of_recorded (fun _ small => ⟨_, recorded_snapshot small⟩)
      fun _ _ read => snapshot_id_le_of_read read
  case spec =>
    exact survives_of_recorded (fun spec _ => ⟨_, recorded_unitSpec spec⟩) fun _ _ _ => trivial
  case manifest =>
    exact survives_of_recorded (fun manifest _ => ⟨_, recorded_manifest manifest⟩)
      fun _ _ _ => trivial

/-- The unit with the largest number has a name that is written with escapes. -/
def lastSnapshot : Snapshot where
  id := ⟨0xFFFFFFFFFFFFFFFF⟩
  name := "\"\\\n\x01"
  level := .active
  error := none
  notified := [.tracing, .debugger]
  activated := true
  isSystem := false

/-- The largest number still fits, and a list has a normal form. -/
theorem documents_return_values_last :
    decode? (indented (toNode lastSnapshot)) = some lastSnapshot ∧
      ∃ normal, normalize? LoaderConfig compact "[true]" = some normal ∧
        normalize? LoaderConfig compact normal = some normal := by
  obtain ⟨-, -, loader, snapshot, -, -⟩ := documents_return_values
  have listed : (decode? "[true]" : Option LoaderConfig) =
      some { expandModulesOnLoad := true } := by
    decide +kernel
  have normalized : normalize? LoaderConfig compact "[true]" =
      some (compact (toNode ({ expandModulesOnLoad := true } : LoaderConfig))) := by
    rw [normalize?, listed, Option.map_some]
  exact ⟨snapshot.returned lastSnapshot (by decide) indented (by simp), _, normalized,
    (loader.normal _ compact (by simp) _ normalized).2⟩

/-- Lists for records, keys in another order, fields left out and a level as a table. -/
example : decode? "[[true], \x7b\x7d, [
      \x7b\"fail_at\": \x7b\"active\": null\x7d, \"name\": \"a\"\x7d, [\"b\", true]]]" =
    some { loader := { expandModulesOnLoad := true }, units := [
      { name := "a", failAt := some .active }, { name := "b", bootstrap := true }] : Manifest } := by
  decide +kernel

end Json

end LoadLadder
