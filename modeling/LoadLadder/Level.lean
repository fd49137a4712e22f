import LoadLadder.Text.Layout

/-!
# Load levels

How far a unit has come: eight levels in a total order, their names, and reading a name.  A name is
read without regard to case, surrounding white space, or whether its words are joined by `-` or `_`.
-/

namespace LoadLadder

/-- The levels a unit climbs, lowest first. -/
inductive Level
  | created
  /-- Registered in its domain and bound to its host identity. -/
  | begun
  /-- The profiler has had its chance before types exist. -/
  | beforeTypeLoad
  | eagerFixups
  | deliverEvents
  | vtableFixups
  | loaded
  | active
  deriving DecidableEq, Repr, Inhabited

namespace Level

/-- The levels whose work a code container performs, and which can therefore be made to fail. -/
def failurePoints : List Level :=
  [eagerFixups, vtableFixups, active]

def all : List Level :=
  [created, begun, beforeTypeLoad, eagerFixups, deliverEvents, vtableFixups, loaded, active]

def rank : Level → Nat
  | created => 0
  | begun => 1
  | beforeTypeLoad => 2
  | eagerFixups => 3
  | deliverEvents => 4
  | vtableFixups => 5
  | loaded => 6
  | active => 7

def ofRank? : Nat → Option Level
  | 0 => some created
  | 1 => some begun
  | 2 => some beforeTypeLoad
  | 3 => some eagerFixups
  | 4 => some deliverEvents
  | 5 => some vtableFixups
  | 6 => some loaded
  | 7 => some active
  | _ => none

/-- Levels are ordered as they are climbed. -/
instance : LE Level := ⟨fun lower upper => lower.rank ≤ upper.rank⟩

instance : LT Level := ⟨fun lower upper => lower.rank < upper.rank⟩

instance (lower upper : Level) : Decidable (lower ≤ upper) :=
  inferInstanceAs (Decidable (lower.rank ≤ upper.rank))

instance (lower upper : Level) : Decidable (lower < upper) :=
  inferInstanceAs (Decidable (lower.rank < upper.rank))

instance : Max Level := ⟨fun left right => if left ≤ right then right else left⟩

theorem le_def {lower upper : Level} : lower ≤ upper ↔ lower.rank ≤ upper.rank :=
  Iff.rfl

theorem lt_def {lower upper : Level} : lower < upper ↔ lower.rank < upper.rank :=
  Iff.rfl

def next (level : Level) : Option Level :=
  ofRank? (level.rank + 1)

def previous : Level → Option Level
  | created => none
  | level => ofRank? (level.rank - 1)

/-- The level at which a request may rest when going further would wait for itself.  The lowest
level relaxes to itself. -/
def relaxed (level : Level) : Level :=
  level.previous.getD created

def isTerminal (level : Level) : Bool :=
  level == active

/-- The name of a level in manifests and on the command line. -/
def name : Level → String
  | created => "created"
  | begun => "begin"
  | beforeTypeLoad => "before-type-load"
  | eagerFixups => "eager-fixups"
  | deliverEvents => "deliver-events"
  | vtableFixups => "vtable-fixups"
  | loaded => "loaded"
  | active => "active"

instance : ToString Level := ⟨name⟩

def ofName? (text : String) : Option Level :=
  all.find? fun level => level.name == text

/-- Case and the joining sign do not distinguish names. -/
def foldNameChar (char : Char) : Char :=
  if char == '_' then '-' else char.toLower

def parse? (text : String) : Option Level :=
  ofName? (String.ofList ((Text.strip text.toList).map foldNameChar))

@[simp]
theorem ofRank?_rank (level : Level) : ofRank? level.rank = some level := by
  cases level <;> rfl

theorem rank_injective {left right : Level} (same : left.rank = right.rank) : left = right := by
  have := congrArg ofRank? same
  simpa using this

theorem rank_of_next {level above : Level} (step : level.next = some above) :
    above.rank = level.rank + 1 := by
  cases level <;> simp_all [next, ofRank?, rank] <;> subst step <;> rfl

theorem mem_all (level : Level) : level ∈ all := by
  cases level <;> decide

end Level

end LoadLadder
