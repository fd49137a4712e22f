import LoadLadder.Latch

/-!
# Latches under nesting

A notification claims its latch and then takes its action, which may ask the
latches of the same unit again, to any depth, before the notification returns.
Which actions are taken, and so which calls are made at all, depends on the
answers.  This file lists the calls that a client's steps come to, in the order
in which they are made, as the answers recount them: a notification asks for
its latch first, and the calls of its action follow if the latch was free.

Every answer depends on nothing but the kinds that were asked for before the
call.  Whoever is the first to ask for a kind claims it, nobody claims it
again, and a kind once claimed stays claimed.
-/

namespace LoadLadder

/-- A call on the latches of a unit, with its answer. -/
inductive LatchCall
  /-- A test or a notification asked for a latch, and it was free or not. -/
  | ask (kind : ListenerKind) (free : Bool)
  | look (kind : ListenerKind) (set : Bool)
  | list (kinds : List ListenerKind)
  deriving DecidableEq, Repr

namespace LatchCall

variable {history own : List ListenerKind} {kind : ListenerKind}
  {call : LatchCall} {calls before after : List LatchCall}

/-- The kind that a call tries to claim. -/
def asked? : LatchCall → Option ListenerKind
  | ask kind _ => some kind
  | look .. | list .. => none

def isAbout (kind : ListenerKind) : LatchCall → Bool
  | ask asked _ => asked = kind
  | look seen _ => seen = kind
  | list _ => false

/-- The kinds that calls try to claim, one after the other. -/
def askedIn (calls : List LatchCall) : List ListenerKind :=
  calls.filterMap asked?

@[simp]
theorem askedIn_nil : askedIn [] = [] :=
  rfl

theorem askedIn_cons (call : LatchCall) (calls : List LatchCall) :
    askedIn (call :: calls) = call.asked?.toList ++ askedIn calls := by
  cases call <;> rfl

@[simp]
theorem askedIn_append (first second : List LatchCall) :
    askedIn (first ++ second) = askedIn first ++ askedIn second :=
  List.filterMap_append

/-- The answer to a call is the one that the kinds asked for before it call
for. -/
def Follows (history : List ListenerKind) : LatchCall → Prop
  | ask kind free => free = true ↔ kind ∉ history
  | look kind set => set = true ↔ kind ∈ history
  | list kinds => kinds = ListenerKind.all.filter (· ∈ history)

/-- Each answer follows what was asked for before the call. -/
def Consistent (history : List ListenerKind) : List LatchCall → Prop
  | [] => True
  | call :: calls =>
      call.Follows history ∧ Consistent (history ++ call.asked?.toList) calls

theorem consistent_append (history : List ListenerKind)
    (first second : List LatchCall) :
    Consistent history (first ++ second) ↔
      Consistent history first ∧
        Consistent (history ++ askedIn first) second := by
  induction first generalizing history with
  | nil => simp [Consistent]
  | cons call calls ih =>
      simp only [List.cons_append, Consistent, ih, askedIn_cons,
        List.append_assoc, and_assoc]

theorem Consistent.follows
    (consistent : Consistent history (before ++ call :: after)) :
    call.Follows (history ++ askedIn before) :=
  ((consistent_append history before (call :: after)).mp consistent).2.1

/-- The answers about one kind follow the calls about that kind alone. -/
theorem Consistent.about (consistent : Consistent history calls)
    (same : kind ∈ own ↔ kind ∈ history) :
    Consistent own (calls.filter (isAbout kind)) := by
  induction calls generalizing history own with
  | nil => trivial
  | cons call calls ih =>
      obtain ⟨follows, rest⟩ := consistent
      by_cases concerned : call.isAbout kind = true
      · rw [List.filter_cons_of_pos concerned]
        refine ⟨?_, ih rest (by simp [same])⟩
        cases call with
        | ask asked free =>
            obtain rfl : asked = kind := by simpa [isAbout] using concerned
            simpa [Follows, same] using follows
        | look seen set =>
            obtain rfl : seen = kind := by simpa [isAbout] using concerned
            simpa [Follows, same] using follows
        | list kinds => simp [isAbout] at concerned
      · rw [List.filter_cons_of_neg concerned]
        refine ih rest ?_
        cases call with
        | ask asked free =>
            have apart : kind ≠ asked := by
              rintro rfl
              simp [isAbout] at concerned
            simp [asked?, same, apart]
        | look seen set => simpa [asked?] using same
        | list kinds => simpa [asked?] using same

/-- A kind is claimed by one call if it was free and is asked for, and by none
otherwise. -/
theorem Consistent.count_claims (consistent : Consistent history calls)
    (kind : ListenerKind) :
    calls.count (ask kind true) =
      if kind ∉ history ∧ kind ∈ askedIn calls then 1 else 0 := by
  induction calls generalizing history with
  | nil => simp
  | cons call calls ih =>
      obtain ⟨follows, rest⟩ := consistent
      cases call with
      | ask asked free =>
          rw [List.count_cons, ih rest, askedIn_cons]
          by_cases same : asked = kind
          · subst same
            simp only [Follows] at follows
            cases free <;> simp_all [asked?]
          · have apart : kind ≠ asked := Ne.symm same
            simp [asked?, same, apart]
      | look seen set =>
          have kept : Consistent history calls := by simpa [asked?] using rest
          simp [ih kept, askedIn_cons, asked?]
      | list kinds =>
          have kept : Consistent history calls := by simpa [asked?] using rest
          simp [ih kept, askedIn_cons, asked?]

/-- Latches are one-shot over the calls made on them, from the first one on. -/
structure OneShot (calls : List LatchCall) : Prop where
  /-- Who asks for a kind is granted it if nobody has asked before. -/
  asks : ∀ before kind free after, calls = before ++ ask kind free :: after →
    (free = true ↔ kind ∉ askedIn before)
  looks : ∀ before kind set after, calls = before ++ look kind set :: after →
    (set = true ↔ kind ∈ askedIn before)
  lists : ∀ before kinds after, calls = before ++ list kinds :: after →
    kinds = ListenerKind.all.filter (· ∈ askedIn before)
  /-- One of those who ask for a kind is granted it. -/
  claims : ∀ kind, calls.count (ask kind true) =
    if kind ∈ askedIn calls then 1 else 0
  /-- Nothing is cleared from one listing to a later one. -/
  keeps : ∀ before kinds between later after,
    calls = before ++ list kinds :: (between ++ list later :: after) →
      kinds ⊆ later

theorem OneShot.of_consistent (consistent : Consistent [] calls) :
    OneShot calls where
  asks before kind free after split := by
    subst split
    simpa [Follows] using consistent.follows
  looks before kind set after split := by
    subst split
    simpa [Follows] using consistent.follows
  lists before kinds after split := by
    subst split
    simpa [Follows] using consistent.follows
  claims kind := by simpa using consistent.count_claims kind
  keeps before kinds between later after split := by
    subst split
    have first := consistent.follows
    have second : (list later).Follows
        ([] ++ askedIn (before ++ list kinds :: between)) := by
      apply Consistent.follows
      rw [List.append_assoc]
      exact consistent
    simp only [Follows, List.nil_append] at first second
    subst first second
    intro kind member
    rw [List.mem_filter, decide_eq_true_eq] at member ⊢
    exact ⟨member.1, by simp [member.2]⟩

end LatchCall

namespace Latches

open LatchCall

variable {latches : Latches} {history : List ListenerKind} {kind : ListenerKind}

/-- The latches that are set are those that were asked for. -/
def Records (latches : Latches) (history : List ListenerKind) : Prop :=
  ∀ kind, latches.isSet kind = true ↔ kind ∈ history

theorem records_default : ({} : Latches).Records [] := by
  intro kind
  rw [isSet_default]
  simp

theorem Records.claim (records : latches.Records history)
    (kind : ListenerKind) : (latches.claim kind).Records (history ++ [kind]) := by
  intro other
  rw [isSet_claim, Bool.or_eq_true, decide_eq_true_eq, records other,
    List.mem_append, List.mem_singleton, eq_comm (a := kind)]

theorem Records.follows_ask (records : latches.Records history)
    (kind : ListenerKind) : (ask kind (!latches.isSet kind)).Follows history := by
  rw [Follows, ← records kind]
  simp

theorem Records.follows_look (records : latches.Records history)
    (kind : ListenerKind) : (look kind (latches.isSet kind)).Follows history :=
  records kind

theorem Records.follows_list (records : latches.Records history) :
    (list latches.claimed).Follows history := by
  refine List.filter_congr fun kind _ => ?_
  rw [Bool.eq_iff_iff, decide_eq_true_eq]
  exact records kind

/-- A latch is set if the bit of its kind is not masked out of the word. -/
theorem isSet_iff_masked (latches : Latches) (kind : ListenerKind) :
    latches.isSet kind = true ↔ latches.word &&& kind.bit ≠ 0 := by
  have single : BitVec.twoPow 8 kind.index ≠ 0 := by cases kind <;> decide
  rw [ListenerKind.bit, BitVec.and_twoPow, isSet]
  split
  · next set => simpa [set] using single
  · next clear => simp [clear]

end Latches

namespace LatchStep

open LatchCall

mutual

/-- The answer to a step recounts the calls that the step came to.  The kinds
that are claimed are listed after each step. -/
inductive Recounts : LatchStep → LatchAnswer → List LatchCall → Prop
  | testAndSet {kind free kinds} :
      Recounts (.testAndSet kind) (.flag free kinds) [ask kind free, list kinds]
  | isSet {kind set kinds} :
      Recounts (.isSet kind) (.flag set kinds) [look kind set, list kinds]
  | claimed {kinds} : Recounts .claimed (.nothing kinds) [list kinds]
  /-- The latch was not free, and the action was not taken. -/
  | refused {kind action kinds} :
      Recounts (.notifyOnce kind action) (.notified none kinds)
        [ask kind false, list kinds]
  /-- The latch was free, and the whole action was taken. -/
  | notified {kind action answers calls kinds}
      (taken : RecountsAll action answers calls) :
      Recounts (.notifyOnce kind action) (.notified (some answers) kinds)
        (ask kind true :: calls ++ [list kinds])

inductive RecountsAll :
    List LatchStep → List LatchAnswer → List LatchCall → Prop
  | nil : RecountsAll [] [] []
  | cons {step steps answer answers calls later}
      (first : Recounts step answer calls)
      (rest : RecountsAll steps answers later) :
      RecountsAll (step :: steps) (answer :: answers) (calls ++ later)

end

mutual

theorem Recounts.unique {step : LatchStep} {answer : LatchAnswer}
    {calls others : List LatchCall} (first : Recounts step answer calls)
    (second : Recounts step answer others) : others = calls := by
  cases first with
  | testAndSet => cases second; rfl
  | isSet => cases second; rfl
  | claimed => cases second; rfl
  | refused => cases second; rfl
  | notified taken =>
      cases second with
      | notified again => rw [taken.unique again]

theorem RecountsAll.unique {steps : List LatchStep}
    {answers : List LatchAnswer} {calls others : List LatchCall}
    (first : RecountsAll steps answers calls)
    (second : RecountsAll steps answers others) : others = calls := by
  cases first with
  | nil => cases second; rfl
  | cons step rest =>
      cases second with
      | cons again more => rw [step.unique again, rest.unique more]

end

theorem run_notifyOnce_of_told {latches : Latches} {kind : ListenerKind}
    (told : latches.isSet kind = true) (action : List LatchStep) :
    (notifyOnce kind action).run latches =
      (latches.claim kind, .notified none (latches.claim kind).claimed) := by
  simp [run, Latches.testAndSet, told]

/-- The action finds the latch of its own notification claimed. -/
theorem run_notifyOnce_of_free {latches : Latches} {kind : ListenerKind}
    (free : latches.isSet kind = false) (action : List LatchStep) :
    (notifyOnce kind action).run latches =
      ((runAll (latches.claim kind) action).1,
        .notified (some (runAll (latches.claim kind) action).2)
          (runAll (latches.claim kind) action).1.claimed) := by
  simp [run, Latches.testAndSet, free]

/-- Calls that agree with the history before them, and latches that record
both. -/
structure Accounts (history : List ListenerKind) (calls : List LatchCall)
    (after : Latches) : Prop where
  consistent : Consistent history calls
  records : after.Records (history ++ askedIn calls)

mutual

/-- The answer to a step recounts calls that follow the history. -/
theorem recounts_run {latches : Latches} {history : List ListenerKind}
    (records : latches.Records history) (step : LatchStep) :
    ∃ calls, step.Recounts (step.run latches).2 calls ∧
      Accounts history calls (step.run latches).1 := by
  match step with
  | .testAndSet kind =>
      have claimed := records.claim kind
      refine ⟨_, .testAndSet, ⟨records.follows_ask kind, ?_, trivial⟩, ?_⟩
      · exact claimed.follows_list
      · exact claimed
  | .isSet kind =>
      have same : latches.Records (history ++ []) := by simpa using records
      refine ⟨_, .isSet, ⟨records.follows_look kind, ?_, trivial⟩, ?_⟩
      · exact same.follows_list
      · exact same
  | .claimed =>
      have same : latches.Records (history ++ []) := by simpa using records
      exact ⟨_, .claimed, ⟨records.follows_list, trivial⟩, same⟩
  | .notifyOnce kind action =>
      have claimed := records.claim kind
      have asks := records.follows_ask kind
      by_cases told : latches.isSet kind = true
      · rw [told] at asks
        rw [run_notifyOnce_of_told told]
        exact ⟨_, .refused, ⟨asks, claimed.follows_list, trivial⟩, claimed⟩
      · rw [Bool.not_eq_true] at told
        rw [told] at asks
        obtain ⟨calls, taken, accounts⟩ := recounts_runAll claimed action
        rw [run_notifyOnce_of_free told]
        have done : history ++ askedIn (ask kind true :: calls) =
            history ++ [kind] ++ askedIn calls := by
          simp [askedIn_cons, asked?]
        refine ⟨_, .notified taken, ?_, ?_⟩
        · rw [consistent_append, done]
          exact ⟨⟨asks, accounts.consistent⟩,
            accounts.records.follows_list, trivial⟩
        · rw [askedIn_append, ← List.append_assoc, done, askedIn_cons]
          simpa [asked?] using accounts.records

theorem recounts_runAll {latches : Latches} {history : List ListenerKind}
    (records : latches.Records history) (steps : List LatchStep) :
    ∃ calls, RecountsAll steps (runAll latches steps).2 calls ∧
      Accounts history calls (runAll latches steps).1 := by
  match steps with
  | [] => exact ⟨[], .nil, trivial, by simpa [runAll] using records⟩
  | step :: steps =>
      obtain ⟨calls, recounts, accounts⟩ := recounts_run records step
      obtain ⟨later, rest, goes⟩ := recounts_runAll accounts.records steps
      refine ⟨calls ++ later, .cons recounts rest, ?_, ?_⟩
      · exact (consistent_append history calls later).mpr
          ⟨accounts.consistent, goes.consistent⟩
      · rw [askedIn_append, ← List.append_assoc]
        exact goes.records

end

/-- Latches are one-shot and independent, however deeply notifications are
nested.  The answers recount one list of calls.  On it the first to ask for a
kind is answered that the latch was free, and its action is taken if it has
one; everybody later, in that action or after it, is told that it was not.
Looking and listing show what was asked for before.  What is left of the calls
when those about the other kinds are left out is one-shot again, and in the end
the bits of the word are those of the kinds that were asked for. -/
theorem nested_latches_are_one_shot (steps : List LatchStep) :
    ∃ calls,
      (∀ others, RecountsAll steps (runAll {} steps).2 others ↔
        others = calls) ∧
      OneShot calls ∧
      (∀ kind, OneShot (calls.filter (isAbout kind))) ∧
      ∀ kind, (runAll {} steps).1.word &&& kind.bit ≠ 0 ↔
        kind ∈ askedIn calls := by
  obtain ⟨calls, recounts, accounts⟩ :=
    recounts_runAll Latches.records_default steps
  refine ⟨calls, ?_, ?_, ?_, ?_⟩
  · intro others
    constructor
    · intro again
      exact recounts.unique again
    · rintro rfl
      exact recounts
  · exact .of_consistent accounts.consistent
  · intro kind
    exact .of_consistent (accounts.consistent.about Iff.rfl)
  · intro kind
    rw [← Latches.isSet_iff_masked]
    exact accounts.records kind

/-- The action of a notification that notifies of the same kind again, and of
another kind: the first is refused, the second is not. -/
example :
    (runAll {} [notifyOnce .tracing [notifyOnce .tracing [],
        notifyOnce .profiler []], isSet .debugger]).2 =
      [.notified (some [.notified none [.tracing],
          .notified (some []) [.tracing, .profiler]]) [.tracing, .profiler],
        .flag false [.tracing, .profiler]] := by
  rfl

end LatchStep

end LoadLadder
