import LoadLadder.Proofs.HostTies

/-!
# Registries and the host's view

A unit is in the registry of its domain from when its climb begins until it is
unloaded, and as long as its domain lives, the host's view of its image names it for
just as long.  The registry lists units in the order in which they were made.  All this
is about clients with one thread: the unit is put into the registry and bound by two
acts, and no lock keeps a second thread from unloading it between them.
-/

namespace LoadLadder

namespace Domain

variable {id : UnitId} {unit : UnitKey} {registry : List (UnitId × UnitKey)}

/-- The entries have ascending numbers. -/
def Sorted (registry : List (UnitId × UnitKey)) : Prop :=
  registry.Pairwise fun entry later => entry.1.number < later.1.number

theorem sorted_insertByNumber (sorted : Sorted registry)
    (fresh : ∀ entry ∈ registry, entry.1 ≠ id) :
    Sorted (insertByNumber id unit registry) := by
  induction registry with
  | nil => exact List.pairwise_singleton _ _
  | cons entry registry ih =>
      obtain ⟨first, rest⟩ := List.pairwise_cons.mp sorted
      rw [insertByNumber]
      split
      · rename_i before
        refine List.pairwise_cons.mpr ⟨?_, sorted⟩
        intro later member
        rcases List.mem_cons.mp member with rfl | member
        · exact before
        · exact Nat.lt_trans before (first later member)
      · rename_i notBefore
        have apart : entry.1.number ≠ id.number := fun same =>
          fresh entry List.mem_cons_self (congrArg UnitId.mk same)
        refine List.pairwise_cons.mpr ⟨?_, ih rest fun later member =>
          fresh later (List.mem_cons_of_mem _ member)⟩
        intro later member
        rcases List.mem_cons.mp ((insertByNumber_perm id unit registry).mem_iff.mp
          member) with rfl | member
        · exact Nat.lt_of_le_of_ne (Nat.not_lt.mp notBefore) apart
        · exact first later member

theorem mem_of_lookup (found : registry.lookup id = some unit) :
    (id, unit) ∈ registry := by
  obtain ⟨before, after, split, -⟩ := List.lookup_eq_some_iff.mp found
  rw [split]
  simp

theorem fresh_of_lookup (unknown : registry.lookup id = none) :
    ∀ entry ∈ registry, entry.1 ≠ id := by
  rintro entry listed rfl
  simpa using List.lookup_eq_none_iff.mp unknown entry listed

end Domain

namespace World

variable {world next : World} {key other : UnitKey} {home : DomainKey}

/-- Registries have units of their own domains under their own numbers, in the order
of these numbers. -/
structure Catalogued (world : World) : Prop where
  own : ∀ home, ∀ entry ∈ (world.domain home).registry,
    entry.2 < world.unitCount ∧ (world.unit entry.2).home = home ∧
      entry.1 = (world.unit entry.2).id
  sorted : ∀ home, Domain.Sorted (world.domain home).registry

/-- Units that were made later have higher numbers. -/
def Ascending (world : World) : Prop :=
  ∀ key other, key < other → other < world.unitCount →
    (world.unit key).home = (world.unit other).home →
    (world.unit key).id.number < (world.unit other).id.number

theorem mem_units_iff (catalogued : world.Catalogued) :
    key ∈ (world.domain home).units ↔
      ((world.unit key).id, key) ∈ (world.domain home).registry := by
  constructor
  · intro member
    obtain ⟨⟨id, unit⟩, listed, rfl⟩ := List.mem_map.mp member
    have same := (catalogued.own home _ listed).2.2
    simp only at same ⊢
    rwa [← same]
  · exact fun listed => List.mem_map.mpr ⟨_, listed, rfl⟩

theorem isRegistered_iff (catalogued : world.Catalogued) :
    world.isRegistered key = true ↔
      ((world.unit key).id, key) ∈ (world.homeOf key).registry := by
  rw [isRegistered, List.contains_iff_mem]
  exact mem_units_iff catalogued

/-- The registry lists the registered units in the order in which they were made. -/
theorem units_eq (catalogued : world.Catalogued) (ascending : world.Ascending)
    (home : DomainKey) :
    (world.domain home).units = (List.range world.unitCount).filter fun key =>
      (world.unit key).home == home && world.isRegistered key := by
  have listed : (world.domain home).units.Pairwise (· < ·) := by
    refine List.pairwise_map.mpr ((catalogued.sorted home).imp_of_mem ?_)
    intro entry later here there before
    obtain ⟨known, home, id⟩ := catalogued.own _ _ here
    obtain ⟨-, home', id'⟩ := catalogued.own _ _ there
    rw [id, id'] at before
    rcases Nat.lt_trichotomy entry.2 later.2 with apart | same | apart
    · exact apart
    · rw [same] at before
      exact absurd before (Nat.lt_irrefl _)
    · exact absurd (ascending _ _ apart known (home'.trans home.symm))
        (Nat.lt_asymm before)
  have counted : ((List.range world.unitCount).filter fun key =>
      (world.unit key).home == home && world.isRegistered key).Pairwise (· < ·) :=
    List.pairwise_lt_range.filter _
  have same : ∀ key, key ∈ (world.domain home).units ↔
      key ∈ (List.range world.unitCount).filter fun key =>
        (world.unit key).home == home && world.isRegistered key := by
    intro key
    rw [List.mem_filter, List.mem_range, Bool.and_eq_true, beq_iff_eq,
      isRegistered_iff catalogued, mem_units_iff catalogued, homeOf]
    constructor
    · intro listed
      obtain ⟨known, here, -⟩ := catalogued.own _ _ listed
      exact ⟨known, here, by rwa [here]⟩
    · rintro ⟨-, here, listed⟩
      rwa [here] at listed
  refine List.Perm.eq_of_pairwise
    (fun key other _ _ before after => absurd before (Nat.lt_asymm after)) listed counted ?_
  exact (List.perm_ext_iff_of_nodup (listed.imp Nat.ne_of_lt)
    (counted.imp Nat.ne_of_lt)).mpr same

/-- The registry has under the number of a unit this unit, if any. -/
theorem registered?_eq (catalogued : world.Catalogued) (numbered : world.Numbered)
    (known : key < world.unitCount) :
    (world.homeOf key).registered? (world.unit key).id =
      if world.isRegistered key then some key else none := by
  have owner {unit : UnitKey} (listed : ((world.unit key).id, unit) ∈
      (world.homeOf key).registry) : unit = key := by
    obtain ⟨there, home, id⟩ := catalogued.own _ _ listed
    exact numbered.apart unit there key known (Prod.ext home id.symm)
  cases found : (world.homeOf key).registered? (world.unit key).id with
  | some unit =>
      have listed := Domain.mem_of_lookup found
      cases owner listed
      rw [if_pos ((isRegistered_iff catalogued).mpr listed)]
  | none =>
      rw [if_neg]
      intro registered
      have listed := (isRegistered_iff catalogued).mp registered
      exact Domain.fresh_of_lookup found _ listed rfl

theorem registry_ofSetups (setups : List Setup) (home : DomainKey) :
    ((ofSetups setups).domain home).registry = [] := by
  have kept (world : World) (empty : ∀ home, (world.domain home).registry = []) :
      ((setups.foldl (fun world setup => world.addDomain setup.domain)
        world).domain home).registry = [] := by
    induction setups generalizing world with
    | nil => exact empty home
    | cons setup setups ih =>
        refine ih _ fun other => ?_
        change ((world.domains.set world.domainCount setup.domain).get
          other).registry = []
        rw [Store.get_set]
        split
        · rfl
        · exact empty other
  exact kept {} fun other => by rw [domain, Store.get_empty]; rfl

theorem isRegistered_congr (home : (next.unit key).home = (world.unit key).home)
    (registry : (next.domain (world.unit key).home).registry =
      (world.homeOf key).registry) :
    next.isRegistered key = world.isRegistered key := by
  rw [isRegistered, isRegistered, homeOf, home, Domain.units, Domain.units, registry]

theorem Catalogued.grows (catalogued : world.Catalogued) (grows : world.Grows next)
    (sublist : ∀ home, (next.domain home).registry.Sublist
      (world.domain home).registry) : next.Catalogued where
  own := by
    intro home entry listed
    obtain ⟨known, here, id⟩ := catalogued.own home entry
      ((sublist home).subset listed)
    have unit := grows.unit entry.2 known
    exact ⟨Nat.lt_of_lt_of_le known grows.count, unit.home.trans here,
      id.trans unit.id.symm⟩
  sorted := fun home => (catalogued.sorted home).sublist (sublist home)

theorem domain_registerUnit (world : World) (key : UnitKey) (home : DomainKey) :
    (world.registerUnit key).domain home =
      if (world.unit key).home = home then
        (world.homeOf key).register (world.unit key).id key
      else world.domain home := by
  rw [registerUnit, domain_modifyDomain]
  rfl

/-- A unit that is registered is left alone, and any other gets its place. -/
theorem registry_enrolled (catalogued : world.Catalogued) (numbered : world.Numbered)
    (known : key < world.unitCount) :
    (world.isRegistered key = true ∧
      ((world.registerUnit key).domain (world.unit key).home).registry =
        (world.homeOf key).registry) ∨
    ((∀ entry ∈ (world.homeOf key).registry, entry.1 ≠ (world.unit key).id) ∧
      ((world.registerUnit key).domain (world.unit key).home).registry =
        Domain.insertByNumber (world.unit key).id key (world.homeOf key).registry) := by
  have found := registered?_eq catalogued numbered known
  rw [domain_registerUnit, if_pos rfl, Domain.register]
  rw [Domain.registered?] at found
  split
  · rename_i registered
    rw [found] at registered
    exact Or.inl ⟨by simpa using registered, rfl⟩
  · rename_i unregistered
    rw [Option.not_isSome_iff_eq_none] at unregistered
    exact Or.inr ⟨Domain.fresh_of_lookup unregistered, rfl⟩

theorem catalogued_registerUnit (catalogued : world.Catalogued)
    (numbered : world.Numbered) (known : key < world.unitCount) :
    (world.registerUnit key).Catalogued := by
  have registry (home : DomainKey) :
      ((world.registerUnit key).domain home).registry = (world.domain home).registry ∨
      ((world.unit key).home = home ∧
        (∀ entry ∈ (world.domain home).registry, entry.1 ≠ (world.unit key).id) ∧
        ((world.registerUnit key).domain home).registry =
          Domain.insertByNumber (world.unit key).id key
            (world.domain home).registry) := by
    by_cases here : (world.unit key).home = home
    · subst here
      exact (registry_enrolled catalogued numbered known).imp And.right
        fun ⟨fresh, inserted⟩ => ⟨rfl, fresh, inserted⟩
    · rw [domain_registerUnit, if_neg here]
      exact Or.inl rfl
  constructor
  · intro home entry listed
    rcases registry home with same | ⟨rfl, -, inserted⟩
    · rw [same] at listed
      exact catalogued.own home entry listed
    · rw [inserted, (Domain.insertByNumber_perm _ _ _).mem_iff] at listed
      rcases List.mem_cons.mp listed with rfl | listed
      · exact ⟨known, rfl, rfl⟩
      · exact catalogued.own _ entry listed
  · intro home
    rcases registry home with same | ⟨rfl, fresh, inserted⟩
    · rw [same]
      exact catalogued.sorted home
    · rw [inserted]
      exact Domain.sorted_insertByNumber (catalogued.sorted _) fresh

theorem isRegistered_registerUnit (catalogued : world.Catalogued)
    (numbered : world.Numbered) (known : key < world.unitCount) (other : UnitKey) :
    (world.registerUnit key).isRegistered other = true ↔
      other = key ∨ world.isRegistered other = true := by
  rw [isRegistered_iff (catalogued_registerUnit catalogued numbered known),
    isRegistered_iff catalogued]
  change ((world.unit other).id, other) ∈
    ((world.registerUnit key).domain (world.unit other).home).registry ↔ _
  by_cases here : (world.unit key).home = (world.unit other).home
  · rw [homeOf, ← here]
    change _ ↔ _ ∨ _ ∈ (world.homeOf key).registry
    rcases registry_enrolled catalogued numbered known with
      ⟨registered, same⟩ | ⟨fresh, inserted⟩
    · rw [same]
      refine (or_iff_right_of_imp ?_).symm
      rintro rfl
      exact (isRegistered_iff catalogued).mp registered
    · rw [inserted, (Domain.insertByNumber_perm _ _ _).mem_iff, List.mem_cons]
      refine or_congr_left ⟨fun same => (Prod.mk.inj same).2, ?_⟩
      rintro rfl
      rfl
  · rw [domain_registerUnit, if_neg here]
    refine (or_iff_right_of_imp ?_).symm
    rintro rfl
    exact absurd rfl here

/-- A unit is unloaded by its domain if it is registered there, and otherwise left
alone. -/
theorem unloadUnit_cases (catalogued : world.Catalogued) (numbered : world.Numbered)
    (known : key < world.unitCount) (through : DomainKey) :
    ((world.unit key).home = through ∧ world.isRegistered key = true ∧
      world.unloadUnit through key =
        ((((world.modifyDomain through fun domain =>
          domain.unregister (world.unit key).id).notifyDebuggerUnload key).modifyUnit
            key LoadUnit.unbindHost), true)) ∨
    (¬ ((world.unit key).home = through ∧ world.isRegistered key = true) ∧
      world.unloadUnit through key = (world, false)) := by
  by_cases here : (world.unit key).home = through
  · subst here
    have found := registered?_eq catalogued numbered known
    rw [homeOf] at found
    cases registered : world.isRegistered key with
    | true =>
        simp only [registered, if_true] at found
        exact Or.inl ⟨rfl, rfl, by simp [unloadUnit, found]⟩
    | false =>
        simp only [registered] at found
        exact Or.inr ⟨by simp, by simp [unloadUnit, found]⟩
  · exact Or.inr ⟨fun both => here both.1, by simp [unloadUnit, here]⟩

theorem unloadUnit_of_kept (catalogued : world.Catalogued) (numbered : world.Numbered)
    (known : key < world.unitCount) {through : DomainKey}
    (kept : (world.unloadUnit through key).2 = false) :
    (world.unloadUnit through key).1 = world := by
  rcases unloadUnit_cases catalogued numbered known through with
    ⟨-, -, result⟩ | ⟨-, result⟩
  · rw [result] at kept
    contradiction
  · rw [result]

/-- What becomes of a world in which a registered unit is unloaded. -/
structure Unloads (world next : World) (key : UnitKey) : Prop where
  registered : world.isRegistered key = true
  domain : ∀ home, next.domain home =
    if (world.unit key).home = home then
      (world.homeOf key).unregister (world.unit key).id
    else world.domain home
  unit : ∀ other, next.unit other =
    if key = other then (world.unit key).unbindHost else world.unit other
  count : next.unitCount = world.unitCount
  events : next.events = world.events ++
    if (world.sinksOf key).isDebuggerAttached then
      [.debuggerModuleUnload (world.unit key).name,
        .debuggerUnitUnload (world.unit key).name]
    else []

theorem unloads_of_removed (catalogued : world.Catalogued) (numbered : world.Numbered)
    (known : key < world.unitCount) {through : DomainKey}
    (removed : (world.unloadUnit through key).2 = true) :
    world.Unloads (world.unloadUnit through key).1 key := by
  rcases unloadUnit_cases catalogued numbered known through with
    ⟨rfl, registered, result⟩ | ⟨-, result⟩
  · rw [result]
    refine ⟨registered, ?_, ?_, ?_, ?_⟩
    · intro home
      rw [domain_modifyUnit, domain_notifyDebuggerUnload, domain_modifyDomain]
      rfl
    · intro other
      rw [unit_modifyUnit, unit_notifyDebuggerUnload, unit_notifyDebuggerUnload]
      rfl
    · exact (alike_notifyDebuggerUnload _ key).count
    · have sinks : (world.modifyDomain (world.unit key).home fun domain =>
          domain.unregister (world.unit key).id).sinksOf key = world.sinksOf key := by
        rw [sinksOf, homeOf, unit_modifyDomain, domain_modifyDomain, if_pos rfl]
        rfl
      rw [events_modifyUnit, events_notifyDebuggerUnload, unloadNotices, sinks]
      split <;> rfl
  · rw [result] at removed
    contradiction

theorem isRegistered_of_unloads (catalogued : world.Catalogued)
    (numbered : world.Numbered) (known : key < world.unitCount)
    (unloads : world.Unloads next key) (later : next.Catalogued) (other : UnitKey) :
    next.isRegistered other = true ↔ other ≠ key ∧ world.isRegistered other = true := by
  have unit : (next.unit other).id = (world.unit other).id ∧
      (next.unit other).home = (world.unit other).home := by
    rw [unloads.unit]
    split
    · rename_i same
      rw [← same]
      have alike := (world.unit key).alike_unbindHost
      exact ⟨alike.id, alike.home⟩
    · exact ⟨rfl, rfl⟩
  rw [isRegistered_iff later, isRegistered_iff catalogued, homeOf, unit.1, unit.2,
    unloads.domain]
  by_cases here : (world.unit key).home = (world.unit other).home
  · rw [if_pos here, Domain.unregister, List.mem_filter, homeOf, here, ← homeOf,
      and_comm]
    refine and_congr_left fun listed => ?_
    have there := (catalogued.own _ _ listed).1
    simp only [bne_iff_ne]
    refine not_congr ⟨fun same => ?_, ?_⟩
    · exact numbered.apart other there key known (Prod.ext here.symm same)
    · rintro rfl
      rfl
  · rw [if_neg here]
    refine (and_iff_right_of_imp fun _ => ?_).symm
    rintro rfl
    exact here rfl

variable {thread after : Thread} {request : Option Request}
  {passed : List (UnitKey × Passage)}

theorem registry_createUnit (world : World) (made : DomainKey) (image : Image)
    (container : Container) (home : DomainKey) :
    ((world.createUnit made image container).1.domain home).registry =
        (world.domain home).registry ∧
      ((world.createUnit made image container).1.domain home).held =
        (world.domain home).held := by
  rw [domain_createUnit]
  split
  · rename_i here
    rw [← here]
    exact ⟨rfl, rfl⟩
  · exact ⟨rfl, rfl⟩

/-- An act makes a unit, or there are as many as before. -/
theorem count_files (files : world.Files next thread after request passed) :
    next.unitCount = world.unitCount ∨
      (∃ home image container, next = (world.createUnit home image container).1) ∧
        after = thread ∧ passed = [] := by
  cases files with
  | rests undisturbed => exact Or.inl undisturbed.count
  | registers known pinned done | binds known done | releases held done =>
      subst done
      exact Or.inl rfl
  | @unloads through key known asked done =>
      rw [done]
      exact Or.inl (alike_unloadUnit world key through).count
  | makes done before waits => exact Or.inr ⟨⟨_, _, _, done⟩, waits, rfl⟩

/-- No act gives a domain back to the client. -/
theorem held_files (files : world.Files next thread after request passed)
    (home : DomainKey) (held : (next.domain home).held = true) :
    (world.domain home).held = true := by
  cases files with
  | rests undisturbed => exact undisturbed.held home held
  | registers known pinned done =>
      rw [done, domain_registerUnit] at held
      split at held
      · rename_i here
        rw [← here]
        unfold Domain.register at held
        split at held <;> exact held
      · exact held
  | binds known done | releases released done =>
      subst done
      exact held
  | makes done =>
      rw [done, (registry_createUnit world _ _ _ home).2] at held
      exact held
  | @unloads through key known asked done =>
      rw [done] at held
      simp only [unloadUnit] at held
      split at held
      · exact held
      · split at held
        · exact held
        · rw [domain_modifyUnit, domain_notifyDebuggerUnload, domain_modifyDomain]
            at held
          split at held
          · rename_i here
            rw [← here]
            exact held
          · exact held

theorem catalogued_files (files : world.Files next thread after request passed)
    (grows : world.Grows next) (catalogued : world.Catalogued)
    (numbered : world.Numbered) : next.Catalogued := by
  have kept (same : ∀ home, (next.domain home).registry =
      (world.domain home).registry) : next.Catalogued :=
    catalogued.grows grows fun home => by rw [same]
  cases files with
  | rests undisturbed => exact kept undisturbed.registry
  | registers known pinned done =>
      rw [done]
      exact catalogued_registerUnit catalogued numbered known
  | binds known done | releases held done =>
      subst done
      exact kept fun _ => rfl
  | makes done =>
      subst done
      exact kept fun home => (registry_createUnit world _ _ _ home).1
  | @unloads through key known asked done =>
      refine catalogued.grows grows fun home => ?_
      cases removed : (world.unloadUnit through key).2 with
      | false => rw [done, unloadUnit_of_kept catalogued numbered known removed]
      | true =>
          have unloads := unloads_of_removed catalogued numbered known removed
          rw [done, unloads.domain]
          split
          · rename_i here
            rw [homeOf, here]
            exact List.filter_sublist
          · exact List.Sublist.refl _

/-- Units that were there keep their numbers. -/
theorem Ascending.of_grows (ascending : world.Ascending) (grows : world.Grows next)
    (before : key < other) (known : other < world.unitCount)
    (same : (next.unit key).home = (next.unit other).home) :
    (next.unit key).id.number < (next.unit other).id.number := by
  have unit := grows.unit key (Nat.lt_trans before known)
  have later := grows.unit other known
  rw [unit.home, later.home] at same
  rw [unit.id, later.id]
  exact ascending key other before known same

theorem ascending_files (files : world.Files next thread after request passed)
    (grows : world.Grows next) (ascending : world.Ascending)
    (numbered : world.Numbered) : next.Ascending := by
  rcases count_files files with count | ⟨⟨home, image, container, done⟩, -⟩
  · exact fun key other before known => ascending.of_grows grows before (count ▸ known)
  · intro key other before known same
    by_cases there : other < world.unitCount
    · exact ascending.of_grows grows before there same
    · subst done
      rw [unitCount_createUnit] at known
      have newest : world.unitCount = other := by omega
      have below := numbered.below key (by omega)
      have apart : ¬ world.unitCount = key := by omega
      rw [unit_createUnit, unit_createUnit, if_pos newest, if_neg apart] at same ⊢
      rw [same] at below
      exact below

theorem domain_destroyUnits (world : World) (pinned : List UnitKey)
    (home : DomainKey) :
    (world.destroyUnits pinned).domain home = world.domain home := by
  unfold destroyUnits
  induction List.range world.unitCount generalizing world with
  | nil => rfl
  | cons key keys ih =>
      rw [List.foldl_cons, ih]
      split <;> rfl

/-- A domain that lives keeps its registry, and any other is emptied. -/
theorem domain_closeDomains (world : World) (pinned : List UnitKey)
    (home : DomainKey) :
    (world.closeDomains pinned).domain home = world.domain home ∨
      (world.domain home).held = false ∧
        (world.closeDomains pinned).domain home =
          { world.domain home with registry := [] } := by
  unfold closeDomains
  induction List.range world.domainCount generalizing world with
  | nil => exact Or.inl rfl
  | cons other homes ih =>
      rw [List.foldl_cons]
      split
      · exact ih world
      · rename_i dead
        have later := ih (world.modifyDomain other fun domain =>
          { domain with registry := [] })
        rw [domain_modifyDomain] at later
        split at later
        · rename_i here
          subst here
          have unheld : (world.domain other).held = false :=
            Bool.eq_false_iff.mpr fun held => dead (by simp [domainLives, held])
          exact Or.inr ⟨unheld, later.elim id And.right⟩
        · exact later

theorem registry_collect (world : World) (pinned : List UnitKey)
    (home : DomainKey) :
    ((world.collect pinned).domain home).registry.Sublist
      (world.domain home).registry := by
  rw [collect, domain_destroyUnits]
  rcases domain_closeDomains world pinned home with same | ⟨-, emptied⟩
  · rw [same]
  · rw [emptied]
    exact List.nil_sublist _

theorem held_collect (world : World) (pinned : List UnitKey) (home : DomainKey) :
    ((world.collect pinned).domain home).held = (world.domain home).held := by
  rw [collect, domain_destroyUnits]
  rcases domain_closeDomains world pinned home with same | ⟨-, emptied⟩
  · rw [same]
  · rw [emptied]

theorem domain_collect_of_held (pinned : List UnitKey)
    (held : (world.domain home).held = true) :
    (world.collect pinned).domain home = world.domain home := by
  rw [collect, domain_destroyUnits]
  rcases domain_closeDomains world pinned home with same | ⟨unheld, -⟩
  · exact same
  · rw [held] at unheld
    contradiction

/-- A unit of a domain that the client still holds stays registered or not. -/
theorem isRegistered_collect {pinned : List UnitKey}
    (held : ((world.collect pinned).homeOf key).held = true) :
    (world.homeOf key).held = true ∧
      (world.collect pinned).isRegistered key = world.isRegistered key := by
  have home := ((alike_collect world pinned).still.unit key).home
  rw [homeOf, home, held_collect] at held
  exact ⟨held, isRegistered_congr home
    (congrArg Domain.registry (domain_collect_of_held pinned held))⟩

theorem unit_destroyUnits_of_referenced {pinned : List UnitKey}
    (referenced : world.isReferenced pinned key = true) :
    (world.destroyUnits pinned).unit key = world.unit key := by
  unfold destroyUnits
  induction List.range world.unitCount generalizing world with
  | nil => rfl
  | cons other keys ih =>
      rw [List.foldl_cons]
      split
      · rename_i freed
        have apart : other ≠ key := by
          rintro rfl
          simp [referenced] at freed
        have unit : (world.modifyUnit other fun unit =>
            { unit.unbindHost with presence := .destroyed }).unit key =
              world.unit key := by
          rw [unit_modifyUnit, if_neg apart]
        rw [ih, unit]
        rwa [isReferenced, isRegistered, homeOf, unit]
      · exact ih referenced

/-- A unit is freed only if nothing refers to it. -/
theorem unit_collect (world : World) (pinned : List UnitKey) (key : UnitKey) :
    (world.collect pinned).unit key = world.unit key ∨
      (world.closeDomains pinned).isReferenced pinned key = false ∧
        (world.collect pinned).unit key =
          { (world.unit key).unbindHost with presence := .destroyed } := by
  cases referenced : (world.closeDomains pinned).isReferenced pinned key with
  | true =>
      rw [collect, unit_destroyUnits_of_referenced referenced, unit_closeDomains]
      exact Or.inl rfl
  | false =>
      have survives := survives_collect world key pinned
      generalize (world.collect pinned).unit key = later at survives ⊢
      cases survives with
      | spared => exact Or.inl rfl
      | destroyed => exact Or.inr ⟨rfl, rfl⟩

/-- A unit of a living domain is freed only if it is neither registered nor pinned. -/
theorem unreferenced_of_freed {pinned : List UnitKey}
    (held : (world.homeOf key).held = true)
    (freed : (world.closeDomains pinned).isReferenced pinned key = false) :
    world.isRegistered key = false ∧ key ∉ pinned := by
  have home : (world.closeDomains pinned).homeOf key = world.homeOf key := by
    rw [homeOf, unit_closeDomains]
    rcases domain_closeDomains world pinned (world.unit key).home with
      same | ⟨unheld, -⟩
    · exact same
    · rw [homeOf, unheld] at held
      contradiction
  simp only [isReferenced, isRegistered, home, Bool.or_eq_false_iff] at freed
  exact ⟨freed.1.2, by simpa using freed.2⟩

end World

/-- What last happened to a unit. -/
def lastPassage (key : UnitKey) (past : List (UnitKey × Passage)) : Option Passage :=
  (past.filter (·.1 == key)).getLast?.map Prod.snd

theorem lastPassage_self {key : UnitKey} (past : List (UnitKey × Passage))
    (passage : Passage) :
    lastPassage key (past ++ [(key, passage)]) = some passage := by
  simp [lastPassage, List.filter_append]

theorem lastPassage_of_ne {key other : UnitKey} (apart : other ≠ key)
    (past : List (UnitKey × Passage)) (passage : Passage) :
    lastPassage key (past ++ [(other, passage)]) = lastPassage key past := by
  simp [lastPassage, List.filter_append, apart]

/-- What holds of a unit of a living domain, given whether it is registered, whether
some thread is about to bind it, whether some thread works on it, and what last
happened to it. -/
structure LoadUnit.Filed (unit : LoadUnit) (registered : Bool)
    (enrolls pinned : Prop) (last : Option Passage) : Prop where
  bound : unit.hostBound = true →
    registered = true ∧ unit.image.hasBinding = true
  binding : unit.binding = if unit.hostBound then some unit.id else none
  enlisted : registered = true → unit.image.hasBinding = true →
    unit.hostBound = true ∨ enrolls
  passed : registered = true ↔ last = some .begun ∨ enrolls
  gone : unit.presence = .refused ∨ unit.presence = .destroyed →
    registered = false ∧ ¬ pinned

namespace LoadUnit.Filed

variable {unit after : LoadUnit} {registered registered' : Bool}
  {enrolls enrolls' pinned pinned' : Prop} {last : Option Passage}

/-- Nothing happens to the unit. -/
theorem of_quiet (filed : unit.Filed registered enrolls pinned last)
    (grows : unit.Grows after) (ties : after.ties = unit.ties)
    (same : registered' = registered) (iff : enrolls' ↔ enrolls)
    (unpinned : unit.isAlive = false → ¬ pinned → ¬ pinned') :
    after.Filed registered' enrolls' pinned' last := by
  have hostBound : after.hostBound = unit.hostBound := congrArg Ties.hostBound ties
  have binding : after.binding = unit.binding := congrArg Ties.binding ties
  have presence : after.presence = unit.presence := congrArg Ties.presence ties
  constructor
  · rw [hostBound, same, grows.image]
    exact filed.bound
  · rw [hostBound, binding, grows.id]
    exact filed.binding
  · rw [hostBound, same, grows.image, iff]
    exact filed.enlisted
  · rw [same, iff]
    exact filed.passed
  · rw [presence, same]
    intro gone
    obtain ⟨unregistered, free⟩ := filed.gone gone
    have dead : unit.isAlive = false := by
      rcases gone with gone | gone <;> simp [isAlive, gone]
    exact ⟨unregistered, unpinned dead free⟩

/-- A thread that works on the unit puts it into the registry. -/
theorem registers (filed : unit.Filed registered enrolls pinned last)
    (works : pinned) (enrolling : enrolls') :
    unit.Filed true enrolls' pinned' last where
  bound := fun bound => ⟨rfl, (filed.bound bound).2⟩
  binding := filed.binding
  enlisted := fun _ _ => Or.inr enrolling
  passed := iff_of_true rfl (Or.inr enrolling)
  gone := fun gone => absurd works (filed.gone gone).2

/-- The thread that put the unit into the registry binds it. -/
theorem binds (filed : unit.Filed registered enrolls pinned last)
    (enrolling : enrolls) :
    unit.bindHost.Filed registered enrolls' pinned' (some .begun) := by
  have listed : registered = true := filed.passed.mpr (Or.inr enrolling)
  subst listed
  have kept := unit.keeps_bindHost
  refine ⟨fun bound => ⟨rfl, ?_⟩, ?_, ?_, by simp, fun gone => ?_⟩
  · rw [kept.image]
    unfold bindHost at bound
    split at bound
    · assumption
    · exact (filed.bound bound).2
  · unfold bindHost
    split
    · rfl
    · exact filed.binding
  · rw [kept.image]
    intro _ binding
    simp [bindHost, binding]
  · rw [kept.presence] at gone
    exact absurd (filed.gone gone).1 (by simp)

/-- A registered unit that nobody is about to bind is unloaded. -/
theorem unloads (filed : unit.Filed true enrolls pinned last)
    (unattended : ¬ enrolls') :
    unit.unbindHost.Filed false enrolls' pinned' (some .unloaded) := by
  have unbound : unit.unbindHost.hostBound = false := by
    unfold unbindHost
    split
    · rfl
    · exact Bool.eq_false_iff.mpr ‹_›
  refine ⟨fun bound => ?_, ?_, by simp, by simp [unattended], fun gone => ?_⟩
  · rw [unbound] at bound
    contradiction
  · rw [unbound]
    unfold unbindHost
    split
    · rename_i bound
      simp [(filed.bound bound).2]
    · rename_i free
      rw [filed.binding, if_neg free]
      rfl
  · have presence : unit.unbindHost.presence = unit.presence := by
      unfold unbindHost
      split <;> rfl
    rw [presence] at gone
    exact absurd (filed.gone gone).1 (by simp)

/-- The client lets go of the unit. -/
theorem releases (filed : unit.Filed registered enrolls pinned last) :
    LoadUnit.Filed { unit with presence := .released } registered enrolls pinned'
      last :=
  ⟨filed.bound, filed.binding, filed.enlisted, filed.passed, by simp⟩

/-- The unit is freed. -/
theorem frees (filed : unit.Filed registered enrolls pinned last)
    (unregistered : registered = false) (free : ¬ pinned') :
    LoadUnit.Filed { unit.unbindHost with presence := .destroyed } registered enrolls
      pinned' last := by
  subst unregistered
  have unbound : unit.hostBound = false :=
    Bool.eq_false_iff.mpr fun bound => absurd (filed.bound bound).1 (by simp)
  have same : unit.unbindHost = unit := by simp [unbindHost, unbound]
  rw [same]
  exact ⟨filed.bound, filed.binding, filed.enlisted, filed.passed,
    fun _ => ⟨rfl, free⟩⟩

/-- A unit that nobody is about to bind is bound while it is registered. -/
theorem binding_eq (filed : unit.Filed registered enrolls pinned last)
    (unenrolled : ¬ enrolls) (binds : unit.image.hasBinding = true) :
    unit.binding = if registered then some unit.id else none := by
  rw [filed.binding]
  cases bound : unit.hostBound with
  | true => rw [(filed.bound bound).1]
  | false =>
      rw [if_neg (by simp), if_neg]
      intro listed
      rcases filed.enlisted listed binds with bound' | enrolling
      · rw [bound] at bound'
        contradiction
      · exact unenrolled enrolling

theorem unbound_of_gone (filed : unit.Filed registered enrolls pinned last)
    (gone : unit.presence = .refused ∨ unit.presence = .destroyed) :
    registered = false ∧ unit.binding = none := by
  obtain ⟨unregistered, -⟩ := filed.gone gone
  refine ⟨unregistered, ?_⟩
  rw [filed.binding, if_neg]
  intro bound
  rw [(filed.bound bound).1] at unregistered
  contradiction

end LoadUnit.Filed

namespace Crew

variable {setups : List Setup} {members : Nat} {crew next : Crew}
  {past later : List (UnitKey × Passage)} {key : UnitKey}

theorem thread_of_beyond {me : ThreadId} (beyond : ¬ me < crew.threads.length) :
    crew.thread me = {} := by
  simp [Crew.thread, List.getD, List.getElem?_eq_none (Nat.not_lt.mp beyond)]

/-- Some thread has put the unit into the registry and is about to bind it. -/
def Enrolls (crew : Crew) (key : UnitKey) : Prop :=
  ∃ me, (crew.thread me).enrolling = some key

def Pins (crew : Crew) (key : UnitKey) : Prop :=
  ∃ me, key ∈ (crew.thread me).pinned

theorem Pins.mem_pinned (pins : crew.Pins key) : key ∈ crew.pinned := by
  obtain ⟨me, pinned⟩ := pins
  by_cases within : me < crew.threads.length
  · refine List.mem_flatMap.mpr ⟨crew.thread me, ?_, pinned⟩
    simp [Crew.thread, within]
  · rw [thread_of_beyond within] at pinned
    contradiction

/-- What holds of a unit of a living domain. -/
def Filed (crew : Crew) (key : UnitKey) (past : List (UnitKey × Passage)) : Prop :=
  (crew.world.unit key).Filed (crew.world.isRegistered key) (crew.Enrolls key)
    (crew.Pins key) (lastPassage key past)

section

variable {me : ThreadId} {world : World} {thread : Thread} {request : Option Request}

/-- Acts that neither begin nor end to enrol a unit. -/
theorem enrolls_acted (member : me < crew.threads.length)
    (same : thread.enrolling = some key ↔
      (crew.thread me).enrolling = some key) :
    Enrolls ({ crew with world }.setThread me thread) key ↔ crew.Enrolls key := by
  refine exists_congr fun you => ?_
  rw [thread_acted member]
  split
  · rename_i here
    rw [← here]
    exact same
  · rfl

/-- A thread takes hold of no unit that was refused or destroyed. -/
theorem unpinned_play (member : me < crew.threads.length)
    (plays : crew.world.play me (crew.thread me) request = some (world, thread))
    (dead : (crew.world.unit key).isAlive = false) (free : ¬ crew.Pins key) :
    ¬ Pins ({ crew with world }.setThread me thread) key := by
  rintro ⟨you, pinned⟩
  rw [thread_acted member] at pinned
  split at pinned
  · rcases World.pinned_play plays pinned with before | alive
    · exact free ⟨me, before⟩
    · exact Bool.false_ne_true (dead.symm.trans alive)
  · exact free ⟨you, pinned⟩

/-- Where there is one thread, no other is about to bind what it unloads. -/
theorem unenrolled_of_lone (lone : crew.threads.length = 1)
    (member : me < crew.threads.length) (after : thread.enrolling = none) :
    ¬ Enrolls ({ crew with world }.setThread me thread) key := by
  rintro ⟨you, enrolling⟩
  rw [thread_acted member] at enrolling
  split at enrolling
  · rw [after] at enrolling
    contradiction
  · rename_i apart
    have beyond : ¬ you < crew.threads.length := by
      intro within
      rw [lone, Nat.lt_one_iff] at member within
      exact apart (member.trans within.symm)
    rw [thread_of_beyond beyond] at enrolling
    contradiction

section

variable (member : me < crew.threads.length)
  (plays : crew.world.play me (crew.thread me) request = some (world, thread))
  (known : key < crew.world.unitCount) (filed : crew.Filed key past)
include member plays known filed

/-- An act that leaves alone how the unit is registered, bound and held. -/
theorem filed_beside
    (ties : (world.unit key).ties = (crew.world.unit key).ties)
    (registered : world.isRegistered key = crew.world.isRegistered key)
    (same : thread.enrolling = some key ↔ (crew.thread me).enrolling = some key) :
    Filed ({ crew with world }.setThread me thread) key past :=
  filed.of_quiet ((World.grows_act (World.act_of_play plays)).unit key known) ties
    registered (enrolls_acted member same) (unpinned_play member plays)

theorem filed_registered {enrolled : UnitKey} (catalogued : crew.world.Catalogued)
    (numbered : crew.world.Numbered)
    (there : enrolled < crew.world.unitCount)
    (pinned : enrolled ∈ (crew.thread me).pinned)
    (done : world = crew.world.registerUnit enrolled)
    (before : (crew.thread me).enrolling = none)
    (after : thread.enrolling = some enrolled) :
    Filed ({ crew with world }.setThread me thread) key past := by
  have registered := World.isRegistered_registerUnit catalogued numbered there key
  rw [← done] at registered
  have unit : world.unit key = crew.world.unit key := by
    rw [done]
    rfl
  by_cases same : key = enrolled
  · subst same
    unfold Filed
    change (world.unit key).Filed (world.isRegistered key) _ _ _
    rw [unit, registered.mpr (Or.inl rfl)]
    refine filed.registers ⟨me, pinned⟩ ⟨me, ?_⟩
    rw [thread_acted member, if_pos rfl, after]
  · refine filed_beside member plays known filed (congrArg _ unit) ?_ ?_
    · exact Bool.eq_iff_iff.mpr (registered.trans (or_iff_right same))
    · rw [before, after]
      simp [Ne.symm same]

theorem filed_bound {bound : UnitKey}
    (done : world = crew.world.modifyUnit bound LoadUnit.bindHost)
    (before : (crew.thread me).enrolling = some bound)
    (after : thread.enrolling = none) :
    Filed ({ crew with world }.setThread me thread) key (past ++ [(bound, .begun)]) := by
  have grows := (World.grows_act (World.act_of_play plays)).unit key known
  have registered : world.isRegistered key = crew.world.isRegistered key := by
    refine World.isRegistered_congr grows.home ?_
    rw [done]
    rfl
  have unit : world.unit key = if bound = key then
      (crew.world.unit bound).bindHost else crew.world.unit key := by
    rw [done, World.unit_modifyUnit]
  by_cases same : bound = key
  · subst same
    unfold Filed
    change (world.unit bound).Filed (world.isRegistered bound) _ _ _
    rw [unit, if_pos rfl, registered, lastPassage_self]
    exact filed.binds ⟨me, before⟩
  · rw [if_neg same] at unit
    unfold Filed
    rw [lastPassage_of_ne same]
    refine filed_beside member plays known filed (congrArg _ unit) registered ?_
    rw [before, after]
    simp [same]

theorem filed_unloaded {unloaded : UnitKey}
    (catalogued : crew.world.Catalogued) (numbered : crew.world.Numbered)
    (later : world.Catalogued)
    (there : unloaded < crew.world.unitCount) (lone : crew.threads.length = 1)
    (unloads : crew.world.Unloads world unloaded)
    (before : (crew.thread me).enrolling = none) (after : thread.enrolling = none) :
    Filed ({ crew with world }.setThread me thread) key
      (past ++ [(unloaded, .unloaded)]) := by
  have registered := World.isRegistered_of_unloads catalogued numbered there unloads
    later key
  have unit := unloads.unit key
  by_cases same : unloaded = key
  · subst same
    have unlisted : world.isRegistered unloaded = false := by
      rw [Bool.eq_false_iff, Ne, registered]
      simp
    unfold Filed at filed ⊢
    change (world.unit unloaded).Filed (world.isRegistered unloaded) _ _ _
    rw [unit, if_pos rfl, unlisted, lastPassage_self]
    rw [unloads.registered] at filed
    exact filed.unloads (unenrolled_of_lone lone member after)
  · rw [if_neg same] at unit
    unfold Filed
    rw [lastPassage_of_ne same]
    refine filed_beside member plays known filed (congrArg _ unit) ?_
      (by rw [before, after])
    exact Bool.eq_iff_iff.mpr (registered.trans (and_iff_right (Ne.symm same)))

theorem filed_released {released : UnitKey}
    (done : world = crew.world.modifyUnit released fun unit =>
      { unit with presence := .released })
    (before : (crew.thread me).enrolling = none) (after : thread.enrolling = none) :
    Filed ({ crew with world }.setThread me thread) key past := by
  have grows := (World.grows_act (World.act_of_play plays)).unit key known
  have same : thread.enrolling = some key ↔ (crew.thread me).enrolling = some key := by
    rw [before, after]
  have registered : world.isRegistered key = crew.world.isRegistered key := by
    refine World.isRegistered_congr grows.home ?_
    rw [done]
    rfl
  have unit : world.unit key = if released = key then
      { crew.world.unit released with presence := .released }
        else crew.world.unit key := by
    rw [done, World.unit_modifyUnit]
  by_cases here : released = key
  · subst here
    unfold Filed
    change (world.unit released).Filed (world.isRegistered released) _ _ _
    rw [unit, if_pos rfl, registered, enrolls_acted member same]
    exact filed.releases
  · rw [if_neg here] at unit
    exact filed_beside member plays known filed (congrArg _ unit) registered same

end

theorem filed_play (framed : crew.Framed) (catalogued : crew.world.Catalogued)
    (numbered : crew.world.Numbered) (later : world.Catalogued)
    (lone : crew.threads.length = 1) (member : me < crew.threads.length)
    (plays : crew.world.play me (crew.thread me) request = some (world, thread))
    (known : key < crew.world.unitCount) (filed : crew.Filed key past) :
    Filed ({ crew with world }.setThread me thread) key
      (past ++ crew.world.passages me (crew.thread me) request) := by
  have grows := (World.grows_act (World.act_of_play plays)).unit key known
  have files := World.files_play plays (framed.supports me)
  have beside := filed_beside member plays known filed
  generalize crew.world.passages me (crew.thread me) request = passed at files ⊢
  cases files with
  | rests undisturbed before after =>
      rw [List.append_nil]
      refine beside (undisturbed.ties key) ?_ (by rw [before, after])
      exact World.isRegistered_congr grows.home (undisturbed.registry _)
  | registers there pinned done before after =>
      rw [List.append_nil]
      exact filed_registered member plays known filed catalogued numbered there pinned
        done before after
  | binds there done before after =>
      exact filed_bound member plays known filed done before after
  | @unloads through unloaded there asked done before after =>
      cases removed : (crew.world.unloadUnit through unloaded).2 with
      | false =>
          have same : world = crew.world :=
            done.trans (World.unloadUnit_of_kept catalogued numbered there removed)
          rw [if_neg Bool.false_ne_true, List.append_nil]
          exact beside (by rw [same]) (by rw [same]) (by rw [before, after])
      | true =>
          rw [if_pos rfl]
          have unloads := World.unloads_of_removed catalogued numbered there removed
          exact filed_unloaded member plays known filed catalogued numbered later there
            lone (done ▸ unloads) before after
  | makes done before waits =>
      rw [List.append_nil]
      refine beside ?_ ?_ (by rw [waits])
      · rw [done, World.unit_createUnit, if_neg (Nat.ne_of_gt known)]
      · refine World.isRegistered_congr grows.home ?_
        rw [done]
        exact (World.registry_createUnit _ _ _ _ _).1
  | releases held done before after =>
      rw [List.append_nil]
      exact filed_released member plays known filed done before after

end

/-- What holds of all units at any time. -/
structure Bookkept (crew : Crew) (past : List (UnitKey × Passage)) : Prop where
  catalogued : crew.world.Catalogued
  ascending : crew.world.Ascending
  unmade : ∀ key, ¬ key < crew.world.unitCount → lastPassage key past = none
  filed : ∀ key < crew.world.unitCount, (crew.world.homeOf key).held = true →
    crew.Filed key past

theorem bookkept_idle : (idle setups members).Bookkept [] := by
  have registry (home : DomainKey) :
      ((World.ofSetups setups).domain home).registry = [] :=
    World.registry_ofSetups setups home
  have count : (World.ofSetups setups).unitCount = 0 := (World.ofSetups_units setups).2.1
  refine ⟨⟨fun home entry listed => ?_, fun home => ?_⟩, fun key other _ known => ?_,
    fun _ _ => rfl, fun key known => ?_⟩
  · change entry ∈ ((World.ofSetups setups).domain home).registry at listed
    simp [registry] at listed
  · change Domain.Sorted ((World.ofSetups setups).domain home).registry
    rw [registry]
    exact .nil
  · change other < (World.ofSetups setups).unitCount at known
    simp [count] at known
  · change key < (World.ofSetups setups).unitCount at known
    simp [count] at known

/-- Registries are kept in any number of threads. -/
theorem catalogued_of_account {α : Type} {conduct : Conduct} {note : Noting α}
    {noted : List α}
    (account : Account conduct note (idle setups members) noted crew) :
    crew.world.Catalogued := by
  induction account with
  | start => exact bookkept_idle.catalogued
  | @play crew noted me request world thread account member conducted plays ih =>
      obtain ⟨deeds, run⟩ := account.run
      exact World.catalogued_files
        (World.files_play plays ((framed_run framed_idle run).supports me))
        (World.grows_act (World.act_of_play plays)) ih (numbered_run run)
  | @collect crew noted account ih =>
      exact ih.grows (.of_still (World.alike_collect crew.world crew.pinned).still)
        (World.registry_collect _ _)

theorem bookkept_collect (bookkept : crew.Bookkept past) :
    Bookkept { crew with world := crew.world.collect crew.pinned } past := by
  have still := (World.alike_collect crew.world crew.pinned).still
  have grows : crew.world.Grows (crew.world.collect crew.pinned) := .of_still still
  refine ⟨bookkept.catalogued.grows grows (World.registry_collect _ _), ?_, ?_, ?_⟩
  · exact fun key other before known => bookkept.ascending.of_grows grows before
      (Nat.lt_of_lt_of_eq known still.count)
  · intro key unknown
    change ¬ key < (crew.world.collect crew.pinned).unitCount at unknown
    rw [still.count] at unknown
    exact bookkept.unmade key unknown
  · intro key known held
    change key < (crew.world.collect crew.pinned).unitCount at known
    rw [still.count] at known
    obtain ⟨held, registered⟩ := World.isRegistered_collect held
    have filed := bookkept.filed key known held
    unfold Filed
    change ((crew.world.collect crew.pinned).unit key).Filed
      ((crew.world.collect crew.pinned).isRegistered key) (crew.Enrolls key)
      (crew.Pins key) _
    rw [registered]
    rcases World.unit_collect crew.world crew.pinned key with same | ⟨freed, same⟩
    · rw [same]
      exact filed
    · obtain ⟨unregistered, free⟩ := World.unreferenced_of_freed held freed
      rw [same]
      exact filed.frees unregistered fun pins => free pins.mem_pinned

theorem Enrolls.pins (enrolls : crew.Enrolls key) : crew.Pins key := by
  obtain ⟨me, enrolling⟩ := enrolls
  refine ⟨me, ?_⟩
  unfold Thread.enrolling at enrolling
  split at enrolling
  · rename_i unit level rest task
    cases enrolling
    simp [Thread.pinned, task, Task.unit?]
  · contradiction

theorem filed_made {me : ThreadId} {world : World} {thread : Thread}
    (framed : crew.Framed) (bookkept : crew.Bookkept past)
    (member : me < crew.threads.length) (waits : thread = crew.thread me)
    {home : DomainKey} {image : Image} {container : Container}
    (made : world = (crew.world.createUnit home image container).1)
    (later : world.Catalogued)
    (unknown : ¬ key < crew.world.unitCount) (known : key < world.unitCount) :
    Filed ({ crew with world }.setThread me thread) key past := by
  have newest : crew.world.unitCount = key := by
    rw [made, World.unitCount_createUnit] at known
    exact Nat.le_antisymm (Nat.not_lt.mp unknown) (Nat.le_of_lt_succ known)
  have unit := (World.unit_createUnit crew.world key home image container).trans
    (if_pos newest)
  rw [← made] at unit
  have registered : world.isRegistered key = false := by
    rw [Bool.eq_false_iff]
    intro registered
    have listed := (World.isRegistered_iff later).mp registered
    rw [World.homeOf, made, (World.registry_createUnit _ _ _ _ _).1] at listed
    exact unknown (bookkept.catalogued.own _ _ listed).1
  have free : ¬ Pins ({ crew with world }.setThread me thread) key := by
    rintro ⟨you, pinned⟩
    rw [thread_acted member] at pinned
    have there : key ∈ (crew.thread you).pinned := by
      split at pinned
      · rename_i here
        rwa [waits, here] at pinned
      · exact pinned
    exact unknown ((framed.supports you).known_of_pinned there)
  have unattended : ¬ Enrolls ({ crew with world }.setThread me thread) key :=
    fun enrolls => free enrolls.pins
  unfold Filed
  change (world.unit key).Filed (world.isRegistered key) _ _ _
  rw [unit, registered, bookkept.unmade key unknown]
  exact ⟨by simp, rfl, by simp, by simp [unattended], fun _ => ⟨rfl, free⟩⟩

theorem bookkept_play {me : ThreadId} {world : World} {thread : Thread}
    {request : Option Request} (framed : crew.Framed)
    (numbered : crew.world.Numbered) (bookkept : crew.Bookkept past)
    (lone : crew.threads.length = 1) (member : me < crew.threads.length)
    (plays : crew.world.play me (crew.thread me) request = some (world, thread)) :
    Bookkept ({ crew with world }.setThread me thread)
      (past ++ crew.world.passages me (crew.thread me) request) := by
  have grows := World.grows_act (World.act_of_play plays)
  have files := World.files_play plays (framed.supports me)
  have later := World.catalogued_files files grows bookkept.catalogued numbered
  refine ⟨later, World.ascending_files files grows bookkept.ascending numbered, ?_, ?_⟩
  · intro key unknown
    have before : ¬ key < crew.world.unitCount := fun known =>
      unknown (Nat.lt_of_lt_of_le known grows.count)
    generalize crew.world.passages me (crew.thread me) request = passed at files ⊢
    cases files with
    | rests | registers | makes | releases => simpa using bookkept.unmade key before
    | @binds bound known =>
        rw [lastPassage_of_ne]
        · exact bookkept.unmade key before
        · rintro rfl
          exact before known
    | @unloads through unloaded known =>
        split
        · rw [lastPassage_of_ne]
          · exact bookkept.unmade key before
          · rintro rfl
            exact before known
        · simpa using bookkept.unmade key before
  · intro key known held
    by_cases there : key < crew.world.unitCount
    · refine filed_play framed bookkept.catalogued numbered later lone member plays
        there (bookkept.filed key there ?_)
      change (world.homeOf key).held = true at held
      rw [World.homeOf, (grows.unit key there).home] at held
      exact World.held_files files _ held
    · change key < world.unitCount at known
      rcases World.count_files files with
        same | ⟨⟨home, image, container, made⟩, waits, silent⟩
      · exact absurd (same ▸ known) there
      · rw [silent, List.append_nil]
        exact filed_made framed bookkept member waits made later there known

theorem bookkept_of_account {conduct : Conduct}
    (account : Account conduct World.passages (idle setups 1) past crew) :
    crew.Bookkept past := by
  induction account with
  | start => exact bookkept_idle
  | play account member conducted plays ih =>
      obtain ⟨deeds, run⟩ := account.run
      exact bookkept_play (framed_run framed_idle run) (numbered_run run) ih
        account.members member plays
  | collect account ih =>
      exact bookkept_collect ih

/-- No thread has put the unit into the registry without having bound it yet. -/
def Settled (crew : Crew) (key : UnitKey) : Prop :=
  ∀ me, (crew.thread me).enrolling ≠ some key

/-- The registry of a living domain and the host's view of its images. -/
structure KeepsRegistry (crew : Crew) (home : DomainKey)
    (past : List (UnitKey × Passage)) : Prop where
  /-- Registered is who has begun to climb and has not been unloaded since. -/
  registered : ∀ key < crew.world.unitCount, (crew.world.unit key).home = home →
    crew.Settled key →
      (crew.world.isRegistered key = true ↔ lastPassage key past = some .begun)
  bound : ∀ key < crew.world.unitCount, (crew.world.unit key).home = home →
    crew.Settled key → (crew.world.unit key).image.hasBinding = true →
      (crew.world.unit key).binding =
        if crew.world.isRegistered key then some (crew.world.unit key).id else none
  gone : ∀ key < crew.world.unitCount, (crew.world.unit key).home = home →
    (crew.world.unit key).presence = .refused ∨
      (crew.world.unit key).presence = .destroyed →
        crew.world.isRegistered key = false ∧ (crew.world.unit key).binding = none
  own : ∀ entry ∈ (crew.world.domain home).registry,
    entry.2 < crew.world.unitCount ∧ (crew.world.unit entry.2).home = home ∧
      entry.1 = (crew.world.unit entry.2).id
  /-- The registry lists units in the order in which they were made. -/
  units : (crew.world.domain home).units =
    (List.range crew.world.unitCount).filter fun key =>
      (crew.world.unit key).home == home && crew.world.isRegistered key
  /-- A name stands for the registered unit of that name that was made first. -/
  finds : ∀ name, crew.world.findUnit home name =
    (List.range crew.world.unitCount).find? fun key =>
      (crew.world.unit key).home == home && crew.world.isRegistered key &&
        (crew.world.unit key).name == name
  unloads : ∀ key < crew.world.unitCount,
    ((crew.world.unloadUnit home key).2 = true ↔
      (crew.world.unit key).home = home ∧ crew.world.isRegistered key = true)
  tells : ∀ key < crew.world.unitCount, (crew.world.unloadUnit home key).2 = true →
    (crew.world.unloadUnit home key).1.events = crew.world.events ++
      if (crew.world.sinksOf key).isDebuggerAttached then
        [.debuggerModuleUnload (crew.world.unit key).name,
          .debuggerUnitUnload (crew.world.unit key).name]
      else []
  refuses : ∀ key < crew.world.unitCount, (crew.world.unloadUnit home key).2 = false →
    (crew.world.unloadUnit home key).1 = crew.world

/-- Whatever a client with one thread does, also from within callbacks, the registry of
a domain that it still holds and the host's view of its images agree. -/
theorem keepsRegistry_of_account {home : DomainKey} {conduct : Conduct}
    (account : Account conduct World.passages (idle setups 1) past crew)
    (lives : (crew.world.domain home).held = true) :
    crew.KeepsRegistry home past := by
  have bookkept := bookkept_of_account account
  obtain ⟨deeds, run⟩ := account.run
  have numbered := numbered_run run
  have filed {key : UnitKey} (known : key < crew.world.unitCount)
      (here : (crew.world.unit key).home = home) : crew.Filed key past := by
    refine bookkept.filed key known ?_
    rwa [World.homeOf, here]
  have unenrolled {key : UnitKey} (settled : crew.Settled key) : ¬ crew.Enrolls key := by
    rintro ⟨me, enrolling⟩
    exact settled me enrolling
  have units : (crew.world.domain home).units =
      (List.range crew.world.unitCount).filter fun key =>
        (crew.world.unit key).home == home && crew.world.isRegistered key :=
    World.units_eq bookkept.catalogued bookkept.ascending home
  constructor
  · intro key known here settled
    have passed := (filed known here).passed
    rwa [or_iff_left (unenrolled settled)] at passed
  · intro key known here settled binds
    exact (filed known here).binding_eq (unenrolled settled) binds
  · intro key known here gone
    exact (filed known here).unbound_of_gone gone
  · exact bookkept.catalogued.own home
  · exact units
  · intro name
    rw [World.findUnit, units, List.find?_filter]
    simp only [Bool.decide_and, Bool.decide_eq_true]
  · intro key known
    rcases World.unloadUnit_cases bookkept.catalogued numbered known home with
      ⟨here, registered, result⟩ | ⟨not, result⟩
    · rw [result]
      exact iff_of_true rfl ⟨here, registered⟩
    · rw [result]
      exact iff_of_false (by simp) not
  · intro key known removed
    exact (World.unloads_of_removed bookkept.catalogued numbered known removed).events
  · exact fun key known =>
      World.unloadUnit_of_kept bookkept.catalogued numbered known

/-- A client that begins a unit. -/
def enters : List Cue :=
  [.asks 0 (.create 0 { name := "App" } { name := "App" }),
    .asks 0 (.incremental 0 0 .begun)]

/-- A client whose second thread unloads the unit when the first has put it into the
registry and not yet bound it. -/
def straddles : List Cue :=
  enters ++ [.steps 0, .asks 1 (.unload 0 0)] ++ Cue.climbs 0 3

/-- The choices for a domain without a debugger. -/
def undebugged : Setup :=
  { Setup.observed with sinks := { Setup.observed.sinks with debugger := .absent } }

theorem straddles_enacted :
    ((idle [undebugged] 2).enactAll Conduct.free straddles).isSome = true := by
  decide +kernel

def straddled : Crew :=
  ((idle [undebugged] 2).enactAll Conduct.free straddles).get straddles_enacted

theorem enters_enacted :
    ((idle [undebugged] 1).enactAll Conduct.free
      (enters ++ Cue.climbs 0 4)).isSome = true := by
  decide +kernel

def entered : Crew :=
  ((idle [undebugged] 1).enactAll Conduct.free
    (enters ++ Cue.climbs 0 4)).get enters_enacted

/-- With two threads a unit can be bound after it has left, and stay so when both are
done.  With one thread, nobody hears of an unload where no debugger is attached. -/
theorem unregistered_unit_stays_bound :
    (Account .free World.passages (idle [undebugged] 2)
        ([] ++ (idle [undebugged] 2).notedAll World.passages straddles) straddled ∧
      (straddled.world.domain 0).held = true ∧
      straddled.threads = [{}, {}] ∧
      (idle [undebugged] 2).notedAll World.passages straddles =
        [(0, .unloaded), (0, .begun)] ∧
      straddled.world.isRegistered 0 = false ∧
      (straddled.world.unit 0).image.hasBinding = true ∧
      (straddled.world.unit 0).binding = some (straddled.world.unit 0).id) ∧
    (Account .free World.passages (idle [undebugged] 1)
        ([] ++ (idle [undebugged] 1).notedAll World.passages
          (enters ++ Cue.climbs 0 4)) entered ∧
      (entered.world.unloadUnit 0 0).2 = true ∧
      (entered.world.unloadUnit 0 0).1.events = entered.world.events) :=
  ⟨⟨Account.start.enactAll (Option.some_get straddles_enacted).symm,
    by decide +kernel, rfl, by decide +kernel, by decide +kernel,
    by decide +kernel, by decide +kernel⟩,
    Account.start.enactAll (Option.some_get enters_enacted).symm,
    by decide +kernel, by decide +kernel⟩

/-- A client that begins a second unit before the first, has a third one refused,
unloads the unit that is being activated from within its initializer and begins it
anew, tries to unload the unit of another domain, and frees the second unit. -/
def shuffles : List Cue :=
  [.asks 0 (.create 0 { name := "App" } { name := "App", initializer := .client }),
    .asks 0 (.create 0 { name := "Lib" } { name := "Lib" }),
    .asks 0 (.create 0 { name := "Bad", valid := false } { name := "Bad" }),
    .asks 0 (.create 1 { name := "Other" } { name := "Other" }),
    .asks 0 (.incremental 0 1 .begun)] ++ Cue.climbs 0 4 ++
  [.asks 0 (.ensure 0 0 .active)] ++ Cue.climbs 0 72 ++
  [.asks 0 (.unload 0 0), .asks 0 (.incremental 0 0 .begun)] ++ Cue.climbs 0 4 ++
  [.goesOn 0, .asks 0 (.unload 0 3), .asks 0 (.unload 0 1), .asks 0 (.dropUnit 1),
    .collects, .returns 0] ++ Cue.climbs 0 14

theorem shuffles_enacted :
    ((idle [.observed, .observed] 1).enactAll Conduct.free shuffles).isSome =
      true := by
  decide +kernel

def shuffled : Crew :=
  ((idle [.observed, .observed] 1).enactAll Conduct.free shuffles).get
    shuffles_enacted

theorem keepsRegistry_shuffled :
    Account .free World.passages (idle [.observed, .observed] 1)
        ([] ++ (idle [.observed, .observed] 1).notedAll World.passages shuffles)
        shuffled ∧
      (shuffled.world.domain 0).held = true ∧
      shuffled.KeepsRegistry 0
        ([] ++ (idle [.observed, .observed] 1).notedAll World.passages shuffles) ∧
      (shuffled.world.domain 0).units = [0] ∧
      (shuffled.world.unit 1).presence = .destroyed := by
  have account : Account .free World.passages (idle [.observed, .observed] 1)
      ([] ++ (idle [.observed, .observed] 1).notedAll World.passages shuffles)
      shuffled :=
    Account.start.enactAll (Option.some_get shuffles_enacted).symm
  have lives : (shuffled.world.domain 0).held = true := by decide +kernel
  exact ⟨account, lives, keepsRegistry_of_account account lives,
    by decide +kernel, by decide +kernel⟩

end Crew

end LoadLadder
