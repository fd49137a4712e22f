/-!
# Total stores

A map from numbers to values in which every key holds a value: keys that were never written hold the
default.  Because no key is missing, writing one key and reading any other needs no side condition.
-/

namespace LoadLadder

/-- A map from numbers to values, default where nothing was written. -/
structure Store (α : Type) where
  items : List α := []
  deriving Repr

namespace Store

variable {α : Type} [Inhabited α]

instance : Inhabited (Store α) := ⟨{}⟩

/-- Writes one position of a list, extending it with defaults as far as needed. -/
def writeItem (value : α) : List α → Nat → List α
  | [], 0 => [value]
  | [], key + 1 => default :: writeItem value [] key
  | _ :: items, 0 => value :: items
  | item :: items, key + 1 => item :: writeItem value items key

def get (store : Store α) (key : Nat) : α :=
  store.items.getD key default

def set (store : Store α) (key : Nat) (value : α) : Store α :=
  ⟨writeItem value store.items key⟩

def modify (store : Store α) (key : Nat) (change : α → α) : Store α :=
  store.set key (change (store.get key))

theorem getD_writeItem (value : α) (items : List α) (key other : Nat) :
    (writeItem value items key).getD other default =
      if key = other then value else items.getD other default := by
  induction items, key using writeItem.induct generalizing other with
  | case1 => cases other <;> simp [writeItem]
  | case2 key ih => cases other <;> simp_all [writeItem]
  | case3 => cases other <;> simp [writeItem]
  | case4 item items key ih => cases other <;> simp_all [writeItem]

@[simp]
theorem get_set (store : Store α) (key other : Nat) (value : α) :
    (store.set key value).get other = if key = other then value else store.get other :=
  getD_writeItem value store.items key other

@[simp]
theorem get_modify (store : Store α) (key other : Nat) (change : α → α) :
    (store.modify key change).get other =
      if key = other then change (store.get key) else store.get other := by
  simp [modify]

theorem writeItem_getD {items : List α} {key : Nat} (within : key < items.length) :
    writeItem (items.getD key default) items key = items := by
  induction items generalizing key with
  | nil => contradiction
  | cons item items ih =>
      cases key with
      | zero => rfl
      | succ key => exact congrArg (item :: ·) (ih (Nat.lt_of_succ_lt_succ within))

/-- A change that does not change a value that was written leaves the store as it is. -/
theorem modify_eq_self {store : Store α} {key : Nat} {change : α → α}
    (written : store.get key ≠ default) (same : change (store.get key) = store.get key) :
    store.modify key change = store := by
  have within : key < store.items.length := by
    refine Nat.lt_of_not_le fun beyond => written ?_
    simp [get, List.getD, List.getElem?_eq_none beyond]
  rw [modify, same, set, get, writeItem_getD within]

@[simp]
theorem get_empty (key : Nat) : (({} : Store α)).get key = default := by
  simp [get]

end Store

end LoadLadder
