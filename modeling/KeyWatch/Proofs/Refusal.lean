/-
# Proofs.Refusal -- what a store refuses, and what it blames

A batch is blamed for its size, or else for its first offending element in the order in which it
was given, and an element for its key before its value: `keysFault?` and `pairsFault?` say so
without running anything. A key is admitted exactly when it is short enough and starts with a
letter or a digit, which is when it has a bucket (`isSome_bucketOf?`). Only then the table is asked
for (`Store.given`).
-/
import KeyWatch.Proofs.Table
import KeyWatch.Store.Basic

namespace KeyWatch

set_option autoImplicit false

/-! ## Faults -/

namespace Settings

variable (settings : Settings)

/-- What is wrong with a key. -/
def keyFault? (key : String) : Option Error :=
  if key.utf8ByteSize ≤ settings.maxKeyLength ∧ key.toList.head?.any Char.isAlphanum = true then none
  else some (.invalidKey key)

/-- What is wrong with the value for a key. -/
def valueFault? (key value : String) : Option Error :=
  if value.utf8ByteSize ≤ settings.maxKeyLength then none
  else some (.valueTooLong key value.utf8ByteSize settings.maxKeyLength)

/-- What is wrong with a pair: its key is looked at first. -/
def pairFault? (pair : String × String) : Option Error :=
  (settings.keyFault? pair.1).or (settings.valueFault? pair.1 pair.2)

/-- What is wrong with the size of a batch. -/
def sizeFault? (length : Nat) : Option Error :=
  if length = 0 then some .emptyBatch
  else if settings.maxBatch < length then some (.batchTooLarge length settings.maxBatch)
  else none

/-- What is wrong with a batch of keys. -/
def keysFault? (keys : List String) : Option Error :=
  (settings.sizeFault? keys.length).or (keys.findSome? settings.keyFault?)

/-- What is wrong with a batch of pairs. -/
def pairsFault? (pairs : List (String × String)) : Option Error :=
  (settings.sizeFault? pairs.length).or (pairs.findSome? settings.pairFault?)

end Settings

/-- Answer with a fault, if there is one. -/
def refuse : Option Error → Except Error Unit
  | none => .ok ()
  | some fault => .error fault

theorem refuse_or (first second : Option Error) :
    refuse (first.or second) = refuse first >>= fun _ => refuse second := by
  cases first <;> rfl

theorem forM_eq_refuse {α : Type} (items : List α) (check : α → Except Error Unit)
    (fault? : α → Option Error) (checks : ∀ item, check item = refuse (fault? item)) :
    items.forM check = refuse (items.findSome? fault?) := by
  induction items with
  | nil => rfl
  | cons item rest ih =>
    change (check item >>= fun _ => rest.forM check) = _
    rw [checks, ih, List.findSome?_cons]
    cases fault? item <;> rfl

/-! ## Keys with a bucket -/

theorem isAlphanum_iff (c : Char) : c.isAlphanum = true ↔
    (65 ≤ c.toNat ∧ c.toNat ≤ 90 ∨ 97 ≤ c.toNat ∧ c.toNat ≤ 122) ∨ 48 ≤ c.toNat ∧ c.toNat ≤ 57 := by
  show (decide (65 ≤ c.val ∧ c.val ≤ 90) || (decide (97 ≤ c.val) && decide (c.val ≤ 122))
    || (decide (48 ≤ c.val) && decide (c.val ≤ 57))) = true ↔ _
  simp [UInt32.le_iff_toNat_le]

theorem isSome_bucketOfChar? (c : Char) : (bucketOfChar? c).isSome = c.isAlphanum := by
  rw [Bool.eq_iff_iff, isAlphanum_iff]
  simp only [bucketOfChar?, Char.reduceToNat]
  split
  · next lower => simp [lower]
  split
  · next upper => simp [upper]
  split
  · next digit => simp [digit]
  · next lower upper digit =>
    simp only [Option.isSome_none, Bool.false_eq_true, false_iff]
    omega

theorem isSome_bucketOf? (key : String) :
    (bucketOf? key).isSome = key.toList.head?.any Char.isAlphanum := by
  rw [bucketOf?]
  cases key.toList.head? with
  | none => rfl
  | some first => exact isSome_bucketOfChar? first

namespace Settings

theorem keyFault?_eq_none_iff (settings : Settings) (key : String) :
    settings.keyFault? key = none
      ↔ key.utf8ByteSize ≤ settings.maxKeyLength ∧ (bucketOf? key).isSome = true := by
  rw [keyFault?, isSome_bucketOf?]
  split
  · next admitted => simp [admitted]
  · next offending => simp [offending]

theorem valueFault?_eq_none_iff (settings : Settings) (key value : String) :
    settings.valueFault? key value = none ↔ value.utf8ByteSize ≤ settings.maxKeyLength := by
  rw [valueFault?]
  split
  · next fits => simp [fits]
  · next long => simp [long]

theorem placed_of_keyFault? {settings : Settings} {key : String}
    (admitted : settings.keyFault? key = none) : (bucketOf? key).isSome = true :=
  ((settings.keyFault?_eq_none_iff key).1 admitted).2

theorem keyFault?_of_keysFault? {settings : Settings} {keys : List String}
    (admitted : settings.keysFault? keys = none) : ∀ key ∈ keys, settings.keyFault? key = none := by
  have elements := (Option.or_eq_none_iff.1 admitted).2
  exact List.findSome?_eq_none_iff.1 elements

theorem placed_of_keysFault? {settings : Settings} {keys : List String}
    (admitted : settings.keysFault? keys = none) : ∀ key ∈ keys, (bucketOf? key).isSome = true :=
  fun key member => placed_of_keyFault? (keyFault?_of_keysFault? admitted key member)

theorem pairFault?_of_pairsFault? {settings : Settings} {pairs : List (String × String)}
    (admitted : settings.pairsFault? pairs = none) : ∀ pair ∈ pairs,
      settings.keyFault? pair.1 = none ∧ settings.valueFault? pair.1 pair.2 = none := by
  have elements := (Option.or_eq_none_iff.1 admitted).2
  intro pair member
  exact Option.or_eq_none_iff.1 (List.findSome?_eq_none_iff.1 elements pair member)

theorem placed_of_pairsFault? {settings : Settings} {pairs : List (String × String)}
    (admitted : settings.pairsFault? pairs = none) :
    ∀ pair ∈ pairs, (bucketOf? pair.1).isSome = true :=
  fun pair member => placed_of_keyFault? (pairFault?_of_pairsFault? admitted pair member).1

end Settings

/-! ## The checks of a store -/

namespace Store

variable (store : Store)

theorem checkKey_eq (key : String) : store.checkKey key = refuse (store.settings.keyFault? key) := by
  rw [checkKey]
  split
  · next long =>
    have offending : ¬ key.utf8ByteSize ≤ store.settings.maxKeyLength := by omega
    simp [Settings.keyFault?, offending, refuse]
  · next short =>
    have fits : key.utf8ByteSize ≤ store.settings.maxKeyLength := by omega
    rw [Settings.keyFault?, ← isSome_bucketOf?]
    cases home : bucketOf? key with
    | none => simp [bucketOf, home, refuse, Except.map]
    | some index => simp [bucketOf, home, fits, refuse, Except.map]

theorem checkPair_eq (pair : String × String) :
    store.checkPair pair = refuse (store.settings.pairFault? pair) := by
  rw [checkPair, checkKey_eq, Settings.pairFault?, refuse_or]
  congr 1
  funext _
  rw [Settings.valueFault?]
  split
  · next long => rw [if_neg (by omega)]; rfl
  · next short => rw [if_pos (by omega)]; rfl

theorem checkBatch_eq (length : Nat) :
    store.checkBatch length = refuse (store.settings.sizeFault? length) := by
  rw [checkBatch, Settings.sizeFault?]
  split
  · rfl
  split
  · rfl
  · rfl

theorem ascendingKeys_eq (keys : List String) :
    store.ascendingKeys keys
      = (refuse (store.settings.keysFault? keys)).map fun _ => Ordered.ascendingBy id keys := by
  rw [ascendingKeys, checkBatch_eq, forM_eq_refuse keys _ _ store.checkKey_eq,
    Settings.keysFault?, refuse_or]
  cases store.settings.sizeFault? keys.length with
  | some fault => rfl
  | none => cases keys.findSome? store.settings.keyFault? <;> rfl

theorem sortedPairs_eq (pairs : List (String × String)) :
    store.sortedPairs pairs = (refuse (store.settings.pairsFault? pairs)).map fun _ =>
      Ordered.lastOfRuns Prod.fst (Ordered.ascendingBy Prod.fst pairs) := by
  rw [sortedPairs, checkBatch_eq, forM_eq_refuse pairs _ _ store.checkPair_eq,
    Settings.pairsFault?, refuse_or]
  cases store.settings.sizeFault? pairs.length with
  | some fault => rfl
  | none => cases pairs.findSome? store.settings.pairFault? <;> rfl

/-- What an operation answers that is refused for a fault first, and then for a missing table. -/
def given {α : Type} (fault? : Option Error) (act : Table → α) : Except Error α :=
  match fault? with
  | some fault => .error fault
  | none =>
    match store.table with
    | none => .error .notInitialized
    | some table => .ok (act table)

variable {store} {α : Type}

theorem given_eq_ok_iff (fault? : Option Error) (act : Table → α) (answer : α) :
    store.given fault? act = .ok answer
      ↔ fault? = none ∧ ∃ table, store.table = some table ∧ act table = answer := by
  unfold given
  cases fault? with
  | some fault => simp
  | none => cases store.table <;> simp

end Store

end KeyWatch
