/-
The properties of an object, the members of a class and the state of every object are finite maps
that are read by key, changed one key at a time and listed in the order in which their keys were
first bound.

* `Table κ α` — the bindings, each key bound once by every operation below;
* `Table.get?`, `Table.insert` — reading and writing one key;
* `Table.get?_insert` — **a write is seen at its own key and nowhere else**.
-/

set_option autoImplicit false

namespace DynamicLinking

/-- A finite map from `κ` to `α`: its bindings, oldest key first. -/
structure Table (κ α : Type) where
  /-- The bindings, oldest key first. -/
  bindings : List (κ × α) := []
  deriving DecidableEq, Repr

namespace Table

variable {κ α : Type} [DecidableEq κ]

instance : Inhabited (Table κ α) := ⟨{}⟩

/-- The value bound to `k` in a list of bindings. -/
def find (k : κ) : List (κ × α) → Option α
  | [] => none
  | (k', a) :: r => if k' = k then some a else find k r

/-- A list of bindings with `k` bound to `a`, in place if `k` is bound already, at the end if
not. -/
def assign (k : κ) (a : α) : List (κ × α) → List (κ × α)
  | [] => [(k, a)]
  | (k', a') :: r => if k' = k then (k', a) :: r else (k', a') :: assign k a r

/-- The value bound to `k`. -/
def get? (t : Table κ α) (k : κ) : Option α :=
  find k t.bindings

/-- Is `k` bound? -/
def contains (t : Table κ α) (k : κ) : Bool :=
  (t.get? k).isSome

/-- Binds `k` to `a`, keeping the place of a key that is bound already. -/
def insert (t : Table κ α) (k : κ) (a : α) : Table κ α :=
  ⟨assign k a t.bindings⟩

/-- The table that binds the keys of a list of bindings one after another. -/
def ofList (bs : List (κ × α)) : Table κ α :=
  bs.foldl (fun t b => t.insert b.1 b.2) {}

/-- The keys, oldest first. -/
def keys (t : Table κ α) : List κ :=
  t.bindings.map Prod.fst

/-- The number of bindings. -/
def size (t : Table κ α) : Nat :=
  t.bindings.length

theorem find_assign (k j : κ) (a : α) (bs : List (κ × α)) :
    find j (assign k a bs) = if k = j then some a else find j bs := by
  induction bs with
  | nil => simp [assign, find]
  | cons b r ih =>
      obtain ⟨k', a'⟩ := b
      by_cases h : k' = k
      · subst h
        by_cases hj : k' = j <;> simp [assign, find, hj]
      · by_cases hj : k' = j
        · subst hj
          simp [assign, find, h, Ne.symm h]
        · simp [assign, find, h, hj, ih]

@[simp] theorem get?_empty (k : κ) : (({} : Table κ α)).get? k = none := rfl

/-- A write is seen at its own key and nowhere else. -/
@[simp] theorem get?_insert (t : Table κ α) (k j : κ) (a : α) :
    (t.insert k a).get? j = if k = j then some a else t.get? j :=
  find_assign k j a t.bindings

theorem get?_insert_self (t : Table κ α) (k : κ) (a : α) : (t.insert k a).get? k = some a := by
  simp

theorem get?_insert_ne (t : Table κ α) {k j : κ} (a : α) (h : k ≠ j) :
    (t.insert k a).get? j = t.get? j := by
  simp [h]

end Table

end DynamicLinking
