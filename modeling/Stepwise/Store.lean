import Std.Data.TreeMap
import Std.Data.TreeSet
import Stepwise.Store.Slot

/-!
# The store

Variables live in scopes. Each scope but the first has a parent, and scopes are released in the
reverse order of their creation.

A variable belongs to the nearest scope, going from a scope to its parents, in which its name has
been declared, and to the first scope if it was declared in none of them. A slot that was never
written holds zero.
-/

namespace Stepwise

/-- One scope: its values by key, and the names declared in it. -/
structure Scope where
  /-- The scope around it; only the first scope has none. -/
  parent : Option Nat
  /-- The values written here. -/
  values : Std.TreeMap String Int32 := {}
  /-- The names declared here. -/
  declared : Std.TreeSet String := {}
deriving Inhabited

namespace Scope

/-- Whether a name was declared in this very scope. -/
def isDeclared (scope : Scope) (name : String) : Bool :=
  scope.declared.contains name

/-- Writes a value. -/
def write (scope : Scope) (key : String) (value : Int32) : Scope :=
  { scope with values := scope.values.insert key value }

/-- Declares a name and sets it to zero. What has been written at indices of it stays. -/
def declare (scope : Scope) (name : String) : Scope :=
  { scope with
    declared := scope.declared.insert name
    values := scope.values.insert name 0 }

end Scope

/-- The scopes that are alive, the first one being the root. -/
structure Store where
  /-- The scopes in the order of their creation; a scope is known by its index. -/
  scopes : Array Scope
deriving Inhabited

namespace Store

/-- The store with nothing but an empty root. -/
def empty : Store :=
  ⟨#[{ parent := none }]⟩

/-- The number of scopes that are alive. -/
def depth (store : Store) : Nat :=
  store.scopes.size

/-- Whether a scope is alive. -/
def isLive (store : Store) (id : Nat) : Bool :=
  id < store.depth

/-- Creates a scope inside `parent`; its index is the old depth. -/
def push (store : Store) (parent : Nat) : Store :=
  ⟨store.scopes.push { parent := some parent }⟩

/-- Releases the scope that was created last. The root stays. -/
def pop (store : Store) : Store :=
  if store.depth > 1 then ⟨store.scopes.pop⟩ else store

/-- The scopes from `id` outwards, if the root is reached within so many of them and all of them
are alive. -/
def chainWithin? (store : Store) : Nat → Nat → Option (List Nat)
  | 0, _ => none
  | steps + 1, id =>
    match store.scopes[id]? with
    | none => none
    | some scope =>
      match scope.parent with
      | none => some [id]
      | some parent => (chainWithin? store steps parent).map (id :: ·)

/-- The scopes from `id` outwards. There is no such chain if it would hold a scope that is not
alive; one that were longer than the store would never end. -/
def chain? (store : Store) (id : Nat) : Option (List Nat) :=
  store.chainWithin? store.depth id

/-- The first scope from `id` outwards that has declared a name, or else the root, if it is
reached within so many scopes and all of them are alive. -/
def ownerWithin? (store : Store) (name : String) : Nat → Nat → Option Nat
  | 0, _ => none
  | steps + 1, id =>
    match store.scopes[id]? with
    | none => none
    | some scope =>
      match scope.parent with
      | none => some id
      | some parent =>
        if scope.isDeclared name then some id else ownerWithin? store name steps parent

/-- The scope that a slot belongs to, seen from the scope `id`. -/
def owner? (store : Store) (id : Nat) (key : String) : Option Nat :=
  store.ownerWithin? (Slot.base key) store.depth id

/-- Reads a slot as seen from the scope `id`, if it belongs to a scope. -/
def get? (store : Store) (id : Nat) (key : String) : Option Int32 :=
  match store.owner? id key with
  | none => none
  | some owner => store.scopes[owner]?.map fun scope => scope.values.getD key 0

/-- Reads a slot as seen from the scope `id`. -/
def get (store : Store) (id : Nat) (key : String) : Int32 :=
  (store.get? id key).getD 0

/-- Writes a slot as seen from the scope `id`; without a scope that it belongs to, nothing
changes. -/
def set (store : Store) (id : Nat) (key : String) (value : Int32) : Store :=
  match store.owner? id key with
  | none => store
  | some owner => ⟨store.scopes.modify owner (·.write key value)⟩

/-- Declares a name in the scope `id`. -/
def declare (store : Store) (id : Nat) (name : String) : Store :=
  ⟨store.scopes.modify id (·.declare name)⟩

end Store

end Stepwise
