/-
Registries of helpers: functions that templates call by name with arguments by
position. A name is registered once and for all; calls are checked against the
number of arguments that the helper takes.
-/
import ProxyMaps.Helper.Signature
import ProxyMaps.Table

namespace ProxyMaps

open Helper (Arity Signature)

/-- A named function from arguments `α` to answers `β`. -/
structure Helper (α β : Type) where
  name : String
  arity : Arity
  description : String
  run : List α → β

namespace Helper

/-- A table of helpers, in the order in which they were registered. -/
structure Registry (α β : Type) where
  helpers : Table String (Helper α β) := .empty

/-- Why a helper is not registered. -/
inductive RegisterFault where
  /-- The name is taken. -/
  | taken (name : String)
  /-- A parameter cannot be reached by position and has no default. -/
  | noDefault (name parameter : String)
  deriving DecidableEq, Repr

/-- The wording of a fault in a registration. -/
def RegisterFault.message : RegisterFault → String
  | taken name => s!"template helper {name} is already registered"
  | noDefault name parameter =>
    s!"template helper {name}: keyword-only parameter {parameter} has no default"

/-- Why a helper is not called. -/
inductive CallFault where
  /-- There is no helper of that name. -/
  | unknown (name : String)
  /-- The helper does not take that many arguments. -/
  | arity (name : String) (given : Nat)
  deriving DecidableEq, Repr

/-- The wording of a fault in a call. -/
def CallFault.message : CallFault → String
  | unknown name => s!"no template helper named {name}"
  | arity name given => s!"template helper {name} called with {given} arguments"

section

variable {α β : Type}

/-- Whether a helper takes a number of arguments. -/
def accepts (h : Helper α β) (n : Int) : Bool := h.arity.accepts n

/-- The answer of a helper to some arguments. -/
def call (h : Helper α β) (args : List α) : Except CallFault β :=
  if h.accepts args.length then .ok (h.run args) else .error (.arity h.name args.length)

end

namespace Registry

variable {α β : Type}

/-- The registry without helpers. -/
def empty : Registry α β := {}

/-- The names of the helpers, in the order of their registration. -/
def names (r : Registry α β) : List String := r.helpers.keys

/-- The number of helpers. -/
def size (r : Registry α β) : Nat := r.helpers.size

/-- Whether a name is registered. -/
def contains (r : Registry α β) (name : String) : Bool := r.helpers.contains name

/-- The helper of a name. -/
def find? (r : Registry α β) (name : String) : Option (Helper α β) := r.helpers.find? name

/-- The helper of a name, or the fault that there is none. -/
def lookup (r : Registry α β) (name : String) : Except CallFault (Helper α β) :=
  match r.find? name with
  | some h => .ok h
  | none => .error (.unknown name)

/-- Registers a function under a new name; the answer is the helper that was made of it, too. -/
def register (r : Registry α β) (name : String) (signature : Signature) (run : List α → β)
    (description : String) : Except RegisterFault (Helper α β × Registry α β) :=
  if r.contains name then .error (.taken name)
  else
    match Arity.ofSignature signature with
    | .error p => .error (.noDefault name p.name)
    | .ok arity =>
      let h : Helper α β := ⟨name, arity, description, run⟩
      .ok (h, ⟨r.helpers.insert name h⟩)

/-- Calls a helper by its name. -/
def call (r : Registry α β) (name : String) (args : List α) : Except CallFault β :=
  match r.lookup name with
  | .ok h => h.call args
  | .error f => .error f

/-- The helpers as a plain table of functions that check their arguments themselves. -/
def toTable (r : Registry α β) : Table String (List α → Except CallFault β) :=
  r.helpers.mapValues fun _ h => h.call

end Registry

end Helper

end ProxyMaps
