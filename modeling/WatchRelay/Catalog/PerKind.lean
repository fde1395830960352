import WatchRelay.Wire.Kind

/-! One value for each kind of resource. -/

namespace WatchRelay

/-- A value for each kind. -/
structure PerKind (α : Type) where
  registry : α
  artifact : α
  application : α
  deploymentPackage : α
deriving DecidableEq, Repr

namespace PerKind

variable {α β : Type}

/-- The same value for every kind. -/
def const (value : α) : PerKind α := ⟨value, value, value, value⟩

instance [Inhabited α] : Inhabited (PerKind α) := ⟨const default⟩

/-- The value of a kind. -/
def get (p : PerKind α) : ResourceKind → α
  | .registry => p.registry
  | .artifact => p.artifact
  | .application => p.application
  | .deploymentPackage => p.deploymentPackage

/-- Puts a value in the place of a kind's. -/
def set (p : PerKind α) (kind : ResourceKind) (value : α) : PerKind α :=
  match kind with
  | .registry => { p with registry := value }
  | .artifact => { p with artifact := value }
  | .application => { p with application := value }
  | .deploymentPackage => { p with deploymentPackage := value }

/-- Changes the value of a kind. -/
def modify (p : PerKind α) (kind : ResourceKind) (f : α → α) : PerKind α :=
  p.set kind (f (p.get kind))

/-- The values in the order of the kinds. -/
def toList (p : PerKind α) : List (ResourceKind × α) :=
  ResourceKind.all.map fun k => (k, p.get k)

@[simp] theorem get_const (value : α) (kind : ResourceKind) : (const value).get kind = value := by
  cases kind <;> rfl

@[simp] theorem get_set_self (p : PerKind α) (kind : ResourceKind) (value : α) :
    (p.set kind value).get kind = value := by
  cases kind <;> rfl

theorem get_set_of_ne (p : PerKind α) {kind other : ResourceKind} (differ : other ≠ kind)
    (value : α) : (p.set kind value).get other = p.get other := by
  cases kind <;> cases other <;> simp_all [set, get]

end PerKind

end WatchRelay
