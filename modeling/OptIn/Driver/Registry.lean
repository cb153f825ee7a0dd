import OptIn.Driver.Builtin

/-!
# Registries of drivers

A registry holds drivers in the order in which they were registered, each name once. A name that is
taken is refused, and nothing changes.
-/

namespace OptIn

/-- Drivers by name, in the order of registration. -/
structure Registry where
  drivers : List Driver
  distinct : (drivers.map (·.name)).Nodup
  deriving DecidableEq, Repr

namespace Registry

/-- The registry without drivers. -/
def empty : Registry := ⟨[], List.nodup_nil⟩

/-- The names of the drivers, in order. -/
def names (r : Registry) : List String := r.drivers.map (·.name)

/-- The driver of a name. -/
def find? (r : Registry) (name : String) : Option Driver := r.drivers.find? (·.name = name)

/-- Whether a name is registered. -/
def contains (r : Registry) (name : String) : Bool := r.names.contains name

/-- A further driver under a free name leaves the names distinct. -/
theorem distinct_append {r : Registry} {d : Driver} (h : ¬r.contains d.name = true) :
    ((r.drivers ++ [d]).map (·.name)).Nodup := by
  have hfree : d.name ∉ r.names := by simpa [contains] using h
  rw [List.map_append, List.nodup_append]
  refine ⟨r.distinct, by simp, fun a ha b hb => ?_⟩
  obtain rfl : b = d.name := by simpa using hb
  exact fun hab => hfree (hab ▸ ha)

/-- The registry with a further driver, if its name is free. -/
def register (r : Registry) (d : Driver) : Except Fault Registry :=
  if h : r.contains d.name = true then .error (.duplicateDriver d.name)
  else .ok ⟨r.drivers ++ [d], distinct_append h⟩

/-- The registry of some drivers, registered one after another. -/
def ofDrivers (ds : List Driver) : Except Fault Registry := ds.foldlM register empty

/-- The driver of a name; an unknown name is told together with those that are known. -/
def require (r : Registry) (name : String) : Except Fault Driver :=
  match r.find? name with
  | some d => .ok d
  | none => .error (.unknownDriver name r.names)

/-- The driver of a name. -/
def lookup (r : Registry) (name : String) : Except Fault Driver :=
  match r.find? name with
  | some d => .ok d
  | none => .error (.noSuchKey name)

/-- The registry of the drivers that come with the library. -/
def default : Registry := ⟨Driver.builtins, by decide⟩

/-- The drivers whose names are not excluded. -/
def selected (r : Registry) (excluded : List String) : List Driver :=
  r.drivers.filter fun d => !excluded.contains d.name

end Registry

end OptIn
