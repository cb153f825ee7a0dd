import Mathlib.Data.Finset.Card
import Mathlib.Data.List.Induction
import OptIn.MultiRun

/-!
# Registration in order

Drivers are offered to a registry one by one, first those that it is made from. Of all drivers that
have been offered under a name a registry keeps the first, in the order in which the names came up
(`Registry.KeepsFirst`, kept by `KeepsFirst.offer`); one whose name is taken is refused, and the
registry stays as it is. All that a registry tells follows from this: its order, its size, what it
has under a name, and which drivers of it run (`Registry.tells_or_refused`).
-/

namespace OptIn

namespace Registry

variable {r r' : Registry} {d : Driver} {tried : List Driver} {name : String}

/-- Offers a driver to the registry that is at hand. -/
def offer (d : Driver) : Action Registry Unit := do
  let r ← get
  set (← r.register d)

/-- The registry after drivers have been offered to it, those that it refuses among them. -/
def afterOffers (r : Registry) (ds : List Driver) : Registry :=
  ds.foldl (fun r d => ((offer d).run r).2) r

/-! ### One offer -/

theorem run_offer (d : Driver) (r : Registry) :
    (offer d).run r =
      match r.register d with
      | .ok r' => (.ok (), r')
      | .error e => (.error e, r) := by
  have hget : (get : Action Registry Registry).run r = (.ok r, r) := rfl
  rw [offer, Action.run_bind_ok hget]
  rcases r.register d with e | r' <;> rfl

/-- A driver whose name is taken is refused, and nothing changes. -/
theorem run_offer_of_mem (hd : d.name ∈ r.names) :
    (offer d).run r = (.error (.duplicateDriver d.name), r) := by
  have htaken : r.contains d.name = true := List.contains_iff_mem.mpr hd
  rw [run_offer, register, dif_pos htaken]

/-- A driver whose name is free comes at the end. -/
theorem run_offer_of_not_mem (hd : d.name ∉ r.names) :
    ∃ r', (offer d).run r = (.ok (), r') ∧ r'.drivers = r.drivers ++ [d] := by
  have hfree : ¬r.contains d.name = true := fun h => hd (List.contains_iff_mem.mp h)
  rw [run_offer, register, dif_neg hfree]
  exact ⟨_, rfl, rfl⟩

theorem names_append (hdrivers : r'.drivers = r.drivers ++ [d]) :
    r'.names = r.names ++ [d.name] := by
  rw [names, hdrivers, List.map_append]
  rfl

/-! ### All offers -/

/-- A registry **keeps the first** of the drivers that have been offered under each name, in the
order in which the names came up. -/
structure KeepsFirst (r : Registry) (tried : List Driver) : Prop where
  mem : ∀ name, name ∈ r.names ↔ name ∈ tried.map (·.name)
  order : r.names.Pairwise fun a b =>
    (tried.map (·.name)).idxOf a < (tried.map (·.name)).idxOf b
  find : ∀ name, r.find? name = tried.find? (·.name = name)

theorem keepsFirst_empty : empty.KeepsFirst [] where
  mem _ := Iff.rfl
  order := .nil
  find _ := rfl

/-- Names that have come up keep their order, whatever is offered next. -/
theorem KeepsFirst.order_append (hr : r.KeepsFirst tried) (d : Driver) :
    r.names.Pairwise fun a b =>
      ((tried ++ [d]).map (·.name)).idxOf a < ((tried ++ [d]).map (·.name)).idxOf b := by
  refine hr.order.imp_of_mem fun {a b} ha hb hab => ?_
  rw [List.map_append, List.idxOf_append_of_mem ((hr.mem a).mp ha),
    List.idxOf_append_of_mem ((hr.mem b).mp hb)]
  exact hab

theorem KeepsFirst.append_of_mem (hr : r.KeepsFirst tried) (hd : d.name ∈ r.names) :
    r.KeepsFirst (tried ++ [d]) where
  mem name := by
    rw [hr.mem, List.map_append, List.mem_append, List.map_singleton, List.mem_singleton]
    exact (or_iff_left_of_imp fun h => h ▸ (hr.mem d.name).mp hd).symm
  order := hr.order_append d
  find name := by
    rw [hr.find, List.find?_append]
    -- under the name of the further driver something has been found before
    by_cases hname : d.name = name
    · subst hname
      obtain ⟨first, hfirst, hsame⟩ := List.mem_map.mp ((hr.mem d.name).mp hd)
      have hsome : (tried.find? fun d' => d'.name = d.name).isSome = true :=
        List.find?_isSome.mpr ⟨first, hfirst, by simpa using hsame⟩
      rw [Option.or_of_isSome hsome]
    · simp [hname]

theorem KeepsFirst.append_of_not_mem (hr : r.KeepsFirst tried) (hd : d.name ∉ r.names)
    (hdrivers : r'.drivers = r.drivers ++ [d]) : r'.KeepsFirst (tried ++ [d]) where
  mem name := by
    rw [names_append hdrivers, List.map_append, List.mem_append, List.mem_append, hr.mem]
    rfl
  order := by
    have hnew : d.name ∉ tried.map (·.name) := fun h => hd ((hr.mem d.name).mpr h)
    rw [names_append hdrivers, List.pairwise_append]
    refine ⟨hr.order_append d, List.pairwise_singleton _ _, fun a ha b hb => ?_⟩
    obtain rfl := List.mem_singleton.mp hb
    have ha : a ∈ tried.map (·.name) := (hr.mem a).mp ha
    rw [List.map_append, List.idxOf_append_of_mem ha, List.idxOf_append_of_notMem hnew]
    exact Nat.lt_add_right _ (List.idxOf_lt_length_of_mem ha)
  find name := by
    rw [find?, hdrivers, List.find?_append, List.find?_append, ← hr.find, find?]

/-- Whatever a registry does with a driver, it keeps the first of each name. -/
theorem KeepsFirst.offer (hr : r.KeepsFirst tried) (d : Driver) :
    KeepsFirst ((Registry.offer d).run r).2 (tried ++ [d]) := by
  by_cases hd : d.name ∈ r.names
  · rw [run_offer_of_mem hd]
    exact hr.append_of_mem hd
  · obtain ⟨r', hrun, hdrivers⟩ := run_offer_of_not_mem hd
    rw [hrun]
    exact hr.append_of_not_mem hd hdrivers

theorem KeepsFirst.afterOffers (hr : r.KeepsFirst tried) (later : List Driver) :
    (r.afterOffers later).KeepsFirst (tried ++ later) := by
  induction later generalizing r tried with
  | nil => exact (List.append_nil tried).symm ▸ hr
  | cons d later ih =>
    have hrest := ih (hr.offer d)
    rwa [List.append_assoc, List.singleton_append] at hrest

/-! ### What a registry tells -/

/-- What a registry **tells** when drivers have been offered to it: each name once, in the order in
which the names came up; as many as there are; under each of them the first driver of it, and under
no other name any. A further driver is refused if its name has come up, and then nothing changes.
Of these drivers those run whose names are not excluded. -/
structure Tells (r : Registry) (tried : List Driver) : Prop where
  once : r.names.Nodup
  names : ∀ name, name ∈ r.names ↔ name ∈ tried.map (·.name)
  order : r.names.Pairwise fun a b =>
    (tried.map (·.name)).idxOf a < (tried.map (·.name)).idxOf b
  size : r.drivers.length = (tried.map (·.name)).toFinset.card
  known : ∀ name first, tried.find? (·.name = name) = some first →
    r.lookup name = .ok first ∧ r.require name = .ok first
  unknown : ∀ name, name ∉ tried.map (·.name) → r.lookup name = .error (.noSuchKey name) ∧
    r.require name = .error (.unknownDriver name r.names)
  refuses : ∀ d, d.name ∈ tried.map (·.name) →
    (Registry.offer d).run r = (.error (.duplicateDriver d.name), r)
  accepts : ∀ d, d.name ∉ tried.map (·.name) →
    ∃ r', (Registry.offer d).run r = (.ok (), r') ∧ r'.drivers = r.drivers ++ [d]
  selected : ∀ m : MultiRun, m.registry = r →
    m.selected.map (·.name) = r.names.filter (· ∉ m.excluded) ∧
      ∀ d ∈ m.selected, tried.find? (·.name = d.name) = some d

theorem find?_of_mem (hd : d ∈ r.drivers) : r.find? d.name = some d := by
  obtain ⟨front, back, hsplit⟩ := List.append_of_mem hd
  have hdistinct := r.distinct
  rw [hsplit, List.map_append, List.nodup_append] at hdistinct
  rw [find?, List.find?_eq_some_iff_append]
  refine ⟨by simp, front, back, hsplit, fun a ha => ?_⟩
  have hne := hdistinct.2.2 a.name (List.mem_map_of_mem ha) d.name (by simp)
  simpa using hne

theorem KeepsFirst.tells (hr : r.KeepsFirst tried) : r.Tells tried where
  once := r.distinct
  names := hr.mem
  order := hr.order
  size := by
    have hsame : r.names.toFinset = (tried.map (·.name)).toFinset := by
      ext name
      rw [List.mem_toFinset, List.mem_toFinset, hr.mem]
    have honce : r.names.Nodup := r.distinct
    rw [← hsame, List.toFinset_card_of_nodup honce, Registry.names, List.length_map]
  known name first hfirst := by
    rw [← hr.find] at hfirst
    rw [lookup, require, hfirst]
    exact ⟨rfl, rfl⟩
  unknown name hname := by
    have hnone : r.find? name = none := by
      rw [hr.find, List.find?_eq_none]
      exact fun d hd heq => hname (List.mem_map.mpr ⟨d, hd, by simpa using heq⟩)
    rw [lookup, require, hnone]
    exact ⟨rfl, rfl⟩
  refuses d hd := run_offer_of_mem ((hr.mem d.name).mpr hd)
  accepts d hd := run_offer_of_not_mem fun h => hd ((hr.mem d.name).mp h)
  selected m hm := by
    rw [MultiRun.selected, hm, Registry.selected]
    constructor
    · rw [Registry.names, List.filter_map]
      simp [Function.comp_def]
    · intro d hd
      rw [← hr.find]
      exact find?_of_mem (List.mem_filter.mp hd).1

/-- A registry is made from drivers by offering them, until one is refused. -/
theorem ofDrivers_append_singleton (ds : List Driver) (d : Driver) :
    ofDrivers (ds ++ [d]) = ofDrivers ds >>= (·.register d) := by
  rw [ofDrivers, List.foldlM_append, ofDrivers]
  simp only [List.foldlM_cons, List.foldlM_nil, bind_pure]

/-- A registry can be made from drivers with different names; with others it is refused for the
first name that comes up again. -/
theorem ofDrivers_cases (start : List Driver) :
    (∃ r, ofDrivers start = .ok r ∧ (start.map (·.name)).Nodup ∧ r.KeepsFirst start) ∨
      ∃ front d back, start = front ++ d :: back ∧ (front.map (·.name)).Nodup ∧
        d.name ∈ front.map (·.name) ∧ ofDrivers start = .error (.duplicateDriver d.name) := by
  induction start using List.reverseRecOn with
  | nil => exact .inl ⟨empty, rfl, List.nodup_nil, keepsFirst_empty⟩
  | append_singleton start d ih =>
    rw [ofDrivers_append_singleton]
    rcases ih with ⟨r, hmade, hnodup, hr⟩ | ⟨front, d', back, rfl, hnodup, hd, hrefused⟩
    · by_cases hd : r.contains d.name = true
      · refine .inr ⟨start, d, [], rfl, hnodup, (hr.mem _).mp (List.contains_iff_mem.mp hd), ?_⟩
        rw [hmade]
        exact dif_pos hd
      · have hnew : d.name ∉ r.names := fun h => hd (List.contains_iff_mem.mpr h)
        refine .inl ⟨⟨r.drivers ++ [d], distinct_append hd⟩, ?_, ?_,
          hr.append_of_not_mem hnew rfl⟩
        · rw [hmade]
          exact dif_neg hd
        · rw [hr.mem] at hnew
          rw [List.map_append, List.nodup_append]
          refine ⟨hnodup, by simp, fun a ha b hb hab => ?_⟩
          obtain rfl : b = d.name := by simpa using hb
          exact hnew (hab ▸ ha)
    · exact .inr ⟨front, d', back ++ [d], by simp, hnodup, hd, by rw [hrefused]; rfl⟩

/-- **Registration.** A registry is made from drivers with different names, and refused at the first
name that comes up again. Whatever is offered to it later, accepted or refused, it tells the first
driver of each name, in the order in which the names came up. -/
theorem tells_or_refused (start later : List Driver) :
    (∃ r, ofDrivers start = .ok r ∧ (start.map (·.name)).Nodup ∧
        (r.afterOffers later).Tells (start ++ later)) ∨
      ∃ front d back, start = front ++ d :: back ∧ (front.map (·.name)).Nodup ∧
        d.name ∈ front.map (·.name) ∧ ofDrivers start = .error (.duplicateDriver d.name) := by
  rcases ofDrivers_cases start with ⟨r, hmade, hnodup, hr⟩ | hrefused
  · exact .inl ⟨r, hmade, hnodup, (hr.afterOffers later).tells⟩
  · exact .inr hrefused

/-- A driver that takes the name of another does not take its place. -/
example : (empty.afterOffers [.python, { Driver.yaml with name := "python" }, .shell]).drivers.map
    (fun d => (d.name, d.tool)) = [("python", "pylint"), ("shell", "shellcheck")] := by
  decide +kernel

end Registry

end OptIn
