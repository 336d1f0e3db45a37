import HostStorage.Proofs.Host.Appending
import HostStorage.Scsi.Attribute

/-!
# What a sweep does

Every order of a plan is tried once, and whether it fails can be told from the tree before the
sweep: trying an order leaves the tree alike, so it neither helps nor hinders the orders after it.
-/
namespace HostStorage

open HostStorage.Path (Place)
open HostTree (grown)

def Order.tried (o : Order) (t : HostTree) : Try :=
  match t.writablePlace o.file with
  | .ok _ => ⟨o.file, none⟩
  | .error f => ⟨o.file, some f⟩

/-- The octets that an order adds at a place. -/
def Order.octetsAt (o : Order) (t : HostTree) (place : Place) : Bytes :=
  match t.writablePlace o.file with
  | .ok reached => if reached = place then Utf8.bytes o.value else []
  | .error _ => []

/-- A plan carried out on a tree: the tries of its orders, each once and in order, and a tree in
which every file has grown by the values of the orders that lead to it, and nothing else differs. -/
structure Carried (t : HostTree) (plan : List Order) (tries : List Try) (after : HostTree) :
    Prop where
  tries_eq : tries = plan.map (·.tried t)
  node?_eq : ∀ place,
    after.node? place = (t.node? place).map (grown (plan.flatMap (·.octetsAt t place)))

namespace Carried

variable {t middle after : HostTree} {plan later : List Order} {tries more : List Try}

theorem nil (t : HostTree) : Carried t [] [] t := ⟨rfl, fun place => by simp⟩

/-- Carrying out a plan leaves the tree alike. -/
theorem alike (carried : Carried t plan tries after) : t.Alike after := by
  intro place
  rw [carried.node?_eq place, Option.map_map]
  congr 1
  funext n
  simp

/-- Two plans carried out in turn are one plan. -/
theorem append (first : Carried t plan tries middle) (second : Carried middle later more after) :
    Carried t (plan ++ later) (tries ++ more) after := by
  have samePlaces : ∀ path, middle.writablePlace path = t.writablePlace path :=
    fun path => HostTree.writablePlace_congr first.alike.symm path
  constructor
  · rw [first.tries_eq, second.tries_eq, List.map_append]
    simp only [Order.tried, samePlaces]
  · intro place
    rw [second.node?_eq place, first.node?_eq place, Option.map_map, List.flatMap_append]
    simp only [Order.octetsAt, samePlaces]
    congr 1
    funext n
    exact HostTree.grown_grown _ _ n

/-- A place that no order leads to stays as it is. -/
theorem untouched (carried : Carried t plan tries after) {place : Place}
    (elsewhere : ∀ o ∈ plan, t.writablePlace o.file ≠ .ok place) :
    after.node? place = t.node? place := by
  have nothing : plan.flatMap (·.octetsAt t place) = [] := by
    refine List.flatMap_eq_nil_iff.2 fun o listed => ?_
    unfold Order.octetsAt
    split
    next reached here =>
      exact if_neg fun same => elsewhere o listed (by rw [here, same])
    next => rfl
  rw [carried.node?_eq place, nothing, HostTree.map_grown_nil]

end Carried

/-- Carrying out an order adds its value where the order leads, or fails and changes nothing. -/
theorem carried_carryOut (o : Order) (t : HostTree) :
    Carried t [o] [(o.carryOut t).1] (o.carryOut t).2 := by
  unfold Order.carryOut
  rw [HostTree.written_eq]
  cases reached : t.writablePlace o.file with
  | error f =>
    exact ⟨by simp [Order.tried, reached, Except.map],
      fun place => by simp [Order.octetsAt, reached, Except.map]⟩
  | ok target =>
    refine ⟨by simp [Order.tried, reached, Except.map], fun place => ?_⟩
    simp only [Except.map, HostTree.node?_append, List.flatMap_singleton, Order.octetsAt, reached]
    congr 1
    funext n
    by_cases here : place = target
    · simp [here]
    · simp [here, Ne.symm here]

/-- A sweep carries out its plan. -/
theorem carried_sweep (t : HostTree) (plan : List Order) :
    Carried t plan (sweep t plan).1 (sweep t plan).2 := by
  induction plan generalizing t with
  | nil => exact Carried.nil t
  | cons o rest ih => exact (carried_carryOut o t).append (ih (o.carryOut t).2)

end HostStorage
