import Mathlib.Data.List.Infix
import Wethands.Foundation.Machine

/-!
# Two machines and a link between them

Each machine reads what the other one writes, in its order, and as much of it
at a time and as late as it happens.  What is on the way may stay there.  Both
machines run as they run alone, and what one has written is what the other has
read and what is still on the way.
-/

namespace Wethands
namespace Foundation

/-- What the inputs of a machine bring, and what its events send. -/
structure Port (Input Event Item : Type) where
  Reads : Input -> List Item
  Writes : Event -> List Item

namespace Port

variable {Input Event Item : Type}

def Read (port : Port Input Event Item) (inputs : List Input) : List Item :=
  inputs.flatMap port.Reads

def Written (port : Port Input Event Item) (tr : List Event) : List Item :=
  tr.flatMap port.Writes

theorem written_append (port : Port Input Event Item) (tr es : List Event) :
    port.Written (tr ++ es) = port.Written tr ++ port.Written es :=
  List.flatMap_append

theorem read_append (port : Port Input Event Item)
    (inputs more : List Input) :
    port.Read (inputs ++ more) = port.Read inputs ++ port.Read more :=
  List.flatMap_append

end Port

def Nears {α β : Type} (l : List (α ⊕ β)) : List α :=
  l.filterMap Sum.getLeft?

def Fars {α β : Type} (l : List (α ⊕ β)) : List β :=
  l.filterMap Sum.getRight?

section Sides

variable {α β : Type}

theorem nears_append (l more : List (α ⊕ β)) :
    Nears (l ++ more) = Nears l ++ Nears more :=
  List.filterMap_append

theorem fars_append (l more : List (α ⊕ β)) :
    Fars (l ++ more) = Fars l ++ Fars more :=
  List.filterMap_append

@[simp] theorem nears_inl (l : List α) :
    Nears (l.map (Sum.inl : α -> α ⊕ β)) = l := by
  rw [Nears, List.filterMap_map]
  exact List.filterMap_some

@[simp] theorem fars_inl (l : List α) :
    Fars (l.map (Sum.inl : α -> α ⊕ β)) = [] := by
  rw [Fars, List.filterMap_map]
  exact List.filterMap_eq_nil_iff.mpr (fun _ _ => rfl)

@[simp] theorem nears_inr (l : List β) :
    Nears (l.map (Sum.inr : β -> α ⊕ β)) = [] := by
  rw [Nears, List.filterMap_map]
  exact List.filterMap_eq_nil_iff.mpr (fun _ _ => rfl)

@[simp] theorem fars_inr (l : List β) :
    Fars (l.map (Sum.inr : β -> α ⊕ β)) = l := by
  rw [Fars, List.filterMap_map]
  exact List.filterMap_some

end Sides

structure Linked (Near Far Item : Type) where
  near : Near
  far : Far
  toNear : List Item
  toFar : List Item

namespace Linked

variable {Near Far Item : Type}

def Init (near : Near) (far : Far) : Linked Near Far Item where
  near := near
  far := far
  toNear := []
  toFar := []

end Linked

section Link

variable {Near Far Item NearInput NearEvent FarInput FarEvent : Type}
  [DecidableEq Item]

def LinkMachine (M : Machine Near NearInput NearEvent)
    (port : Port NearInput NearEvent Item)
    (N : Machine Far FarInput FarEvent)
    (other : Port FarInput FarEvent Item) :
    Machine (Linked Near Far Item) (NearInput ⊕ FarInput)
      (NearEvent ⊕ FarEvent) where
  Step linked i :=
    match i with
    | Sum.inl i =>
        if port.Reads i <+: linked.toNear then
          (M.Step linked.near i).map fun answer =>
            ({ linked with
                near := answer.1
                toNear := linked.toNear.drop (port.Reads i).length
                toFar := linked.toFar ++ port.Written answer.2 },
              answer.2.map Sum.inl)
        else none
    | Sum.inr i =>
        if other.Reads i <+: linked.toFar then
          (N.Step linked.far i).map fun answer =>
            ({ linked with
                far := answer.1
                toFar := linked.toFar.drop (other.Reads i).length
                toNear := linked.toNear ++ other.Written answer.2 },
              answer.2.map Sum.inr)
        else none

/-- Both machines run, and what is on the way is neither lost nor doubled. -/
structure Moves (M : Machine Near NearInput NearEvent)
    (port : Port NearInput NearEvent Item)
    (N : Machine Far FarInput FarEvent)
    (other : Port FarInput FarEvent Item) (linked next : Linked Near Far Item)
    (inputs : List (NearInput ⊕ FarInput))
    (tr : List (NearEvent ⊕ FarEvent)) : Prop where
  near : M.Run linked.near (Nears inputs) = some (next.near, Nears tr)
  far : N.Run linked.far (Fars inputs) = some (next.far, Fars tr)
  toFar : linked.toFar ++ port.Written (Nears tr) =
    other.Read (Fars inputs) ++ next.toFar
  toNear : linked.toNear ++ other.Written (Fars tr) =
    port.Read (Nears inputs) ++ next.toNear

variable {M : Machine Near NearInput NearEvent}
  {port : Port NearInput NearEvent Item} {N : Machine Far FarInput FarEvent}
  {other : Port FarInput FarEvent Item}
  {linked mid next : Linked Near Far Item}

omit [DecidableEq Item] in
theorem Moves.trans {inputs more : List (NearInput ⊕ FarInput)}
    {tr es : List (NearEvent ⊕ FarEvent)}
    (first : Moves M port N other linked mid inputs tr)
    (second : Moves M port N other mid next more es) :
    Moves M port N other linked next (inputs ++ more) (tr ++ es) where
  near := by
    rw [nears_append, nears_append]
    exact Machine.run_append first.near second.near
  far := by
    rw [fars_append, fars_append]
    exact Machine.run_append first.far second.far
  toFar := by
    rw [nears_append, fars_append, port.written_append, other.read_append,
      ← List.append_assoc, first.toFar, List.append_assoc, second.toFar,
      List.append_assoc]
  toNear := by
    rw [nears_append, fars_append, other.written_append, port.read_append,
      ← List.append_assoc, first.toNear, List.append_assoc, second.toNear,
      List.append_assoc]

theorem link_moves {i : NearInput ⊕ FarInput}
    {es : List (NearEvent ⊕ FarEvent)}
    (h : (LinkMachine M port N other).Step linked i = some (next, es)) :
    Moves M port N other linked next [i] es := by
  cases i with
  | inl i =>
      simp only [LinkMachine] at h
      split at h
      · rename_i hprefix
        rcases Option.map_eq_some_iff.mp h with ⟨⟨near, es'⟩, hstep, heq⟩
        cases heq
        rcases hprefix with ⟨rest, hrest⟩
        constructor
        · rw [nears_inl]
          exact Machine.run_singleton hstep
        · rw [fars_inl]
          rfl
        · rw [nears_inl]
          rfl
        · rw [fars_inl, ← hrest, List.drop_left, Port.Written,
            List.flatMap_nil, List.append_nil]
          simp [Nears, Port.Read]
      · cases h
  | inr i =>
      simp only [LinkMachine] at h
      split at h
      · rename_i hprefix
        rcases Option.map_eq_some_iff.mp h with ⟨⟨far, es'⟩, hstep, heq⟩
        cases heq
        rcases hprefix with ⟨rest, hrest⟩
        constructor
        · rw [nears_inr]
          rfl
        · rw [fars_inr]
          exact Machine.run_singleton hstep
        · rw [nears_inr, ← hrest, List.drop_left, Port.Written,
            List.flatMap_nil, List.append_nil]
          simp [Fars, Port.Read]
        · rw [fars_inr]
          rfl
      · cases h

/-- What each machine has read is what the other one has written, in order. -/
theorem run_moves {inputs : List (NearInput ⊕ FarInput)}
    {tr : List (NearEvent ⊕ FarEvent)}
    (hrun : (LinkMachine M port N other).Run linked inputs =
      some (next, tr)) :
    Moves M port N other linked next inputs tr := by
  induction inputs generalizing linked tr with
  | nil =>
      cases hrun
      exact ⟨rfl, rfl, List.append_nil _, List.append_nil _⟩
  | cons i rest ih =>
      rcases Machine.run_cons_eq_some.mp hrun with
        ⟨mid, es, tail, hone, hrest, rfl⟩
      exact (link_moves hone).trans (ih hrest)

end Link
end Foundation
end Wethands
