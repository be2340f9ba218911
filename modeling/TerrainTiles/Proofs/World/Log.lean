import TerrainTiles.Proofs.World.Frame
import Mathlib.Data.List.Basic

/-!
# What was recorded since a moment

`World.since` lists what was recorded between two moments in the order it happened.
What happened up to a later moment is what happened up to an earlier one and since
then (`since_trans`).

Runs are taken apart at their last step: where a run is cut, the last step is the one
it is cut at or comes after it (`concat_eq_append`).
-/

namespace TerrainTiles

theorem concat_eq_append {α : Type} {row before after : List α} {last a : α}
    (h : row ++ [last] = before ++ a :: after) :
    (after = [] ∧ row = before ∧ last = a) ∨
      ∃ between, after = between ++ [last] ∧ row = before ++ a :: between := by
  rcases List.eq_nil_or_concat' after with rfl | ⟨between, final, rfl⟩
  · obtain ⟨hrow, hlast⟩ := List.append_inj' h rfl
    exact .inl ⟨rfl, hrow, List.singleton_inj.mp hlast⟩
  · rw [← List.cons_append, ← List.append_assoc] at h
    obtain ⟨hrow, hlast⟩ := List.append_inj' h rfl
    exact .inr ⟨between, by rw [hlast], hrow⟩

namespace World

/-- What was recorded between two moments, the first event first. -/
def since (before after : World) : List Event :=
  (after.events.take (after.events.length - before.events.length)).reverse

variable {before after later : World} {p : Event → Prop}

theorem since_eq {new : List Event} (h : after.events = new ++ before.events) :
    since before after = new.reverse := by
  have htake : after.events.take (after.events.length - before.events.length) = new := by
    simp [h]
  rw [since, htake]

theorem since_of_events_eq (h : after.events = before.events) : since before after = [] :=
  since_eq (h.trans (List.nil_append _).symm)

@[simp] theorem since_self (world : World) : since world world = [] := since_of_events_eq rfl

theorem Records.suffix (h : Records p before after) : before.events <:+ after.events := by
  obtain ⟨new, hnew, -⟩ := h
  exact ⟨new, hnew.symm⟩

theorem since_trans (h : before.events <:+ after.events) (h' : after.events <:+ later.events) :
    since before later = since before after ++ since after later := by
  obtain ⟨new, hnew⟩ := h
  obtain ⟨new', hnew'⟩ := h'
  have hlater : later.events = (new' ++ new) ++ before.events := by
    rw [← hnew', ← hnew, List.append_assoc]
  rw [since_eq hlater, since_eq hnew.symm, since_eq hnew'.symm, List.reverse_append]

theorem events_record (world : World) (event : Event) :
    (world.record event).events = event :: world.events := rfl

theorem since_record (h : before.events <:+ after.events) (event : Event) :
    since before (after.record event) = since before after ++ [event] := by
  obtain ⟨new, hnew⟩ := h
  have hrecord : (after.record event).events = (event :: new) ++ before.events := by
    simp [record, ← hnew]
  rw [since_eq hrecord, since_eq hnew.symm, List.reverse_cons]

theorem Records.of_mem_since (h : Records p before after) {event : Event}
    (he : event ∈ since before after) : p event := by
  obtain ⟨new, hnew, hp⟩ := h
  rw [since_eq hnew, List.mem_reverse] at he
  exact hp event he

end World

end TerrainTiles
