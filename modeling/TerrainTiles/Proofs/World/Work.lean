import TerrainTiles.Proofs.World.Log

/-!
# Fetches and decodes

`World.work` lists the fetches and the decodes that were recorded between two
moments, in the order they happened. A step outside a descriptor's own adds nothing
to it (`Onward.work_eq_nil`).
-/

namespace TerrainTiles

def Event.isWork (event : Event) : Bool := event.isFetch || event.isDecode

namespace World

def work (before after : World) : List Event :=
  ((after.events.take (after.events.length - before.events.length)).filter Event.isWork).reverse

variable {before after later : World} {p : Event → Prop}

theorem work_eq_filter (before after : World) :
    work before after = (since before after).filter Event.isWork := by
  rw [work, since, List.filter_reverse]

theorem work_trans (h : before.events <:+ after.events) (h' : after.events <:+ later.events) :
    work before later = work before after ++ work after later := by
  simp only [work_eq_filter, since_trans h h', List.filter_append]

theorem Records.of_mem_work (h : Records p before after) {event : Event}
    (he : event ∈ work before after) : p event ∧ event.isWork := by
  rw [work_eq_filter, List.mem_filter] at he
  exact ⟨h.of_mem_since he.1, he.2⟩

theorem work_of_events_eq (h : after.events = before.events) : work before after = [] := by
  rw [work_eq_filter, since_of_events_eq h, List.filter_nil]

@[simp] theorem work_self (world : World) : work world world = [] := work_of_events_eq rfl

theorem work_record (world : World) {event : Event} (h : event.isWork) :
    work world (world.record event) = [event] := by
  rw [work_eq_filter, since_record List.suffix_rfl, since_self, List.nil_append,
    List.filter_cons_of_pos h, List.filter_nil]

theorem Onward.work_eq_nil (h : Onward before after) : work before after = [] := by
  refine List.eq_nil_iff_forall_not_mem.mpr fun event he => ?_
  obtain ⟨⟨hfetch, hdecode⟩, hwork⟩ := h.events.of_mem_work he
  simp [Event.isWork, hfetch, hdecode] at hwork

end World

end TerrainTiles
