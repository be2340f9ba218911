import TerrainTiles.Proofs.Manager.Offline
import TerrainTiles.Tools

/-!
# Answers of tools

A tool that passes a request on to the manager fails with it (`run_respond_of_error`),
and answers with the message of the fault, which every form can tell
(`run_call_of_error`). What it is told otherwise it writes in the form that was asked
for (`run_call_of_ok`); either way it leaves what the request leaves.
-/

namespace TerrainTiles

theorem Response.exists_format {response : Response} (h : ∃ text, response.text = .ok text)
    (mode : String) : ∃ text, response.format mode = .ok text := by
  unfold format
  split
  · exact h
  · exact ⟨_, rfl⟩

namespace Tool

open Act

variable {tool : Tool} {call : Manager.Call} {response : Response} {fault : Fault}
  {s t : Manager × World} {mode text : String}

def request? : Tool → Option Manager.Call
  | getTile lon lat source => some (.getTile lon lat source)
  | tileInfo lon lat source => some (.tileStatus lon lat source)
  | pointElevation lon lat source interpolation => some (.getElevation lon lat source interpolation)
  | _ => none

theorem ending_eq_error {α : Type} {ended : Except Fault α × (Manager × World)}
    (h : Manager.Call.run.ending ended = (.error fault, t)) : ended = (.error fault, t) := by
  obtain ⟨_ | a, u⟩ := ended
  · cases h
    rfl
  · cases h

-- The tool asks for a known interpolation before the manager does, with the same fault.
theorem run_pointElevation_invalid {lon lat : Double} {source : Option String}
    {interpolation : String} (h : Interpolation.ofName? interpolation = none) :
    (pointElevation lon lat source interpolation).respond.run s =
        (.error (.invalidInterpolation interpolation), s) ∧
      (Manager.getElevation lon lat source interpolation).run s =
        (.error (.invalidInterpolation interpolation), s) := by
  simp [respond, Manager.getElevation, h, run_bind]

theorem respond_pointElevation {lon lat : Double} {source : Option String} {interpolation : String}
    (h : (Interpolation.ofName? interpolation).isSome) :
    (pointElevation lon lat source interpolation).respond =
      (do
        let r ← Manager.getElevation lon lat source interpolation
        return .point (pointResponse r lon lat interpolation)) := by
  obtain ⟨method, hmethod⟩ := Option.isSome_iff_exists.mp h
  simp [respond, hmethod]

theorem run_respond_of_error (hrequest : tool.request? = some call)
    (h : call.run s = (.error fault, t)) : tool.respond.run s = (.error fault, t) := by
  cases tool with
  | getTile | tileInfo =>
    cases hrequest
    exact run_bind_of_error (ending_eq_error h)
  | pointElevation lon lat source interpolation =>
    cases hrequest
    cases hmethod : Interpolation.ofName? interpolation with
    | none =>
      obtain ⟨htool, hmanager⟩ := run_pointElevation_invalid (s := s) hmethod
      cases hmanager.symm.trans (ending_eq_error h)
      exact htool
    | some method =>
      rw [respond_pointElevation (Option.isSome_of_eq_some hmethod)]
      exact run_bind_of_error (ending_eq_error h)
  | _ => cases hrequest

theorem run_call_of_error (h : tool.respond.run s = (.error fault, t)) (mode : String) :
    ∃ text, (Response.failure fault.message).format mode = .ok text ∧
      (tool.call mode).run s = (.ok text, t) := by
  have hfailure : ∃ text, (Response.failure fault.message).text = .ok text := ⟨_, rfl⟩
  obtain ⟨text, htext⟩ := Response.exists_format hfailure mode
  have hformatted : (tool.formatted mode).run s = (.error fault, t) := run_bind_of_error h
  refine ⟨text, htext, ?_⟩
  rw [Tool.call, run_bind_of_ok (run_attempt_ok.mpr hformatted)]
  dsimp only
  rw [htext]
  rfl

theorem run_call_of_ok (h : tool.respond.run s = (.ok response, t))
    (hformat : response.format mode = .ok text) : (tool.call mode).run s = (.ok text, t) := by
  have hformatted : (tool.formatted mode).run s = (.ok text, t) := by
    rw [formatted, run_bind_of_ok h, hformat]
    rfl
  rw [Tool.call, run_bind_of_ok (run_attempt_ok.mpr hformatted)]
  rfl

/-- A tile can be told in every form, since it has two extents and two elevations. -/
theorem format_tileResponse (r : TileReport) (lon lat : Double) (message mode : String) :
    ∃ text, (Response.tile (tileResponse r lon lat message)).format mode = .ok text := by
  have htext : ∃ text, (Response.tile (tileResponse r lon lat message)).text = .ok text := by
    cases h : r.available <;>
      simp [Response.text, TileResponse.text, tileResponse, h, firstTwo, bind, Except.bind, pure,
        Except.pure]
  exact Response.exists_format htext mode

end Tool

end TerrainTiles
