import TerrainTiles.Proofs.Manager.Tracking
import TerrainTiles.Proofs.Source.Coverage
import TerrainTiles.Proofs.Tools

/-!
# Requests that are refused

A request is refused for a source that does not exist, a point that the source does not
cover or an interpolation that is not known (`Call.Refused`), and only then
(`refused_iff`). All of this is decided before the first step with an effect: in every
state and every world the request ends with the fault, and both are as before
(`refused_unchanged`). The worlds differ in all that can be read, so nothing of them was
looked at either. A tool answers with the fault's message.
-/

namespace TerrainTiles

theorem Interpolation.ofName?_eq_none {name : String} :
    ofName? name = none ↔ name ∉ interpolationNames := by
  simp only [ofName?, List.find?_eq_none, decide_eq_true_eq]
  simp [interpolationNames, Interpolation.name, @eq_comm _ name]

namespace Manager

open Act

variable {m : Manager} {settings : Settings} {name : String} {lon lat : Double} {call : Call}
  {fault : Fault}

-- ---------------------------------------------------------------------------
-- Reasons
-- ---------------------------------------------------------------------------

inductive Refuses (name : String) (lon lat : Double) : Fault → Prop
  | unknown (h : name ∉ sourceNames) : Refuses name lon lat (.unknownSource name)
  | outside {source : Source} (hsource : source ∈ Source.all) (hname : source.id = name)
      (h : ¬source.bounds.Encloses lon lat) :
      Refuses name lon lat (.outsideCoverage source.name lon lat)

inductive Call.Refused (settings : Settings) : Call → Fault → Prop
  | method {lon lat : Double} {source : Option String} {method : String}
      (h : method ∉ interpolationNames) :
      Refused settings (getElevation lon lat source method) (.invalidInterpolation method)
  | place {call : Call} {name : String} {lon lat : Double} {fault : Fault}
      (hplace : call.place? settings = some (name, lon, lat)) (h : Refuses name lon lat fault) :
      Refused settings call fault

theorem find_of_not_mem (h : name ∉ sourceNames) :
    Source.find name = .error (.unknownSource name) := by
  cases hfind : Source.find name with
  | ok source =>
    obtain ⟨hsource, rfl⟩ := Source.find_eq_ok hfind
    exact absurd (Source.map_id_all ▸ List.mem_map_of_mem hsource) h
  | error fault =>
    unfold Source.find at hfind
    split at hfind
    · cases hfind
    · cases hfind
      rfl

theorem keyAt_of_refuses (h : Refuses name lon lat fault) : keyAt name lon lat = none := by
  cases h with
  | unknown h =>
    rw [keyAt, find_of_not_mem h]
    rfl
  | outside hsource hname h =>
    subst hname
    rw [keyAt, Source.find_id hsource, Except.toOption, Option.bind_some,
      Source.tileName_of_not_encloses hsource h, Except.toOption, Option.map_none]

theorem exists_refuses (h : keyAt name lon lat = none) : ∃ fault, Refuses name lon lat fault := by
  by_cases hname : name ∈ sourceNames
  · rw [← Source.map_id_all] at hname
    obtain ⟨source, hsource, hid⟩ := List.mem_map.mp hname
    refine ⟨_, .outside hsource hid fun hin => ?_⟩
    have hindex := Source.index_of_encloses hsource hin
    rw [keyAt_eq_some.mpr ⟨source, hsource, hid, _, hindex, rfl⟩] at h
    cases h
  · exact ⟨_, .unknown hname⟩

theorem refused_iff (hrequest : ∀ source, call ≠ .release source) :
    (∃ fault, call.Refused settings fault) ↔ call.key? settings = none := by
  constructor
  · rintro ⟨fault, h⟩
    cases h with
    | method h => simp [Call.key?, Call.place?, Interpolation.ofName?_eq_none.mpr h]
    | place hplace h => simp [Call.key?, hplace, keyAt_of_refuses h]
  · intro hkey
    cases hplace : call.place? settings with
    | some place =>
      obtain ⟨name, lon, lat⟩ := place
      rw [Call.key?, hplace] at hkey
      obtain ⟨fault, h⟩ := exists_refuses hkey
      exact ⟨fault, .place hplace h⟩
    | none =>
      cases call with
      | getElevation lon lat source method =>
        refine ⟨_, .method (Interpolation.ofName?_eq_none.mp ?_)⟩
        simpa [Call.place?] using hplace
      | release source => exact absurd rfl (hrequest source)
      | _ => cases hplace

theorem run_descriptorFor_of_refuses (h : Refuses name lon lat fault) (m : Manager)
    (world : World) : (descriptorFor name lon lat).run (m, world) = (.error fault, m, world) := by
  cases h with
  | unknown h =>
    unfold descriptorFor
    rw [find_of_not_mem h]
    exact run_bind_of_error (run_ofExcept (.error _) _)
  | outside hsource hname h =>
    subst hname
    rw [run_descriptorFor_of_mem hsource, Source.tileName_of_not_encloses hsource h]

theorem kind_of_refused (h : call.Refused settings fault) : fault.kind = .value := by
  cases h with
  | method => rfl
  | place _ h =>
    cases h with
    | unknown | outside => rfl

/-- A request that has to find a descriptor first ends where there is none to find. -/
theorem run_request_of_refuses {α : Type} {choice : Option String}
    (h : Refuses (m.effective choice) lon lat fault) (next : String → Nat → Act Manager α)
    (world : World) :
    (chooseSource choice >>= fun name => descriptorFor name lon lat >>= next name).run (m, world) =
      (.error fault, m, world) := by
  rw [run_bind_of_ok (run_chooseSource m choice world),
    run_bind_of_error (run_descriptorFor_of_refuses h m world)]

theorem run_getElevation_of_method {choice : Option String} {method : String}
    (h : method ∉ interpolationNames) (lon lat : Double) (m : Manager) (world : World) :
    (getElevation lon lat choice method).run (m, world) =
      (.error (.invalidInterpolation method), m, world) := by
  have hnone : (Interpolation.ofName? method).isNone = true := by
    rw [Interpolation.ofName?_eq_none.mpr h]
    rfl
  unfold getElevation
  rw [if_pos hnone]
  rfl

theorem run_of_refused (h : call.Refused m.settings fault) (world : World) :
    call.run (m, world) = (.error fault, m, world) := by
  cases h with
  | method h =>
    rw [Call.run, run_getElevation_of_method h]
    rfl
  | place hplace h =>
    cases call with
    | getTile lon lat choice =>
      cases hplace
      rw [Call.run, getTile]
      exact congrArg Call.run.ending (run_request_of_refuses (m := m) h _ world)
    | tileStatus lon lat choice =>
      cases hplace
      rw [Call.run, tileStatus]
      exact congrArg Call.run.ending (run_request_of_refuses (m := m) h _ world)
    | getElevation lon lat choice method =>
      simp only [Call.place?] at hplace
      split at hplace
      · cases hplace
      · next hmethod =>
        cases hplace
        rw [Call.run, getElevation, if_neg hmethod]
        exact congrArg Call.run.ending (run_request_of_refuses (m := m) h _ world)
    | descriptor source lon lat =>
      cases hplace
      rw [Call.run, run_descriptorFor_of_refuses h]
      rfl
    | release => cases hplace

/-- A call that is refused ends with the fault and changes nothing, whatever the world. -/
theorem refused_unchanged (h : call.Refused m.settings fault) :
    fault.kind = .value ∧ ∀ world, call.run (m, world) = (.error fault, m, world) ∧
      ∀ tool mode, Tool.request? tool = some call →
        ∃ text, (Response.failure fault.message).format mode = .ok text ∧
          (tool.call mode).run (m, world) = (.ok text, m, world) := by
  refine ⟨kind_of_refused h, fun world => ?_⟩
  have hrun := run_of_refused h world
  exact ⟨hrun, fun tool mode hrequest =>
    Tool.run_call_of_error (Tool.run_respond_of_error hrequest hrun) mode⟩

/-- No source covers a point without a longitude. -/
theorem refused_unchanged_nan :
    let world : World := { files := .empty, decoder := .scripted [] (.ok none) }
    ∃ (fault : Fault) (text : String), (Response.failure fault.message).format "json" = .ok text ∧
      ((Tool.getTile .nan 46 (some "srtm3")).call "json").run (ofSettings unreachable, world) =
        (.ok text, ofSettings unreachable, world) := by
  intro world
  have hout : ¬Source.srtm3.bounds.Encloses .nan 46 := by
    rintro ⟨⟨_, hunits, -⟩, -⟩
    cases hunits
  have hrefused : Call.Refused unreachable (.getTile .nan 46 (some "srtm3")) _ :=
    .place rfl (.outside (by simp [Source.all]) rfl hout)
  obtain ⟨-, hrun⟩ := refused_unchanged (m := ofSettings unreachable) hrefused
  obtain ⟨text, htext, hcall⟩ := (hrun world).2 (.getTile .nan 46 (some "srtm3")) "json" rfl
  exact ⟨_, text, htext, hcall⟩

end Manager

end TerrainTiles
