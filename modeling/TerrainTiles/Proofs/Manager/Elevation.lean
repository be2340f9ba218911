import TerrainTiles.Proofs.Json.Number
import TerrainTiles.Proofs.Manager.Status
import TerrainTiles.Proofs.Manager.Stock
import TerrainTiles.Proofs.Raster.Overflow

/-!
# The elevation at a point

An elevation is a sample of a tile that is cached afterwards (`getElevation_ok`), and the
tool says that there is one unless the sample is not-a-number. In JSON an infinite sample
becomes null as well, so what the tool says and what it shows agree exactly if the sample
is not infinite (`elevation_shown_iff`). Rasters of integers have no infinite samples, and
neither have others whose cells are moderate.
-/

namespace TerrainTiles

namespace Tool

variable {r : PointReport} {lon lat x : Double} {method : String}

theorem elevation_pointResponse
    (h : (pointResponse r lon lat method).elevation = some x) :
    x = r.elevation ∧ x.isNaN = false := by
  unfold pointResponse at h
  dsimp only at h
  split at h
  · next hnan =>
    cases h
    simp only [Bool.and_eq_true, Bool.not_eq_true'] at hnan
    exact ⟨rfl, hnan.2⟩
  · cases h

/-- What is said to be available is shown as a number, unless it is infinite. -/
theorem shown_iff (r : PointReport) (lon lat : Double) (method : String) :
    let p := pointResponse r lon lat method
    (p.available = true ↔ (Json.ofOption .real p.elevation).IsNumber) ↔
      ∀ negative, p.elevation ≠ some (.infinite negative) := by
  intro p
  have havailable : p.available = p.elevation.isSome := rfl
  have hnan : ∀ x, p.elevation = some x → x.isNaN = false := fun x h =>
    (elevation_pointResponse h).2
  rw [havailable, Json.isNumber_ofOption_iff]
  generalize p.elevation = elevation at hnan ⊢
  cases elevation with
  | none => simp
  | some x =>
    cases x with
    | nan => exact absurd (hnan _ rfl) Bool.noConfusion
    | infinite negative => simp [Binary.isFinite]
    | finite negative units hunits => simp [Binary.isFinite]

theorem getElevation_of_respond {choice : Option String} {s t : Manager × World}
    {p : PointResponse}
    (h : (pointElevation lon lat choice method).respond.run s = (.ok (.point p), t)) :
    ∃ r, (Manager.getElevation lon lat choice method).run s = (.ok r, t) ∧
      pointResponse r lon lat method = p := by
  cases hmethod : Interpolation.ofName? method with
  | none => cases (run_pointElevation_invalid hmethod).1.symm.trans h
  | some known =>
    rw [respond_pointElevation (Option.isSome_of_eq_some hmethod)] at h
    obtain ⟨r, u, hget, htold⟩ := Act.run_bind_ok.mp h
    cases htold
    exact ⟨r, hget, rfl⟩

def pointTold (tool : Tool) (s : Manager × World) : Option PointResponse :=
  match (tool.respond.run s).1 with
  | .ok (.point p) => some p
  | _ => none

theorem respond_of_pointTold {tool : Tool} {s : Manager × World} {p : PointResponse}
    (h : tool.pointTold s = some p) : ∃ t, tool.respond.run s = (.ok (.point p), t) := by
  unfold pointTold at h
  split at h
  · next q hq =>
    cases h
    exact ⟨_, Prod.ext hq rfl⟩
  · cases h

end Tool

namespace Manager

open Act

variable {m : Manager} {world : World} {choice : Option String} {lon lat : Double}
  {method : String} {r : PointReport} {t : Manager × World}

/-- An elevation that is not void is a sample of a tile that is now cached. -/
theorem getElevation_ok (h : (getElevation lon lat choice method).run (m, world) = (.ok r, t))
    (hnan : r.elevation.isNaN = false) :
    ∃ d ∈ t.1.pool, ∃ loan grid, d.cached = some loan ∧ loan.tile.grid = some grid ∧
      grid.sample loan.tile.transform lon lat method = .ok r.elevation := by
  unfold getElevation at h
  split at h
  · cases h
  · obtain ⟨name, ⟨m₁, world₁⟩, -, h⟩ := run_bind_ok.mp h
    obtain ⟨id, ⟨m₂, world₂⟩, -, h⟩ := run_bind_ok.mp h
    obtain ⟨loan, ⟨m₃, world₃⟩, hacquire, h⟩ := run_bind_ok.mp h
    cases hd : m₂.pool[id]? with
    | none =>
      rw [acquire, run_bind, run_attempt, run_onDescriptor_missing hd] at hacquire
      cases hacquire
    | some d =>
      obtain ⟨d', rfl, hcached, -⟩ := acquire_ok hd hacquire
      have hd' : (m₂.pool.set id d')[id]? = some d' :=
        List.getElem?_set_self (List.getElem?_eq_some_iff.mp hd).1
      rw [run_bind, run_descriptor, hd'] at h
      dsimp only at h
      split at h
      · cases h
        cases hnan
      · next grid transform hloan =>
        obtain ⟨lent, rfl, hgrid⟩ := Option.bind_eq_some_iff.mp hloan
        obtain ⟨found, hfound, hpair⟩ := Option.map_eq_some_iff.mp hgrid
        cases hpair
        obtain ⟨elevation, u, hrun, h⟩ := run_bind_ok.mp h
        rw [run_ofExcept] at hrun
        obtain ⟨hsample, hworld⟩ := Prod.mk.inj hrun
        cases h
        refine ⟨d', ?_, lent, grid, hcached, hfound, hsample⟩
        rw [← hworld]
        exact List.mem_of_getElem? hd'

/-- The decoder of rasters of integers, or of reals that are moderate, makes moderate tiles. -/
theorem makes_moderate {read? : Bytes → Option Raster} {unpacker : Archive.Unpacker}
    {decode : Reader} (hdecode : Decoder.ofRasters read? unpacker = .deterministic decode)
    (h : ∀ data raster, read? data = some raster → ∀ x ∈ raster.cells,
      raster.type.Holds x ∧ (raster.type.bounds? = none → Sample.IsModerate x)) :
    Makes decode Tile.IsModerate := by
  intro data name tile htile
  obtain ⟨raster, hread, hraster⟩ := Decoder.exists_raster hdecode htile
  refine Raster.isModerate_decode (fun x hx => ?_) hraster
  obtain ⟨hholds, hreal⟩ := h data raster hread x hx
  cases hbounds : raster.type.bounds? with
  | none => exact hreal hbounds
  | some bounds => exact Raster.isModerate_of_holds hholds (Option.isSome_of_eq_some hbounds)

theorem elevation_ne_infinite {decode : Reader}
    (hmakes : Makes decode Tile.IsModerate) (hstocked : Stocked decode Tile.IsModerate (m, world))
    (h : (getElevation lon lat choice method).run (m, world) = (.ok r, t)) (negative : Bool) :
    r.elevation ≠ .infinite negative := by
  intro hinfinite
  obtain ⟨d, hd, loan, grid, hcached, hgrid, hsample⟩ := getElevation_ok h (by rw [hinfinite]; rfl)
  have hafter := hstocked.call hmakes (.getElevation lon lat choice method)
  rw [show (Call.run (.getElevation lon lat choice method) (m, world)).2 = t from
    congrArg Prod.snd h] at hafter
  have hsettled := Sample.isSettled_sample (hafter.cached d hd loan hcached grid hgrid) hsample
  rw [hinfinite] at hsettled
  rcases hsettled with hnan | hfinite
  · cases hnan
  · cases hfinite

/-- After any requests and releases, and whatever the decoder gives: an elevation that is
said to be available is shown as a number in JSON, and another is not, exactly if the
elevation is not infinite. So this always holds with rasters of integers, and with others
whose cells are moderate. -/
theorem elevation_shown_iff (settings : Settings) (world : World) (steps : List Step)
    {p : PointResponse} {mode : String} :
    let s := afterSteps steps { manager := ofSettings settings, world }
    let tool := Tool.pointElevation lon lat choice method
    tool.respond.run (s.manager, s.world) = (.ok (.point p), t) → mode ≠ "text" →
      ∃ members elevation, (tool.call mode).run (s.manager, s.world) =
          (.ok (Json.object members).text, t) ∧
        members.lookup "elevation_m" = some elevation ∧
        members.lookup "available" = some (.bool p.available) ∧
        ((p.available = true ↔ elevation.IsNumber) ↔
          ∀ negative, p.elevation ≠ some (.infinite negative)) ∧
        ∀ read? unpacker, world.decoder = .ofRasters read? unpacker →
          (∀ data raster, read? data = some raster → ∀ x ∈ raster.cells,
            raster.type.Holds x ∧ (raster.type.bounds? = none → Sample.IsModerate x)) →
          (p.available = true ↔ elevation.IsNumber) := by
  intro s tool hrespond hmode
  have hformat : ∃ members, (Response.point p).format mode = .ok (Json.object members).text ∧
      members.lookup "elevation_m" = some (Json.ofOption .real p.elevation) ∧
      members.lookup "available" = some (.bool p.available) := by
    refine ⟨_, by rw [Response.format, if_neg hmode]; rfl, rfl, rfl⟩
  obtain ⟨members, htext, helevation, havailable⟩ := hformat
  obtain ⟨r, hget, rfl⟩ := Tool.getElevation_of_respond hrespond
  have hshown := Tool.shown_iff r lon lat method
  refine ⟨members, _, Tool.run_call_of_ok hrespond htext, helevation, havailable, hshown, ?_⟩
  intro read? unpacker hdecoder hrasters
  obtain ⟨decode, hdecode⟩ : ∃ decode, Decoder.ofRasters read? unpacker = .deterministic decode :=
    ⟨_, rfl⟩
  have hmakes := makes_moderate hdecode hrasters
  have hstocked : Stocked decode Tile.IsModerate (s.manager, s.world) :=
    stocked_afterSteps hmakes (stocked_start settings (hdecoder.trans hdecode)) steps
  refine hshown.mpr fun negative hinfinite => ?_
  exact elevation_ne_infinite hmakes hstocked hget negative
    (Tool.elevation_pointResponse hinfinite).1.symm

def plateau (type : CellType) (height : Double) : Raster :=
  ⟨type, [[height]], none, ⟨5, 0, 5, 0, -5, 50⟩, none⟩

def flat (type : CellType) (height : Double) : World :=
  { provided with decoder := .ofRasters fun _ => some (plateau type height) }

def onPlateau : Tool := .pointElevation 7 46 none "nearest"

/-- A height of 250 metres is available and shown. -/
theorem elevation_shown_plateau : ∃ members elevation t,
    (onPlateau.call "json").run (ofSettings unreachable, flat .int16 250) =
      (.ok (Json.object members).text, t) ∧
    members.lookup "available" = some (.bool true) ∧
    members.lookup "elevation_m" = some elevation ∧ elevation.IsNumber := by
  have htold : (onPlateau.pointTold (ofSettings unreachable, flat .int16 250)).map
      (·.available) = some true := by decide +kernel
  obtain ⟨p, hp, havailable⟩ := Option.map_eq_some_iff.mp htold
  obtain ⟨t, hrespond⟩ := Tool.respond_of_pointTold hp
  obtain ⟨members, elevation, hcall, helevation, htrue, -, hshown⟩ :=
    elevation_shown_iff unreachable (flat .int16 250) [] hrespond (by decide : "json" ≠ "text")
  refine ⟨members, elevation, t, hcall, havailable ▸ htrue, helevation, ?_⟩
  refine (hshown (fun _ => some (plateau .int16 250)) .plain rfl fun data raster hraster x hx => ?_).mp
    havailable
  cases hraster
  have hcell : x = .ofInt 250 := List.mem_singleton.mp hx
  refine ⟨⟨250, by decide, by decide, hcell⟩, fun hreal => by cases hreal⟩

/-- An infinite height is available as well, and shown as null. -/
theorem elevation_hidden_plateau : ∃ p members t,
    onPlateau.respond.run (ofSettings unreachable, flat .float32 (.infinite false)) =
      (.ok (.point p), t) ∧
    (onPlateau.call "json").run (ofSettings unreachable, flat .float32 (.infinite false)) =
      (.ok (Json.object members).text, t) ∧
    members.lookup "available" = some (.bool true) ∧
    members.lookup "elevation_m" = some (.real (.infinite false)) ∧
    ¬(Json.real (.infinite false)).IsNumber := by
  have htold : (onPlateau.pointTold
      (ofSettings unreachable, flat .float32 (.infinite false))).map
        (fun p => (p.available, p.elevation)) = some (true, some (.infinite false)) := by
    decide +kernel
  obtain ⟨p, hp, hfields⟩ := Option.map_eq_some_iff.mp htold
  obtain ⟨havailable, helevation⟩ := Prod.mk.inj hfields
  obtain ⟨t, hrespond⟩ := Tool.respond_of_pointTold hp
  refine ⟨p, _, t, hrespond, Tool.run_call_of_ok hrespond rfl, ?_, ?_, ?_⟩
  · exact congrArg (fun b => some (Json.bool b)) havailable
  · exact congrArg (fun x => some (Json.ofOption .real x)) helevation
  · simp [Json.isNumber_real_iff, Binary.isFinite]

end Manager

end TerrainTiles
