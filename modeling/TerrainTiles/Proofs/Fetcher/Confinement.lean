import TerrainTiles.Fetcher.Basic
import TerrainTiles.Proofs.Ftp.Confinement
import TerrainTiles.Proofs.Http.Confinement

/-!
# Fetching stays in its realm

A fetcher may do anything by a script, so of a scripted one it has to be said that
it writes the archive only (`ScriptStep.Local`); the others do by themselves. What a
fetcher of a realm then does at a file of the realm is confined to it
(`confined_fetch`, `confined_close`).
-/

namespace TerrainTiles

open Act

variable {r : Realm} {name : String}

structure ScriptStep.Local (step : ScriptStep) : Prop where
  nowhere : ∀ path files e, files.locate path = .error e → step.effect path files = files
  elsewhere : ∀ path files loc other, files.locate path = .ok loc → other ≠ loc →
    (step.effect path files).node? other = files.node? other
  file : ∀ path files loc, files.locate path = .ok loc →
    files.node? loc = some .directory → (step.effect path files).node? loc = some .directory
  here : ∀ path files files' loc, files.locate path = .ok loc → files'.locate path = .ok loc →
    files'.node? loc = files.node? loc →
    (step.effect path files').node? loc = (step.effect path files).node? loc

theorem ScriptStep.local_of_effect {step : ScriptStep}
    (h : ∀ path files, step.effect path files = files) : step.Local where
  nowhere path files _ _ := h path files
  elsewhere path files _ _ _ _ := by rw [h]
  file path files _ _ hd := by rwa [h]
  here path files files' _ _ _ hn := by rwa [h, h]

namespace Script

def Same (script script' : Script) : Prop :=
  script' = script ∧ ∀ step ∈ script.steps, step.Local

theorem confined_takeStep :
    Confined r Same (fun step step' => step' = step ∧ step.Local) takeStep takeStep := by
  refine Confined.own.bind ?_
  rintro script _ ⟨rfl, hlocal⟩
  split
  · exact .pure ⟨rfl, ScriptStep.local_of_effect fun _ _ => rfl⟩
  · next step rest hsteps =>
    rw [hsteps] at hlocal
    refine (Confined.modifyOwn ?_).bind fun _ _ _ => .pure ⟨rfl, hlocal step (by simp)⟩
    rintro script _ ⟨rfl, -⟩
    exact ⟨rfl, fun step' hstep => hlocal step' (List.mem_cons_of_mem _ hstep)⟩

theorem confined_effect {step : ScriptStep} (hlocal : step.Local) (hname : Path.IsEntry name) :
    Confined r Same Eq (Act.files >>= fun files => Act.setFiles (step.effect (r.file name) files))
      (Act.files >>= fun files => Act.setFiles (step.effect (r.file name) files)) := by
  intro s s' hq ht
  suffices h : r.site.Agrees r.id (step.effect (r.file name) s.2.files)
      (step.effect (r.file name) s'.2.files) ∧
      r.site.Beside r.id s.2.files (step.effect (r.file name) s.2.files) from
    ⟨.ok rfl, hq, ht.withFiles h.1, .withFiles h.2⟩
  obtain ⟨hlocate, hplace⟩ := ht.files.locate r.entry hname
  cases hl : s.2.files.locate (r.file name) with
  | error e =>
    have hl' : s'.2.files.locate (r.file name) = .error e := hlocate.trans hl
    rw [hlocal.nowhere _ _ e hl, hlocal.nowhere _ _ e hl']
    exact ⟨ht.files, .same⟩
  | ok loc =>
    obtain ⟨base, hbase, rfl⟩ := hplace loc hl
    have hl' : s'.2.files.locate (r.file name) = .ok (r.site.place base [r.id, name]) :=
      hlocate.trans hl
    have helsewhere := fun other => hlocal.elsewhere (r.file name) s.2.files _ other hl
    have helsewhere' := fun other => hlocal.elsewhere (r.file name) s'.2.files _ other hl'
    obtain ⟨leads, leads'⟩ := ht.files.leads hbase
    refine ht.files.change hbase (leads.change hl helsewhere (hlocal.file _ _ _ hl))
      (leads'.change hl' helsewhere' (hlocal.file _ _ _ hl')) ?_ helsewhere helsewhere'
    exact hlocal.here _ _ _ _ hl hl' (ht.files.node?_eq hbase [name])

theorem confined_writeArchive (hname : Path.IsEntry name) (data : Bytes) :
    Confined r Same Eq (writeArchive (r.file name) data) (writeArchive (r.file name) data) := by
  refine (Confined.makeDirectories name).bind fun _ _ _ => ?_
  exact (Confined.createFile hname).bind fun _ _ hfile => .writeTo hfile data

theorem confined_perform {step : ScriptStep} (hlocal : step.Local) (hname : Path.IsEntry name) :
    Confined r Same Eq (perform (r.file name) step) (perform (r.file name) step) := by
  have hperform : perform (r.file name) step = (Act.files >>= fun files =>
      Act.setFiles (step.effect (r.file name) files)) >>= fun _ =>
        step.write.elim (pure ()) (writeArchive (r.file name)) := by
    unfold perform
    cases step.write <;> rfl
  rw [hperform]
  refine (confined_effect hlocal hname).bind fun _ _ _ => ?_
  cases step.write with
  | some data => exact confined_writeArchive hname data
  | none => exact .pure rfl

theorem confined_answer (path : Path) (step : ScriptStep) :
    Confined r Same (Outcome.Gives path) (answer path step) (answer path step) := by
  unfold answer
  cases step.failure with
  | some fault => exact .fail fault
  | none =>
    refine .pure ⟨rfl, fun found h => ?_⟩
    cases hout : step.outcome <;> simp_all [withPath]

theorem confined_fetch (hname : Path.IsEntry name) :
    Confined r Same (Outcome.Gives (r.file name)) (fetch (r.file name)) (fetch (r.file name)) := by
  refine (Confined.emit _ _).bind fun _ _ _ => confined_takeStep.bind ?_
  rintro _ step ⟨rfl, hlocal⟩
  exact (confined_perform hlocal hname).bind fun _ _ _ => confined_answer _ step

theorem confined_close : Confined r Same Eq close close := by
  refine (Confined.emit _ _).bind fun _ _ _ => Confined.own.bind ?_
  rintro _ script ⟨rfl, -⟩
  cases script.closeFailure with
  | some fault => exact .fail fault
  | none => exact .pure rfl

end Script

namespace Fetcher

variable {α : Type} {V : α → α → Prop}

inductive Same (r : Realm) : Fetcher → Fetcher → Prop
  | http {f f' : Http.Fetcher} (h : Http.Fetcher.Same r f f') : Same r (.http f) (.http f')
  | ftp {f f' : Ftp.Fetcher} (h : Ftp.Fetcher.Same r f f') : Same r (.ftp f) (.ftp f')
  | scripted {s s' : Script} (h : Script.Same s s') : Same r (.scripted s) (.scripted s')

/-- On these channels only; a scripted one writes the archive it is asked for only. -/
def Within (lines : Channel → Prop) : Fetcher → Prop
  | http f => lines f.channel
  | ftp f => lines f.channel ∧ ∀ session ∈ f.session, lines session.channel
  | scripted script => ∀ step ∈ script.steps, step.Local

theorem Within.same {fetcher : Fetcher} (h : fetcher.Within r.lines) :
    Same r fetcher fetcher := by
  cases fetcher with
  | http f => exact .http ⟨rfl, h⟩
  | ftp f =>
    refine .ftp ⟨?_, h.1⟩
    cases hsession : f.session with
    | none => exact .none
    | some session =>
      have hconnection : Option.Rel Ftp.Connection.Same session.connection session.connection := by
        cases session.connection with
        | none => exact .none
        | some c => exact .some ⟨rfl, rfl⟩
      exact .some ⟨hconnection, h.2 session hsession⟩
  | scripted script => exact .scripted ⟨rfl, h⟩

theorem confined_dispatch {onHttp : Act Http.Fetcher α} {onFtp : Act Ftp.Fetcher α}
    {onScript : Act Script α} (hhttp : Confined r (Http.Fetcher.Same r) V onHttp onHttp)
    (hftp : Confined r (Ftp.Fetcher.Same r) V onFtp onFtp)
    (hscript : Confined r Script.Same V onScript onScript) :
    Confined r (Same r) V (dispatch onHttp onFtp onScript) (dispatch onHttp onFtp onScript) := by
  rintro ⟨_, world⟩ ⟨_, world'⟩ hq ht
  cases hq with
  | http h =>
    obtain ⟨hends, hown, htwin, hbeside⟩ := hhttp (_, world) (_, world') h ht
    exact ⟨hends, .http hown, htwin, hbeside⟩
  | ftp h =>
    obtain ⟨hends, hown, htwin, hbeside⟩ := hftp (_, world) (_, world') h ht
    exact ⟨hends, .ftp hown, htwin, hbeside⟩
  | scripted h =>
    obtain ⟨hends, hown, htwin, hbeside⟩ := hscript (_, world) (_, world') h ht
    exact ⟨hends, .scripted hown, htwin, hbeside⟩

theorem confined_fetch (hname : Path.IsEntry name) :
    Confined r (Same r) (Outcome.Gives (r.file name)) (fetch (r.file name))
      (fetch (r.file name)) :=
  confined_dispatch (Http.Fetcher.confined_fetch hname) (Ftp.Fetcher.confined_fetch hname)
    (Script.confined_fetch hname)

theorem confined_close : Confined r (Same r) Eq close close :=
  confined_dispatch Http.Fetcher.confined_close Ftp.Fetcher.confined_close Script.confined_close

end Fetcher

end TerrainTiles
