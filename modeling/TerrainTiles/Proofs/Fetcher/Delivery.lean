import TerrainTiles.Fetcher.Basic
import TerrainTiles.Proofs.Ftp.Transfer
import TerrainTiles.Proofs.Http.Transfer

/-!
# What a fetch delivers

Fetching records no fetch of its own and nothing that decoding would; closing
touches no file either. `Delivered` is what the two real kinds of fetchers share:
a content that came in whole from the other side while the fetch was running.
-/

namespace TerrainTiles

open Act

-- ---------------------------------------------------------------------------
-- Frames of scripts
-- ---------------------------------------------------------------------------

namespace Script

def Alike (_ _ : Script) : Prop := True

instance : IsPreorder Script Alike where
  refl _ := trivial
  trans _ _ _ _ _ := trivial

theorem keeps_takeStep : takeStep.Keeps Alike World.Quiet := by
  refine .bind .own fun script => ?_
  split
  · exact .pure _
  · exact .bind (.modifyOwn fun _ => trivial) fun _ => .pure _

theorem keeps_writeArchive (path : Path) (data : Bytes) :
    (writeArchive path data).Keeps Alike World.Onward :=
  .bind (.makeDirectories _) fun _ => .bind (.createFile path) fun _ s =>
    ⟨trivial, s.2.onward_withFiles _⟩

theorem keeps_perform (path : Path) (step : ScriptStep) :
    (perform path step).Keeps Alike World.Onward := by
  refine .bind .files fun files => .bind (.setFiles _) fun _ => ?_
  cases step.write with
  | none => exact .pure _
  | some data => exact keeps_writeArchive path data

theorem keeps_answer (path : Path) (step : ScriptStep) :
    (answer path step).Keeps Alike World.Onward := by
  unfold answer
  cases step.failure with
  | none => exact .pure _
  | some fault => exact .fail fault

theorem keeps_fetch (path : Path) : (fetch path).Keeps Alike World.Onward :=
  .bind (Keeps.onward (.emit rfl rfl)) fun _ => .bind keeps_takeStep.onward fun step =>
    .bind (keeps_perform path step) fun _ => keeps_answer path step

theorem keeps_close : close.Keeps Alike World.Quiet := by
  refine .bind (.emit rfl rfl) fun _ => .bind .own fun script => ?_
  cases script.closeFailure with
  | none => exact .pure _
  | some fault => exact .fail fault

theorem withPath_success {path value : Path} {outcome : Outcome Unit}
    (h : withPath path outcome = .success value) : value = path := by
  cases outcome with
  | success => cases h; rfl
  | _ => cases h

theorem fetch_value {s t : Script × World} {path value : Path}
    (h : (fetch path).run s = (.ok (.success value), t)) : value = path := by
  simp only [fetch, run_bind_ok] at h
  obtain ⟨_, _, -, step, _, -, _, u, -, h⟩ := h
  unfold answer at h
  cases hf : step.failure with
  | some fault => simp [hf] at h
  | none =>
    simp only [hf, run_pure, Prod.mk.injEq, Except.ok.injEq] at h
    exact withPath_success h.1

end Script

namespace Fetcher

-- ---------------------------------------------------------------------------
-- Frames
-- ---------------------------------------------------------------------------

def Alike : Fetcher → Fetcher → Prop
  | http f, http f' => f.Alike f'
  | ftp f, ftp f' => f.Alike f'
  | scripted script, scripted script' => script.Alike script'
  | _, _ => False

theorem Alike.refl (f : Fetcher) : f.Alike f := by
  cases f with
  | http f => exact Std.Refl.refl (r := Http.Fetcher.Alike) f
  | ftp f => exact Std.Refl.refl (r := Ftp.Fetcher.Alike) f
  | scripted => exact trivial

theorem Alike.trans {f f' f'' : Fetcher} (h : f.Alike f') (h' : f'.Alike f'') : f.Alike f'' := by
  cases f' with
  | http f' =>
    cases f with
    | http f =>
      cases f'' with
      | http f'' => exact IsTrans.trans (r := Http.Fetcher.Alike) _ _ _ h h'
      | _ => exact h'.elim
    | _ => exact h.elim
  | ftp f' =>
    cases f with
    | ftp f =>
      cases f'' with
      | ftp f'' => exact IsTrans.trans (r := Ftp.Fetcher.Alike) _ _ _ h h'
      | _ => exact h'.elim
    | _ => exact h.elim
  | scripted =>
    cases f with
    | scripted =>
      cases f'' with
      | scripted => exact trivial
      | _ => exact h'.elim
    | _ => exact h.elim

instance : IsPreorder Fetcher Alike where
  refl := Alike.refl
  trans _ _ _ := Alike.trans

theorem keeps_dispatch {α : Type} {onHttp : Act Http.Fetcher α} {onFtp : Act Ftp.Fetcher α}
    {onScript : Act Script α} {R : World → World → Prop}
    (hhttp : onHttp.Keeps Http.Fetcher.Alike R) (hftp : onFtp.Keeps Ftp.Fetcher.Alike R)
    (hscript : onScript.Keeps Script.Alike R) :
    (dispatch onHttp onFtp onScript).Keeps Alike R := by
  rintro ⟨f, world⟩
  cases f with
  | http f => exact hhttp (f, world)
  | ftp f => exact hftp (f, world)
  | scripted script => exact hscript (script, world)

theorem keeps_fetch (path : Path) : (fetch path).Keeps Alike World.Onward :=
  keeps_dispatch (Http.Fetcher.keeps_fetch (World.admits_onward path))
    (Ftp.Fetcher.keeps_fetch (World.admits_onward path)) (Script.keeps_fetch path)

theorem keeps_close : close.Keeps Alike World.Quiet :=
  keeps_dispatch Http.Fetcher.keeps_close Ftp.Fetcher.keeps_close Script.keeps_close

def Lasting (P : Fetcher → Prop) : Prop := ∀ f f', Alike f f' → P f → P f'

-- ---------------------------------------------------------------------------
-- Deliveries
-- ---------------------------------------------------------------------------

def isReal : Fetcher → Bool
  | scripted _ => false
  | _ => true

theorem lasting_isReal : Lasting (·.isReal) := by
  intro f f' h hreal
  cases f <;> cases f' <;> first | exact hreal | exact h.elim

/-- Between two moments the content came in whole: as the body of a response that
was taken from the channel, or by the latest transfer on the FTP connection that
is held, of the size that is listed there. -/
inductive Delivered (path : Path) (content : Bytes) : Fetcher × World → Fetcher × World → Prop where
  | response {f f' : Http.Fetcher} {before after : World} {response : Http.Response}
      (taken : .answered response :: after.replies f.channel <:+ before.replies f.channel)
      (whole : response.Whole) (body : response.chunks.flatten = content) :
      Delivered path content (.http f, before) (.http f', after)
  | transfer {f f' : Ftp.Fetcher} {before after : World} {session : Ftp.Session}
      {listing : Ftp.Listing} {c : Ftp.Connection} {new : List Event}
      (held : f'.session = some session) (listed : f'.listing = some listing)
      (latest : session.connection = some c.begun)
      (added : after.events = new ++ before.events)
      (recorded : .ftpRetrieved c.number (f.remoteFile path.name) Ftp.blockSize ∈ new)
      (whole : (c.server.transfer c.transfers (f.remoteFile path.name)).Whole listing path.name)
      (brought :
        (c.server.transfer c.transfers (f.remoteFile path.name)).chunks.flatten = content) :
      Delivered path content (.ftp f, before) (.ftp f', after)

theorem Delivered.mono {path : Path} {content : Bytes} {f f' : Fetcher}
    {before before' after after' : World} (h : Delivered path content (f, before') (f', after))
    (hbefore : ∃ new, before'.events = new ++ before.events)
    (hafter : ∃ new, after'.events = new ++ after.events)
    (hreplies : before'.replies = before.replies) (hreplies' : after'.replies = after.replies) :
    Delivered path content (f, before) (f', after') := by
  obtain ⟨new, hnew⟩ := hbefore
  obtain ⟨new', hnew'⟩ := hafter
  cases h with
  | response taken whole body =>
    exact .response (by rwa [hreplies', ← hreplies]) whole body
  | @transfer _ _ _ _ _ _ _ added held listed latest hadded recorded whole brought =>
    have hevents : after'.events = (new' ++ added ++ new) ++ before.events := by
      rw [hnew', hadded, hnew]
      simp only [List.append_assoc]
    exact .transfer held listed latest hevents (by simp [recorded]) whole brought

variable {path : Path} {t : Fetcher × World}

theorem run_fetch_http {f : Http.Fetcher} {world : World} {result : Except Fault (Outcome Path)}
    (h : (fetch path).run (.http f, world) = (result, t)) :
    ∃ u, (Http.Fetcher.fetch path).run (f, world) = (result, u) ∧ t = (.http u.1, u.2) := by
  change dispatch.lift .http ((Http.Fetcher.fetch path).run (f, world)) = _ at h
  obtain ⟨hresult, ht⟩ := Prod.ext_iff.mp h
  exact ⟨_, Prod.ext hresult rfl, ht.symm⟩

theorem run_fetch_ftp {f : Ftp.Fetcher} {world : World} {result : Except Fault (Outcome Path)}
    (h : (fetch path).run (.ftp f, world) = (result, t)) :
    ∃ u, (Ftp.Fetcher.fetch path).run (f, world) = (result, u) ∧ t = (.ftp u.1, u.2) := by
  change dispatch.lift .ftp ((Ftp.Fetcher.fetch path).run (f, world)) = _ at h
  obtain ⟨hresult, ht⟩ := Prod.ext_iff.mp h
  exact ⟨_, Prod.ext hresult rfl, ht.symm⟩

theorem fetch_value {s : Fetcher × World} {value : Path}
    (h : (fetch path).run s = (.ok (.success value), t)) : value = path := by
  obtain ⟨f, world⟩ := s
  cases f with
  | http f =>
    obtain ⟨u, hf, -⟩ := run_fetch_http h
    exact (Http.Fetcher.fetch_success hf).1
  | ftp f =>
    obtain ⟨u, hf, -⟩ := run_fetch_ftp h
    exact (Ftp.Fetcher.fetch_success hf).1
  | scripted script =>
    change dispatch.lift .scripted ((Script.fetch path).run (script, world)) = _ at h
    have hanswer : ((Script.fetch path).run (script, world)).1 = .ok (.success value) :=
      (Prod.ext_iff.mp h).1
    exact Script.fetch_value (Prod.ext hanswer rfl)

/-- A successful fetch by a real fetcher has put what was delivered at the path. -/
theorem fetch_success {s : Fetcher × World} (hreal : s.1.isReal) {value : Path}
    (h : (fetch path).run s = (.ok (.success value), t)) :
    value = path ∧ ∃ content, Delivered path content s t ∧
      t.2.files.content? path = some content := by
  obtain ⟨f, world⟩ := s
  cases f with
  | http f =>
    obtain ⟨u, hf, rfl⟩ := run_fetch_http h
    obtain ⟨rfl, response, htaken, hwhole, hcontent⟩ := Http.Fetcher.fetch_success hf
    exact ⟨rfl, _, .response htaken hwhole rfl, hcontent⟩
  | ftp f =>
    obtain ⟨u, hf, rfl⟩ := run_fetch_ftp h
    obtain ⟨rfl, session, listing, c, new, hheld, hlisting, hc, hevents, hwhole, hcontent⟩ :=
      Ftp.Fetcher.fetch_success hf
    exact ⟨rfl, _, .transfer hheld hlisting hc hevents List.mem_cons_self hwhole rfl, hcontent⟩
  | scripted => simp [isReal] at hreal

theorem fetch_unsuccessful {s : Fetcher × World} (hreal : s.1.isReal) {outcome : Outcome Path}
    (h : (fetch path).run s = (.ok outcome, t)) (hu : outcome.isSuccess = false) :
    t.2.files = s.2.files ∨ t.2.files.content? path = none := by
  obtain ⟨f, world⟩ := s
  cases f with
  | http f =>
    obtain ⟨u, hf, rfl⟩ := run_fetch_http h
    exact .inr (Http.Fetcher.fetch_unsuccessful hf hu)
  | ftp f =>
    obtain ⟨u, hf, rfl⟩ := run_fetch_ftp h
    exact Ftp.Fetcher.fetch_unsuccessful hf hu
  | scripted => simp [isReal] at hreal

end Fetcher

end TerrainTiles
