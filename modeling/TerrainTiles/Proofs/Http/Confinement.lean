import TerrainTiles.Http.Fetcher
import TerrainTiles.Proofs.World.Realm

/-!
# HTTP fetching stays in its realm

A fetcher on a channel of the realm that writes a file of the realm is confined to
it (`confined_fetch`), step by step.
-/

namespace TerrainTiles.Http.Fetcher

open Act

variable {r : Realm} {α : Type} {name : String}

def Same (r : Realm) (f f' : Fetcher) : Prop := f' = f ∧ r.lines f.channel

theorem same_map {g : Fetcher → Fetcher} (h : ∀ f, (g f).channel = f.channel) (f f' : Fetcher)
    (hsame : Same r f f') : Same r (g f) (g f') := by
  obtain ⟨rfl, hline⟩ := hsame
  exact ⟨rfl, (h _).symm ▸ hline⟩

theorem confined_ensureSession : Confined r (Same r) Eq ensureSession ensureSession := by
  refine Confined.own.bind ?_
  rintro _ _ ⟨rfl, -⟩
  split
  · exact (Confined.emit _ _).bind fun _ _ _ => .modifyOwn (same_map fun _ => rfl)
  · exact .pure rfl

theorem confined_close : Confined r (Same r) Eq close close := by
  refine Confined.own.bind ?_
  rintro _ f ⟨rfl, -⟩
  split
  · refine (Confined.emit _ _).bind fun _ _ _ => ?_
    refine .bind (.modifyOwn (same_map fun _ => rfl)) fun _ _ _ => ?_
    cases f.closings.head?.join with
    | some fault => exact .fail fault
    | none => exact .modifyOwn (same_map fun _ => rfl)
  · exact .pure rfl

theorem confined_takeReply {channel : Channel} (h : r.lines channel) :
    Confined r (Same r) Eq (takeReply channel) (takeReply channel) := by
  intro s s' hq ht
  obtain ⟨hreply, htwin, hbeside⟩ := ht.nextReply h
  exact ⟨.ok hreply.symm, hq, htwin, hbeside⟩

theorem confined_request (url : String) :
    Confined r (Same r) Eq (request url) (request url) := by
  refine Confined.own.bind ?_
  rintro _ _ ⟨rfl, hline⟩
  refine (Confined.emit _ _).bind fun _ _ _ => (confined_takeReply hline).bind ?_
  rintro reply _ rfl
  cases reply with
  | failed fault => exact .fail fault
  | answered response =>
    dsimp only
    cases response.statusFault? url with
    | some fault => exact .fail fault
    | none => exact .pure rfl

theorem confined_receive (response : Response) (hname : Path.IsEntry name) :
    Confined r (Same r) Eq (receive response (r.file name)) (receive response (r.file name)) := by
  refine (Confined.createFile hname).bind fun file file' hfile => ?_
  refine (Confined.emit _ _).bind fun _ _ _ => (Confined.writeChunks hfile _).bind fun _ _ _ => ?_
  cases response.failure with
  | some fault => exact .fail fault
  | none => exact .pure rfl

theorem confined_checkLength (response : Response) (url : String) (hname : Path.IsEntry name) :
    Confined r (Same r) Eq (checkLength response url (r.file name))
      (checkLength response url (r.file name)) := by
  unfold checkLength
  cases response.declaredLength? with
  | none => exact .pure rfl
  | some declared =>
    refine (Confined.ofExcept (.refl (fun _ => rfl) _)).bind ?_
    rintro expected _ rfl
    split
    · exact .pure rfl
    · exact (Confined.unlink hname).bind fun _ _ _ => .fail _

theorem confined_download (url : String) (hname : Path.IsEntry name) :
    Confined r (Same r) Eq (download url (r.file name)) (download url (r.file name)) := by
  refine confined_ensureSession.bind fun _ _ _ => ?_
  refine (Confined.makeDirectories name).bind fun _ _ _ => (confined_request url).bind ?_
  rintro response _ rfl
  refine (confined_receive response hname).attempt.bind ?_
  rintro _ _ (@⟨_, _, -⟩ | ⟨fault⟩)
  · exact confined_checkLength response url hname
  · exact (Confined.unlink hname).bind fun _ _ _ => .fail fault

theorem confined_withRetries {act : Act Fetcher α} (h : Confined r (Same r) Eq act act)
    (waits : List Nat) :
    Confined r (Same r) Eq (withRetries act waits) (withRetries act waits) := by
  induction waits with
  | nil => exact h
  | cons wait rest ih =>
    refine h.attempt.bind ?_
    rintro _ _ (@⟨a, _, rfl⟩ | ⟨fault⟩)
    · exact .pure rfl
    · dsimp only
      split
      · exact (Confined.emit _ _).bind fun _ _ _ => ih
      · exact .fail fault

theorem confined_fetch (hname : Path.IsEntry name) :
    Confined r (Same r) (Outcome.Gives (r.file name)) (fetch (r.file name))
      (fetch (r.file name)) := by
  refine Confined.own.bind ?_
  rintro _ _ ⟨rfl, -⟩
  refine (confined_withRetries (confined_download _ hname) waits).attempt.bind ?_
  rintro _ _ (@⟨_, _, -⟩ | ⟨fault⟩)
  · exact .pure ⟨rfl, by simp⟩
  · dsimp only
    split
    · exact (Confined.unlink hname).bind fun _ _ _ => .pure ⟨rfl, by simp⟩
    · exact .fail fault

end TerrainTiles.Http.Fetcher
