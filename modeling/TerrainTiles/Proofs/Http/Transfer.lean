import TerrainTiles.Http.Fetcher
import TerrainTiles.Proofs.World.Frame

/-!
# What an HTTP fetch leaves

An attempt that succeeds used up a whole response and left its body at the path
(`download_ok`); of several attempts it is the last one that counts
(`withRetries_ok`). So a successful fetch leaves the body of the last response it
took (`fetch_success`), and one that ends otherwise leaves no file
(`fetch_unsuccessful`). A fetch that fails may leave anything.
-/

namespace TerrainTiles.Http

open Act
open FileSystem (holds_create)

/-- A body that arrived as it was declared: nothing broke it off, and it has the length
that the headers give it if it is not encoded. -/
structure Response.Whole (response : Response) : Prop where
  unbroken : response.failure = none
  measured : ∀ text, response.header? "Content-Length" = some text → response.Unencoded →
    Text.readInteger text = .ok response.chunks.flatten.length

namespace Fetcher

variable {s t : Fetcher × World} {url : String} {path : Path} {response : Response}

structure Alike (f f' : Fetcher) : Prop where
  same : f' = { f with isOpen := f'.isOpen, closings := f'.closings }
  closings : f'.closings <:+ f.closings

instance : IsPreorder Fetcher Alike where
  refl _ := ⟨rfl, List.suffix_rfl⟩
  trans f f' f'' h h' := ⟨by rw [h'.same, h.same], h'.closings.trans h.closings⟩

-- ---------------------------------------------------------------------------
-- Frames
-- ---------------------------------------------------------------------------

theorem keeps_ensureSession : ensureSession.Keeps Alike World.Quiet := by
  refine .bind .own fun fetcher => ?_
  split
  · exact .bind (.emit rfl rfl) fun _ => .modifyOwn fun _ => ⟨rfl, List.suffix_rfl⟩
  · exact .pure _

theorem keeps_close : close.Keeps Alike World.Quiet := by
  refine .bind .own fun fetcher => ?_
  split
  · refine .bind (.emit rfl rfl) fun _ =>
      .bind (.modifyOwn fun f => ⟨rfl, f.closings.tail_suffix⟩) fun _ => ?_
    split
    · exact .fail _
    · exact .modifyOwn fun _ => ⟨rfl, List.suffix_rfl⟩
  · exact .pure _

theorem keeps_takeReply (channel : Channel) :
    (takeReply channel).Keeps Alike World.Quiet :=
  fun s => ⟨Std.Refl.refl s.1, s.2.quiet_nextReply channel⟩

theorem keeps_request (url : String) : (request url).Keeps Alike World.Quiet := by
  refine .bind .own fun fetcher => .bind (.emit rfl rfl) fun _ =>
    .bind (keeps_takeReply _) fun reply => ?_
  cases reply with
  | failed fault => exact .fail fault
  | answered response =>
    dsimp only
    split
    · exact .fail _
    · exact .pure _

variable {R : World → World → Prop} [IsPreorder World R]

theorem keeps_receive (h : World.Admits path R) (response : Response) :
    (receive response path).Keeps Alike R := by
  refine h.store (.emit rfl rfl) fun _ => ?_
  split
  · exact .fail _
  · exact .pure _

theorem keeps_checkLength (h : World.Admits path R) (response : Response) (url : String) :
    (checkLength response url path).Keeps Alike R := by
  unfold checkLength
  dsimp only
  split
  · exact .pure _
  · refine .bind (.ofExcept _) fun expected => ?_
    split
    · exact .pure _
    · exact .bind h.unlinks fun _ => .fail _

theorem keeps_download (h : World.Admits path R) (url : String) :
    (download url path).Keeps Alike R := by
  refine .bind (h.quietly keeps_ensureSession) fun _ => .bind h.makeDirectories fun _ =>
    .bind (h.quietly (keeps_request url)) fun response =>
    .bind (.attempt (keeps_receive h response)) fun result => ?_
  cases result with
  | ok => exact keeps_checkLength h response url
  | error fault => exact .bind h.unlinks fun _ => .fail fault

theorem keeps_withRetries {α : Type} {act : Act Fetcher α} (h : World.Admits path R)
    (hact : act.Keeps Alike R) (waits : List Nat) : (withRetries act waits).Keeps Alike R := by
  induction waits with
  | nil => exact hact
  | cons wait rest ih =>
    refine .bind (.attempt hact) fun result => ?_
    cases result with
    | ok a => exact .pure a
    | error fault =>
      dsimp only
      split
      · exact .bind (h.quietly (.emit rfl rfl)) fun _ => ih
      · exact .fail fault

theorem keeps_fetch (h : World.Admits path R) : (fetch path).Keeps Alike R := by
  refine .bind .own fun fetcher =>
    .bind (.attempt (keeps_withRetries h (keeps_download h _) waits)) fun result => ?_
  cases result with
  | ok n => exact .pure _
  | error fault =>
    dsimp only
    split
    · exact .bind h.unlinks fun _ => .pure _
    · exact .fail fault

-- ---------------------------------------------------------------------------
-- One attempt
-- ---------------------------------------------------------------------------

theorem run_takeReply (channel : Channel) :
    (takeReply channel).run s =
      (.ok (s.2.nextReply channel).1, s.1, (s.2.nextReply channel).2) := rfl

theorem nextReply_answered {world : World} {channel : Channel}
    (h : (world.nextReply channel).1 = .answered response) :
    world.replies channel = .answered response :: (world.nextReply channel).2.replies channel := by
  unfold World.nextReply at h ⊢
  split at h
  · cases h
  · next reply rest hr =>
    cases h
    simp [hr, World.update]

theorem request_ok (h : (request url).run s = (.ok response, t)) :
    s.2.replies s.1.channel = .answered response :: t.2.replies s.1.channel := by
  simp only [request, run_bind_ok, run_own_ok, run_emit, run_takeReply, Prod.mk.injEq,
    Except.ok.injEq] at h
  obtain ⟨_, _, ⟨rfl, rfl⟩, _, _, ⟨-, rfl⟩, reply, u, ⟨hreply, rfl⟩, h⟩ := h
  cases reply with
  | failed fault => simp at h
  | answered found =>
    dsimp only at h
    split at h
    · simp at h
    · cases h
      exact nextReply_answered hreply

/-- The file of a body that was received holds it; nothing but files was changed
and the body's arrival recorded. -/
theorem receive_ok {u : Unit} (h : (receive response path).run s = (.ok u, t)) :
    response.failure = none ∧ t.2.replies = s.2.replies ∧
      t.2.files.content? path = some response.chunks.flatten := by
  simp only [receive, run_bind_ok, run_createFile_ok, run_emit, run_writeChunks,
    Prod.mk.injEq] at h
  obtain ⟨file, _, ⟨files, hcreate, rfl⟩, _, _, ⟨-, rfl⟩, _, _, ⟨-, rfl⟩, h⟩ := h
  split at h
  · simp at h
  · next hfailure =>
    cases h
    exact ⟨hfailure, rfl, ((holds_create hcreate).appendAll response.chunks).content?⟩

theorem checkLength_ok {n : Nat} (h : (checkLength response url path).run s = (.ok n, t)) :
    t = s ∧ ∀ text, response.declaredLength? = some text →
      Text.readInteger text = .ok response.chunks.flatten.length := by
  unfold checkLength at h
  dsimp only at h
  split at h
  · next hnone => cases h; exact ⟨rfl, by simp [hnone]⟩
  · next declared hdeclared =>
    simp only [run_bind_ok, run_ofExcept, Prod.mk.injEq] at h
    obtain ⟨expected, _, ⟨hread, rfl⟩, h⟩ := h
    split at h
    · next heq =>
      cases h
      refine ⟨rfl, fun text ht => ?_⟩
      cases hdeclared.symm.trans ht
      cases hn : Text.readInteger declared with
      | error e => simp [hn] at hread
      | ok number =>
        simp only [hn, mapError_ok, Except.ok.injEq] at hread
        rw [hread, heq]
    · simp [run_bind, run_unlink] at h
      split at h <;> simp at h

theorem ensureSession_replies (s : Fetcher × World) :
    (ensureSession.run s).2.2.replies = s.2.replies := by
  unfold ensureSession
  rw [run_bind, run_own]
  dsimp only
  split <;> rfl

theorem download_ok {n : Nat} (h : (download url path).run s = (.ok n, t)) :
    ∃ response, s.2.replies s.1.channel = .answered response :: t.2.replies s.1.channel ∧
      response.Whole ∧ t.2.files.content? path = some response.chunks.flatten := by
  simp only [download, run_bind_ok, run_makeDirectories, run_attempt_ok, Prod.mk.injEq] at h
  obtain ⟨_, s₁, hopen, _, _, ⟨-, rfl⟩, response, s₂, hrequest, result, s₃, hreceive, h⟩ := h
  have h₁ : s₁.2.replies = s.2.replies ∧ s₁.1.channel = s.1.channel := by
    have hreplies := ensureSession_replies s
    have hown := (keeps_ensureSession s).1
    rw [hopen] at hreplies hown
    exact ⟨hreplies, by rw [hown.same]⟩
  have h₂ := request_ok hrequest
  cases result with
  | error fault =>
    simp only [run_bind, run_unlink] at h
    split at h <;> simp at h
  | ok u =>
    obtain ⟨rfl, hmeasured⟩ := checkLength_ok h
    obtain ⟨hunbroken, hreplies, hcontent⟩ := receive_ok hreceive
    refine ⟨response, ?_, ⟨hunbroken, fun text hlength hplain => ?_⟩, hcontent⟩
    case refine_2 =>
      exact hmeasured text ((response.declaredLength?_eq_some_iff text).mpr ⟨hlength, hplain⟩)
    rw [hreplies, ← h₁.1, ← h₁.2]
    exact h₂

theorem withRetries_ok {α : Type} {act : Act Fetcher α} {a : α}
    (hact : act.Keeps Alike World.Onward) {waits : List Nat} (h : (withRetries act waits).run s = (.ok a, t)) :
    ∃ u, Alike s.1 u.1 ∧ World.Onward s.2 u.2 ∧ act.run u = (.ok a, t) := by
  induction waits generalizing s with
  | nil => exact ⟨s, Std.Refl.refl _, Std.Refl.refl _, h⟩
  | cons wait rest ih =>
    simp only [withRetries, run_bind_ok, run_attempt_ok] at h
    obtain ⟨result, u, hresult, h⟩ := h
    have hs := hact s
    rw [hresult] at hs
    cases result with
    | ok found => cases h; exact ⟨s, Std.Refl.refl _, Std.Refl.refl _, hresult⟩
    | error fault =>
      -- What the failed attempt left at the path does not matter: a later one decides.
      dsimp only at h
      split at h
      · simp only [run_bind_ok, run_emit, Prod.mk.injEq] at h
        obtain ⟨_, v, ⟨-, rfl⟩, h⟩ := h
        obtain ⟨v, hown, hworld, hv⟩ := ih h
        exact ⟨v, IsTrans.trans _ _ _ hs.1 hown, IsTrans.trans _ _ _ hs.2
          (IsTrans.trans _ _ _ (World.quiet_record _ rfl rfl).toOnward hworld), hv⟩
      · simp at h

-- ---------------------------------------------------------------------------
-- A whole fetch
-- ---------------------------------------------------------------------------

theorem fetch_success {value : Path} (h : (fetch path).run s = (.ok (.success value), t)) :
    value = path ∧ ∃ response,
      .answered response :: t.2.replies s.1.channel <:+ s.2.replies s.1.channel ∧
      response.Whole ∧ t.2.files.content? path = some response.chunks.flatten := by
  simp only [fetch, run_bind_ok, run_own_ok, run_attempt_ok] at h
  obtain ⟨_, _, ⟨rfl, rfl⟩, result, u, hresult, h⟩ := h
  cases result with
  | error fault =>
    dsimp only at h
    split at h
    · simp only [run_bind_ok, run_pure, Prod.mk.injEq, Except.ok.injEq, reduceCtorEq] at h
      simp at h
    · simp at h
  | ok n =>
    simp only [run_pure, Prod.mk.injEq, Except.ok.injEq, Outcome.success.injEq] at h
    obtain ⟨rfl, rfl⟩ := h
    obtain ⟨u, hown, hworld, hu⟩ := withRetries_ok (keeps_download (World.admits_onward path) _) hresult
    obtain ⟨response, hreplies, hwhole, hcontent⟩ := download_ok hu
    have hchannel : u.1.channel = s.1.channel := by rw [hown.same]
    rw [hchannel] at hreplies
    exact ⟨rfl, response, hreplies ▸ hworld.replies _, hwhole, hcontent⟩

theorem fetch_unsuccessful {outcome : Outcome Path} (h : (fetch path).run s = (.ok outcome, t))
    (hu : outcome.isSuccess = false) : t.2.files.content? path = none := by
  simp only [fetch, run_bind_ok, run_own_ok, run_attempt_ok] at h
  obtain ⟨_, _, ⟨rfl, rfl⟩, result, u, hresult, h⟩ := h
  cases result with
  | ok n => cases h; simp [Outcome.isSuccess] at hu
  | error fault =>
    dsimp only at h
    split at h
    · simp only [run_bind_ok] at h
      obtain ⟨_, _, hunlink, h⟩ := h
      cases h
      exact content?_of_run_unlink hunlink
    · simp at h

end Fetcher

end TerrainTiles.Http
