import TerrainTiles.Proofs.Files.Content
import TerrainTiles.World.Act
import Mathlib.Order.Defs.Unbundled

/-!
# Runs of actions and what they leave alone

`run_bind_ok` takes a run of two actions in a row apart; `run_bind_of_ok` and
`run_bind_of_error` follow one whose first action is known.

`Preserves P act` says that what holds before an action holds after it, and
`Keeps Q R act` that the states before and after it are related, the component's own
by `Q` and the world by `R`, whatever comes of it. For preorders it is closed under
the ways to build actions, so a component keeps what each of its steps keeps.

`World.Onward` is what any step outside a descriptor's own does to the world:
the decoder is left alone, replies are only used up, and the events added are
neither fetches nor decodes. `World.Quiet` leaves the files alone as well.
`World.Reading` is what decoding does: no file is changed, nothing is asked of a
remote place, and a deterministic decoder stays as it is. `World.Admits` says of a
relation that a fetch to a path keeps it, whatever comes of the fetch.
-/

namespace TerrainTiles

namespace Act

variable {σ τ α β : Type} {act : Act σ α} {next : α → Act σ β}

-- ---------------------------------------------------------------------------
-- Runs
-- ---------------------------------------------------------------------------

theorem run_bind_ok {s t : σ × World} {b : β} :
    (act >>= next).run s = (.ok b, t) ↔
      ∃ a u, act.run s = (.ok a, u) ∧ (next a).run u = (.ok b, t) := by
  rw [run_bind]
  rcases act.run s with ⟨_ | a, u⟩
  · simp
  · exact ⟨fun h => ⟨a, u, rfl, h⟩, by rintro ⟨_, _, h, h'⟩; cases h; exact h'⟩

theorem run_bind_of_ok {s t : σ × World} {a : α} (h : act.run s = (.ok a, t)) :
    (act >>= next).run s = (next a).run t := by
  rw [run_bind, h]

theorem run_bind_of_error {s t : σ × World} {fault : Fault} (h : act.run s = (.error fault, t)) :
    (act >>= next).run s = (.error fault, t) := by
  rw [run_bind, h]

theorem run_attempt_ok {s t : σ × World} {result : Except Fault α} :
    act.attempt.run s = (.ok result, t) ↔ act.run s = (result, t) := by
  rw [run_attempt]
  simp [Prod.ext_iff]

theorem run_own_ok {s t : σ × World} {own' : σ} :
    (own : Act σ σ).run s = (.ok own', t) ↔ s.1 = own' ∧ s = t := by
  rw [run_own]
  simp

@[simp] theorem run_ofExcept (result : Except Fault α) (s : σ × World) :
    (ofExcept result).run s = (result, s) := by
  cases result <;> rfl

@[simp] theorem run_writeTo (file : Location) (chunk : Bytes) (s : σ × World) :
    (writeTo file chunk).run s = (.ok (), s.1, s.2.withFiles (s.2.files.append file chunk)) := rfl

theorem run_makeDirectories (path : Path) (s : σ × World) :
    (makeDirectories path).run s = ((s.2.files.makeDirectories path).1.mapError .file, s.1,
      s.2.withFiles (s.2.files.makeDirectories path).2) := rfl

theorem run_onFiles (operation : FileSystem → Except FileError (α × FileSystem)) (s : σ × World) :
    (onFiles operation).run s = match operation s.2.files with
      | .ok (a, files) => (.ok a, s.1, s.2.withFiles files)
      | .error e => (.error (.file e), s.1, s.2) := rfl

theorem run_createFile_ok {path : Path} {s t : σ × World} {file : Location} :
    (createFile path).run s = (.ok file, t) ↔
      ∃ files, s.2.files.create path = .ok (file, files) ∧ t = (s.1, s.2.withFiles files) := by
  rw [createFile, run_onFiles]
  cases hc : s.2.files.create path with
  | error e => simp
  | ok made => constructor <;> simp +contextual [Prod.ext_iff, eq_comm]

theorem run_unlink (path : Path) (s : σ × World) :
    (unlink path).run s = match s.2.files.unlink path with
      | .ok files => (.ok (), s.1, s.2.withFiles files)
      | .error e => (.error (.file e), s) := by
  rw [unlink, run_onFiles]
  cases s.2.files.unlink path <;> rfl

theorem content?_of_run_unlink {path : Path} {s t : σ × World} {u : Unit}
    (h : (unlink path).run s = (.ok u, t)) : t.2.files.content? path = none := by
  rw [run_unlink] at h
  split at h
  · next files hunlink => cases h; exact FileSystem.content?_unlink hunlink
  · cases h

theorem run_writeChunks (file : Location) (chunks : List Bytes) (s : σ × World) :
    (writeChunks file chunks).run s =
      (.ok (), s.1, s.2.withFiles (chunks.foldl (fun files => files.append file) s.2.files)) := by
  induction chunks generalizing s with
  | nil => rfl
  | cons chunk rest ih => rw [writeChunks, run_bind, run_writeTo]; exact ih _

-- ---------------------------------------------------------------------------
-- Predicates that actions preserve
-- ---------------------------------------------------------------------------

def Preserves (P : σ × World → Prop) (act : Act σ α) : Prop := ∀ s, P s → P (act.run s).2

theorem Preserves.bind {P : σ × World → Prop} (h : act.Preserves P)
    (h' : ∀ a, (next a).Preserves P) : (act >>= next).Preserves P := by
  intro s hs
  have ha := h s hs
  rw [run_bind]
  rcases hr : act.run s with ⟨_ | a, t⟩ <;> rw [hr] at ha
  · exact ha
  · exact h' a t ha

theorem Preserves.attempt {P : σ × World → Prop} (h : act.Preserves P) :
    act.attempt.Preserves P := fun s hs => h s hs

-- ---------------------------------------------------------------------------
-- Relations that actions keep within
-- ---------------------------------------------------------------------------

/-- Whatever comes of the action, the component's own states before and after it
are related by `Q` and the worlds by `R`. -/
def Keeps (Q : σ → σ → Prop) (R : World → World → Prop) (act : Act σ α) : Prop :=
  ∀ s, Q s.1 (act.run s).2.1 ∧ R s.2 (act.run s).2.2

namespace Keeps

variable {Q : σ → σ → Prop} {R S : World → World → Prop}

theorem mono (h : act.Keeps Q R) (hs : ∀ before after, R before after → S before after) :
    act.Keeps Q S := fun s => ⟨(h s).1, hs _ _ (h s).2⟩

theorem attempt (h : act.Keeps Q R) : act.attempt.Keeps Q R := fun s => h s

theorem modifyOwn [IsPreorder World R] {f : σ → σ} (h : ∀ s, Q s (f s)) :
    (Act.modifyOwn f).Keeps Q R := fun s => ⟨h s.1, Std.Refl.refl _⟩

variable [IsPreorder σ Q] [IsPreorder World R]

theorem refl (s : σ × World) : Q s.1 s.1 ∧ R s.2 s.2 := ⟨Std.Refl.refl _, Std.Refl.refl _⟩

theorem pure (a : α) : (Pure.pure a : Act σ α).Keeps Q R := refl

theorem fail (fault : Fault) : (Act.fail fault : Act σ α).Keeps Q R := refl

theorem ofExcept (result : Except Fault α) : (Act.ofExcept result : Act σ α).Keeps Q R := by
  cases result <;> exact refl

theorem own : (Act.own : Act σ σ).Keeps Q R := refl

theorem files : (Act.files : Act σ FileSystem).Keeps Q R := refl

theorem bind (h : act.Keeps Q R) (h' : ∀ a, (next a).Keeps Q R) : (act >>= next).Keeps Q R := by
  intro s
  have hs := h s
  rw [run_bind]
  rcases hr : act.run s with ⟨_ | a, u⟩ <;> rw [hr] at hs
  · exact hs
  · exact ⟨IsTrans.trans _ _ _ hs.1 (h' a u).1, IsTrans.trans _ _ _ hs.2 (h' a u).2⟩

end Keeps

end Act

-- ---------------------------------------------------------------------------
-- What happens to the world
-- ---------------------------------------------------------------------------

namespace World

def Records (p : Event → Prop) (before after : World) : Prop :=
  ∃ new, after.events = new ++ before.events ∧ ∀ event ∈ new, p event

section

variable {p q : Event → Prop} {before after later : World}

theorem records_of_eq (h : after.events = before.events) : Records p before after :=
  ⟨[], h, by simp⟩

theorem Records.trans (h : Records p before after) (h' : Records p after later) :
    Records p before later := by
  obtain ⟨new, hnew, hp⟩ := h
  obtain ⟨new', hnew', hp'⟩ := h'
  refine ⟨new' ++ new, by rw [hnew', hnew, List.append_assoc], ?_⟩
  intro event he
  rcases List.mem_append.mp he with he | he
  · exact hp' event he
  · exact hp event he

theorem Records.mono (h : Records p before after) (hpq : ∀ event, p event → q event) :
    Records q before after := by
  obtain ⟨new, hnew, hp⟩ := h
  exact ⟨new, hnew, fun event he => hpq event (hp event he)⟩

end

structure Onward (before after : World) : Prop where
  decoder : after.decoder = before.decoder
  replies : ∀ channel, after.replies channel <:+ before.replies channel
  events : Records (fun event => event.isFetch = false ∧ event.isDecode = false) before after

structure Quiet (before after : World) : Prop extends Onward before after where
  files : after.files = before.files

structure Reading (before after : World) : Prop where
  files : after.files = before.files
  replies : after.replies = before.replies
  events : Records (fun event => event.isFetch = false) before after
  decoder : ∀ f, before.decoder = .deterministic f → after.decoder = .deterministic f

instance : IsPreorder World Onward where
  refl _ := ⟨rfl, fun _ => List.suffix_rfl, records_of_eq rfl⟩
  trans _ _ _ h h' := ⟨h'.decoder.trans h.decoder, fun c => (h'.replies c).trans (h.replies c),
    h.events.trans h'.events⟩

instance : IsPreorder World Quiet where
  refl world := ⟨Std.Refl.refl world, rfl⟩
  trans _ _ _ h h' :=
    ⟨IsTrans.trans _ _ _ h.toOnward h'.toOnward, h'.files.trans h.files⟩

instance : IsPreorder World Reading where
  refl _ := ⟨rfl, rfl, records_of_eq rfl, fun _ h => h⟩
  trans _ _ _ h h' := ⟨h'.files.trans h.files, h'.replies.trans h.replies,
    h.events.trans h'.events, fun f hf => h'.decoder f (h.decoder f hf)⟩

theorem quiet_record (world : World) {event : Event} (hf : event.isFetch = false)
    (hd : event.isDecode = false) : Quiet world (world.record event) where
  decoder := rfl
  replies _ := List.suffix_rfl
  events := ⟨[event], rfl, by simp [hf, hd]⟩
  files := rfl

theorem onward_withFiles (world : World) (files : FileSystem) :
    Onward world (world.withFiles files) where
  decoder := rfl
  replies _ := List.suffix_rfl
  events := records_of_eq rfl

theorem quiet_nextReply (world : World) (channel : Channel) :
    Quiet world (world.nextReply channel).2 := by
  unfold nextReply
  split
  · exact Std.Refl.refl world
  · next reply rest hr =>
    refine ⟨⟨rfl, fun other => ?_, records_of_eq rfl⟩, rfl⟩
    by_cases ho : other = channel
    · subst ho
      simp [update, hr]
    · simp [update, ho]

theorem quiet_nextServer (world : World) (channel : Channel) :
    Quiet world (world.nextServer channel).2 := by
  unfold nextServer
  split
  · exact Std.Refl.refl world
  · exact Std.Refl.refl world
  · exact ⟨⟨rfl, fun _ => List.suffix_rfl, records_of_eq rfl⟩, rfl⟩

end World

-- ---------------------------------------------------------------------------
-- The steps that components are built from
-- ---------------------------------------------------------------------------

namespace Act.Keeps

variable {σ α : Type} {act : Act σ α} {Q : σ → σ → Prop}

theorem onward (h : act.Keeps Q World.Quiet) : act.Keeps Q World.Onward :=
  h.mono fun _ _ => World.Quiet.toOnward

variable [IsPreorder σ Q]

theorem emit {event : Event} (hf : event.isFetch = false) (hd : event.isDecode = false) :
    (Act.emit event : Act σ Unit).Keeps Q World.Quiet :=
  fun s => ⟨Std.Refl.refl _, s.2.quiet_record hf hd⟩

theorem setFiles (files : FileSystem) : (Act.setFiles files : Act σ Unit).Keeps Q World.Onward :=
  fun s => ⟨Std.Refl.refl _, s.2.onward_withFiles files⟩

theorem onFiles (operation : FileSystem → Except FileError (α × FileSystem)) :
    (Act.onFiles operation : Act σ α).Keeps Q World.Onward := by
  intro s
  rw [run_onFiles]
  split
  · exact ⟨Std.Refl.refl _, s.2.onward_withFiles _⟩
  · exact refl s

theorem makeDirectories (path : Path) :
    (Act.makeDirectories path : Act σ Unit).Keeps Q World.Onward :=
  fun s => ⟨Std.Refl.refl _, s.2.onward_withFiles _⟩

theorem createFile (path : Path) : (Act.createFile path : Act σ Location).Keeps Q World.Onward :=
  onFiles _

end Act.Keeps

-- ---------------------------------------------------------------------------
-- What is done to fetch a file
-- ---------------------------------------------------------------------------

namespace World

open Act

/-- The relation admits all that is done to the world while a file is fetched to a path:
what leaves the files alone, making room for the file, writing and deleting it. -/
structure Admits (path : Path) (R : World → World → Prop) : Prop where
  quiet : ∀ before after, Quiet before after → R before after
  room : ∀ world, R world (world.withFiles (world.files.makeDirectories path.parent).2)
  create : ∀ world loc files, world.files.create path = .ok (loc, files) →
    R world (world.withFiles files)
  append : ∀ world loc chunk, world.files.locate path = .ok loc →
    R world (world.withFiles (world.files.append loc chunk))
  unlink : ∀ world files, world.files.unlink path = .ok files → R world (world.withFiles files)

theorem admits_onward (path : Path) : Admits path Onward where
  quiet _ _ := Quiet.toOnward
  room world := world.onward_withFiles _
  create world _ files _ := world.onward_withFiles files
  append world _ _ _ := world.onward_withFiles _
  unlink world files _ := world.onward_withFiles files

namespace Admits

variable {σ α β : Type} {path : Path} {Q : σ → σ → Prop} {R : World → World → Prop}
  {act : Act σ α} {begin : Act σ β} {next : β → Act σ α}

theorem quietly (h : Admits path R) (hact : act.Keeps Q Quiet) : act.Keeps Q R :=
  hact.mono h.quiet

variable [IsPreorder σ Q]

theorem makeDirectories (h : Admits path R) :
    (Act.makeDirectories path.parent : Act σ Unit).Keeps Q R :=
  fun s => ⟨Std.Refl.refl _, h.room s.2⟩

variable [IsPreorder World R]

theorem unlinks (h : Admits path R) : (Act.unlink path : Act σ Unit).Keeps Q R := by
  intro s
  rw [run_unlink]
  split
  · next files hunlink => exact ⟨Std.Refl.refl _, h.unlink s.2 files hunlink⟩
  · exact Keeps.refl s

theorem appendAll (h : Admits path R) {world : World} {loc : Location}
    (hl : world.files.locate path = .ok loc) (chunks : List Bytes) :
    R world (world.withFiles (chunks.foldl (fun files => files.append loc) world.files)) := by
  induction chunks generalizing world with
  | nil => exact Std.Refl.refl world
  | cons chunk rest ih =>
    have hl' : (world.files.append loc chunk).locate path = .ok loc :=
      FileSystem.locate_of_keepsDirectories FileSystem.keepsDirectories_append hl
    have hrest : R (world.withFiles (world.files.append loc chunk)) _ := ih hl'
    exact IsTrans.trans _ _ _ (h.append world loc chunk hl) hrest

/-- The file is created before what it is to hold is asked for, so the path still leads
to it when that is written. -/
theorem store (h : Admits path R) {chunks : β → List Bytes} (hbegin : begin.Keeps Q Quiet)
    (hnext : ∀ b, (next b).Keeps Q R) :
    (Act.createFile path >>= fun file => begin >>= fun b =>
      Act.writeChunks file (chunks b) >>= fun _ => next b).Keeps Q R := by
  intro s
  rw [run_bind, createFile, run_onFiles]
  cases hcreate : s.2.files.create path with
  | error e => exact Keeps.refl s
  | ok made =>
    obtain ⟨file, files⟩ := made
    have hcreated : R s.2 (s.2.withFiles files) := h.create s.2 file files hcreate
    have hl : files.locate path = .ok file := (FileSystem.holds_create hcreate).leads
    have hbegun := hbegin (s.1, s.2.withFiles files)
    dsimp only
    rw [run_bind]
    generalize begin.run (s.1, s.2.withFiles files) = begun at hbegun ⊢
    obtain ⟨fault | b, own, world⟩ := begun
    · exact ⟨hbegun.1, IsTrans.trans _ _ _ hcreated (h.quiet _ _ hbegun.2)⟩
    · have hl' : world.files.locate path = .ok file := by
        rw [show world.files = files from hbegun.2.files]
        exact hl
      have hwritten := h.appendAll hl' (chunks b)
      dsimp only
      rw [run_bind, run_writeChunks]
      have hrest := hnext b (own, world.withFiles
        ((chunks b).foldl (fun files => files.append file) world.files))
      exact ⟨IsTrans.trans _ _ _ hbegun.1 hrest.1, IsTrans.trans _ _ _ hcreated
        (IsTrans.trans _ _ _ (h.quiet _ _ hbegun.2) (IsTrans.trans _ _ _ hwritten hrest.2))⟩

end Admits

end World

end TerrainTiles
