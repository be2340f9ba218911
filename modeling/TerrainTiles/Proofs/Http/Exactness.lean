import TerrainTiles.Proofs.Http.Verdict
import TerrainTiles.Proofs.World.Footprint

/-!
# What a fetch over HTTP brings

The file at the path is the body of the last response and nothing else, after a success;
after an absent archive nothing is there; and no other file is touched (`fetch_exact`).
What a reply comes to depends on its body as a whole (`attempted_joined`), so it does not
matter how a body is split into chunks.
-/

namespace TerrainTiles.Http

/-- The response with its body in one chunk. -/
def Response.joined (response : Response) : Response :=
  { response with chunks := [response.chunks.flatten] }

def Reply.joined : Reply → Reply
  | failed fault => failed fault
  | answered response => answered response.joined

section

variable {url : String} {path : Path} {reply reply' : Reply} {rest rest' : List Reply}

theorem stored_joined (response : Response) (url : String) (loc : Location) (files : FileSystem) :
    response.joined.stored url loc files = response.stored url loc files := by
  have hflatten : response.joined.chunks.flatten = response.chunks.flatten := by
    simp [Response.joined]
  unfold Response.stored
  rw [hflatten]
  rfl

theorem attempted_joined (url : String) (path : Path) (files : FileSystem) (reply : Reply) :
    reply.joined.attempted url path files = reply.attempted url path files := by
  unfold Reply.attempted Reply.taken
  cases reply with
  | failed fault => rfl
  | answered response =>
    have hstatus : response.joined.statusFault? url = response.statusFault? url := rfl
    simp only [Reply.joined, read_answered, hstatus]
    cases response.statusFault? url with
    | some fault => rfl
    | none => simp only [stored_joined]

theorem attempted_congr (h : reply.joined = reply'.joined) (files : FileSystem) :
    reply.attempted url path files = reply'.attempted url path files := by
  rw [← attempted_joined, h, attempted_joined]

theorem result_lastAttempt_congr (h : reply.joined = reply'.joined)
    (hrest : rest.map Reply.joined = rest'.map Reply.joined) (files : FileSystem) :
    (lastAttempt url path reply rest files).result url path =
      (lastAttempt url path reply' rest' files).result url path := by
  induction rest generalizing reply reply' rest' files with
  | nil =>
    obtain rfl : rest' = [] := by simpa using hrest.symm
    exact attempted_congr h files
  | cons next rest ih =>
    obtain ⟨next', others, rfl, hnext, hothers⟩ := List.map_eq_cons_iff.mp hrest.symm
    have hsame : reply.attempted url path files = reply'.attempted url path files :=
      attempted_congr h files
    unfold lastAttempt
    rw [← hsame]
    rcases hattempted : reply.attempted url path files with ⟨fault | n, left⟩
    · dsimp only
      split
      · exact ih hnext.symm hothers.symm left
      · exact hsame
    · exact hsame

end

namespace Fetcher

variable {s : Fetcher × World} {path : Path}

theorem map_upcoming {world world' : World} {channel : Channel}
    (h : (world'.replies channel).map Reply.joined = (world.replies channel).map Reply.joined)
    (n : Nat) :
    (world'.upcoming channel n).map Reply.joined = (world.upcoming channel n).map Reply.joined := by
  simp only [World.upcoming, List.map_take, List.map_append, h]

theorem fetch_congr (path : Path) {f : Fetcher} {world world' : World}
    (hfiles : world'.files = world.files)
    (hreplies : (world'.replies f.channel).map Reply.joined =
      (world.replies f.channel).map Reply.joined) :
    ((fetch path).run (f, world')).1 = ((fetch path).run (f, world)).1 ∧
      ((fetch path).run (f, world')).2.2.files = ((fetch path).run (f, world)).2.2.files := by
  obtain ⟨reply, rest, hfound, -⟩ := exists_upcoming world f.channel waits.length
  obtain ⟨reply', rest', hfound', -⟩ := exists_upcoming world' f.channel waits.length
  obtain ⟨t, hrun, hleft, -⟩ := run_fetchWith waits path (s := (f, world)) rfl hfound
  obtain ⟨t', hrun', hleft', -⟩ := run_fetchWith waits path (s := (f, world')) rfl hfound'
  have hupcoming := map_upcoming hreplies (waits.length + 1)
  rw [hfound, hfound'] at hupcoming
  obtain ⟨hfirst, hothers⟩ := List.cons.inj hupcoming
  dsimp only at hrun hrun' hleft hleft'
  rw [hfiles, result_lastAttempt_congr hfirst hothers] at hrun' hleft'
  rw [fetch_eq, hrun, hrun']
  exact ⟨rfl, hleft'.trans hleft.symm⟩

theorem exists_success {result : Except Fault (Outcome Path)}
    (h : result.toOption.any Outcome.isSuccess) : ∃ value, result = .ok (.success value) := by
  rcases result with fault | value | _ | _ | _
  · cases h
  · exact ⟨value, rfl⟩
  · cases h
  · cases h
  · cases h

/-- After a success the whole body of the last response that was taken is at the path, after
an absent archive nothing is. No other file is touched. How the bodies are split decides
neither the outcome nor the files. -/
theorem fetch_exact (path : Path) (s : Fetcher × World) :
    let ended := (fetch path).run s
    (∀ value, ended.1 = .ok (.success value) → value = path ∧ ∃ response,
      .answered response :: ended.2.2.replies s.1.channel <:+ s.2.replies s.1.channel ∧
        response.Whole ∧ ended.2.2.files.content? path = some response.chunks.flatten) ∧
    (∀ message cause, ended.1 = .ok (.absent message cause) →
      ended.2.2.files.at? path = none) ∧
    s.2.files.Touches (· = path) ended.2.2.files ∧
    ∀ replies, (replies s.1.channel).map Reply.joined =
        (s.2.replies s.1.channel).map Reply.joined →
      let again := (fetch path).run (s.1, { s.2 with replies })
      again.1 = ended.1 ∧ again.2.2.files = ended.2.2.files := by
  intro ended
  have hadmits : World.Admits path (World.Touches (· = path)) := World.admits_touches rfl
  refine ⟨fun value h => fetch_success (Prod.ext h rfl), fun message cause h => ?_,
    (keeps_fetch hadmits s).2, fun replies hjoined => fetch_congr path rfl hjoined⟩
  obtain ⟨reply, rest, hreplies, -⟩ := exists_upcoming s.2 s.1.channel waits.length
  obtain ⟨t, hrun, hfiles, -⟩ := run_fetchWith waits path rfl hreplies
  have hended : ended = _ := hrun
  rw [hended] at h ⊢
  have hconcluded : concluded _ path _ = (.ok (.absent message cause), t.files) :=
    Prod.ext h hfiles.symm
  rcases concluded_ok hconcluded with ⟨⟨⟩⟩ | ⟨-, hnone⟩
  exact hnone

/-- A response that breaks off, and one that comes whole. -/
def replies (chunks : List Bytes) : List Reply :=
  [.answered { chunks := [[97]], failure := some (.reported { kind := .http .connection }) },
    .answered { headers := [("content-length", "2")], chunks }]

def stale : World :=
  { answering (replies [[], [97], [98]]) with
    files := FileSystem.empty.place place (.file [99, 99, 99]) }

/-- A response that ends before its declared length. -/
def short : List Reply :=
  [.answered { headers := [("Content-Length", "3")], chunks := [[97], [98]] }]

theorem fetch_exact_stale :
    stale.files.content? place = some [99, 99, 99] ∧
      (let ended := (fetch place).run (idle, { stale with replies := fun _ => short })
       (∃ message cause, ended.1 = .ok (.absent message cause)) ∧
        ended.2.2.files.at? place = none) ∧
      let ended := (fetch place).run (idle, stale)
      let again := (fetch place).run (idle, { stale with replies := fun _ => replies [[97, 98]] })
      ended.1 = .ok (.success place) ∧
        (∃ response : Response, response.Whole ∧ response.chunks.flatten = [97, 98] ∧
          ended.2.2.files.content? place = some response.chunks.flatten) ∧
        again.1 = ended.1 ∧ again.2.2.files = ended.2.2.files := by
  obtain ⟨-, habsent, -⟩ := fetch_exact place (idle, { stale with replies := fun _ => short })
  obtain ⟨hsuccess, -, -, hsplit⟩ := fetch_exact place (idle, stale)
  have hsame : (replies [[97, 98]]).map Reply.joined =
      (replies [[], [97], [98]]).map Reply.joined := rfl
  have hagain := hsplit (fun _ => replies [[97, 98]]) hsame
  have hcontent : ((fetch place).run (idle, stale)).2.2.files.content? place = some [97, 98] := by
    decide +kernel
  have hgood : ((fetch place).run (idle, stale)).1.toOption.any Outcome.isSuccess := by
    decide +kernel
  obtain ⟨value, hended⟩ := exists_success hgood
  obtain ⟨rfl, response, -, hwhole, hbody⟩ := hsuccess value hended
  dsimp only at hagain ⊢
  refine ⟨by decide +kernel, ⟨⟨_, _, rfl⟩, habsent _ _ rfl⟩, hended,
    ⟨response, hwhole, ?_, hbody⟩, hagain⟩
  exact Option.some.inj (hbody.symm.trans hcontent)

end Fetcher

end TerrainTiles.Http
