import TerrainTiles.Proofs.Http.Repetition

/-!
# Archives that arrive over HTTP

Where a file can be written, a fetch succeeds if the server answers with the whole
body before the waits are used up (`fetch_arrives`): attempts that are interrupted leave
room for the next one, and the one that is answered so is the last.
-/

namespace TerrainTiles.Http

/-- A reply that makes an attempt fail for now: there is no connection, or none till
the end of the body. -/
inductive Reply.Interrupts (url : String) (reply : Reply) : Prop where
  | refused {fault : Fault} (h : reply.read url = .error fault) (ht : fault.isTransient)
  | broken {response : Response} {fault : Fault} (h : reply.read url = .ok response)
      (hf : response.failure = some fault) (ht : fault.isTransient)

variable {url : String} {path : Path} {response : Response} {reply : Reply}
  {files made : FileSystem} {loc : Location}

theorem Reply.Interrupts.interrupts (h : reply.Interrupts url) : reply.interrupts url true := by
  cases reply with
  | failed fault =>
    cases h with
    | refused hread ht =>
      cases hread
      exact ht
    | broken hread => cases hread
  | answered response =>
    cases h with
    | refused hread ht =>
      cases hs : response.statusFault? url with
      | none => simp [read_answered, hs] at hread
      | some fault =>
        simp only [read_answered, hs, Except.error.injEq] at hread
        simp [← hread, (statusFault?_treated hs).1] at ht
    | broken hread hf ht =>
      cases hs : response.statusFault? url with
      | some fault => simp [read_answered, hs] at hread
      | none =>
        simp only [read_answered, hs, Except.ok.injEq] at hread
        exact interrupts_answered.mpr ⟨rfl, hs, _, hread ▸ hf, ht⟩

theorem taken_whole (hs : response.statusFault? url = none) (hw : response.Whole)
    (hcreate : files.create path = .ok (loc, made)) :
    (Reply.answered response).taken url path files =
      (.ok response.chunks.flatten.length, files.set loc (.file response.chunks.flatten)) := by
  unfold Reply.taken Response.stored
  rw [read_answered]
  simp only [hs, hcreate, hw.unbroken]
  cases hd : response.declaredLength? with
  | none => rfl
  | some text =>
    obtain ⟨hlength, hplain⟩ := (response.declaredLength?_eq_some_iff text).mp hd
    simp [hw.measured text hlength hplain]

namespace Fetcher

variable {s : Fetcher × World} {rest : List Reply}

theorem upcoming_append {world : World} {channel : Channel} {front : List Reply} {n : Nat}
    (h : world.replies channel = front ++ reply :: rest) (hn : front.length ≤ n) :
    ∃ later, world.upcoming channel (n + 1) = front ++ reply :: later := by
  have hcount : n + 1 - front.length = n - front.length + 1 := by omega
  refine ⟨(rest ++ List.replicate (n + 1) (Reply.failed noRoute)).take (n - front.length), ?_⟩
  rw [World.upcoming, h, List.append_assoc, List.take_append, List.take_of_length_le (by omega),
    hcount, List.cons_append, List.take_succ_cons]

theorem fetch_arrives {interrupted : List Reply} (hroom : s.2.files.Receptive path)
    (h : s.2.replies s.1.channel = interrupted ++ .answered response :: rest)
    (hi : ∀ reply ∈ interrupted, reply.Interrupts (s.1.describe path.name))
    (hn : interrupted.length ≤ waits.length)
    (hr : response.statusFault? (s.1.describe path.name) = none) (hw : response.Whole) :
    ∃ t, (fetch path).run s = (.ok (.success path), t) ∧
      t.2.files.content? path = some response.chunks.flatten := by
  obtain ⟨⟨loc, created⟩, hcreate⟩ := hroom.creates
  obtain ⟨first, others, hreplies, hlength⟩ := exists_upcoming s.2 s.1.channel waits.length
  obtain ⟨later, hupcoming⟩ := upcoming_append h hn
  have hmade : s.2.files.makeDirectories path.parent =
      (.ok (), (s.2.files.makeDirectories path.parent).2) := Prod.ext hroom.directories rfl
  obtain ⟨hearlier, hlast, left, hcleared, hresult⟩ :=
    lastAttempt_spec (s.1.describe path.name) first others hmade
      (FileSystem.isDirectory_makeDirectories hroom.directories) .same
  obtain ⟨t, hrun, hfiles, -⟩ := run_fetchWith waits path rfl hreplies
  generalize lastAttempt (s.1.describe path.name) path first others s.2.files = last at *
  rw [hreplies] at hupcoming
  -- The attempts that are interrupted come first, and the one after them is not.
  have hwritable : ((s.2.files.makeDirectories path.parent).2.create path).isOk = true := by
    rw [hcreate]
    rfl
  have hlongest : ((first :: others).takeWhile
      (Reply.interrupts (s.1.describe path.name) true)).length = interrupted.length := by
    rw [hupcoming, List.takeWhile_append_of_pos fun reply hmem => (hi reply hmem).interrupts,
      List.takeWhile_cons_of_neg (by simp [Reply.interrupts, hw.unbroken]), List.append_nil]
  rw [hwritable, hlongest, hlength, Nat.min_eq_right hn] at hearlier
  have hreply : last.reply = .answered response := by
    rw [hearlier, hupcoming, List.getElem?_append_right (Nat.le_refl _), Nat.sub_self] at hlast
    exact (Option.some.inj hlast).symm
  have hcreate' := hcleared.create_eq_ok hcreate
  obtain ⟨hl, hn', -⟩ := FileSystem.create_eq_ok hcreate'
  rw [hresult, hreply, taken_whole hr hw hcreate'] at hrun hfiles
  refine ⟨_, hrun, ?_⟩
  dsimp only [concluded] at hfiles ⊢
  rw [hfiles]
  exact (FileSystem.holds_set hl hn' _).content?

end Fetcher

end TerrainTiles.Http
