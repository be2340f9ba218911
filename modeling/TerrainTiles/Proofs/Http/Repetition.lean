import TerrainTiles.Proofs.Http.Course

/-!
# Attempts that are repeated

An attempt is repeated if it was interrupted by a lost connection or a time-out, before
the body or within it (`Reply.interrupts`). What it wrote is removed again, so the next
attempt finds the files as they were but for that one (`lastAttempt_spec`).

A fetch whose transfer fails with faults of the operating system removes the file in the
end. That makes up for the difference: a fetch of several attempts comes to what its last
one comes to alone (`fetch_repeats`).
-/

namespace TerrainTiles

def World.withReply (world : World) (channel : Channel) (reply : Http.Reply) : World :=
  { world with replies := update world.replies channel [reply] }

namespace Http

open Act

def Reply.fault? : Reply → Option Fault
  | failed fault => some fault
  | answered response => response.failure

/-- The reply makes an attempt fail for now: there is no connection, or none till the end of
the body, provided that the body can be written. -/
def Reply.interrupts (url : String) (writable : Bool) : Reply → Bool
  | failed fault => fault.isTransient
  | answered response =>
    writable && (response.statusFault? url).isNone && response.failure.any Fault.isTransient

section

variable {url : String} {path : Path} {files made found left : FileSystem} {reply : Reply}
  {rest : List Reply} {response : Response} {loc : Location}

-- ---------------------------------------------------------------------------
-- Faults that do not pass
-- ---------------------------------------------------------------------------

theorem isTransient_file (e : FileError) : (Fault.file e).isTransient = false := by
  cases he : e.code <;> simp [Fault.isTransient, Fault.kind, Kind.isTransient, he]

theorem statusFault?_treated {fault : Fault} (h : response.statusFault? url = some fault) :
    fault.isTransient = false ∧ fault.isOS := by
  unfold Response.statusFault? at h
  split at h
  · cases h
    exact ⟨rfl, rfl⟩
  · split at h
    · cases h
      exact ⟨rfl, rfl⟩
    · cases h

theorem read_answered (url : String) (response : Response) :
    (Reply.answered response).read url = (match response.statusFault? url with
      | some fault => .error fault
      | none => .ok response) := rfl

/-- A refused request is a fault of the transfer's or tells of the status. -/
theorem isOS_of_read (hos : ∀ fault ∈ reply.fault?, fault.isOS) {fault : Fault}
    (h : reply.read url = .error fault) : fault.isOS := by
  cases reply with
  | failed found =>
    cases h
    exact hos _ rfl
  | answered response =>
    rw [read_answered] at h
    cases hs : response.statusFault? url with
    | none => simp [hs] at h
    | some found =>
      obtain rfl : found = fault := by simpa [hs] using h
      exact (statusFault?_treated hs).2

theorem stored_failed {fault : Fault} (h : response.failure = some fault) :
    response.stored url loc files = (.error fault, files.erase loc) := by
  simp [Response.stored, h]

theorem stored_unbroken (h : response.failure = none) {fault : Fault}
    (hf : (response.stored url loc files).1 = .error fault) : fault.isTransient = false := by
  simp only [Response.stored, h] at hf
  split at hf
  · cases hf
  · split at hf
    · cases hf
      rfl
    · split at hf
      · cases hf
      · cases hf
        rfl

-- ---------------------------------------------------------------------------
-- One attempt
-- ---------------------------------------------------------------------------

theorem interrupts_answered {writable : Bool} :
    (Reply.answered response).interrupts url writable ↔ writable ∧
      response.statusFault? url = none ∧ ∃ fault, response.failure = some fault ∧ fault.isTransient := by
  cases hf : response.failure <;> simp [Reply.interrupts, hf, and_assoc]

theorem taken_of_interrupts (h : reply.interrupts url (files.create path).isOk) :
    ∃ fault left, reply.taken url path files = (.error fault, left) ∧ fault.isTransient ∧
      files.Cleared path left := by
  cases reply with
  | failed fault => exact ⟨fault, files, rfl, h, .same⟩
  | answered response =>
    obtain ⟨hwritable, hs, fault, hf, ht⟩ := interrupts_answered.mp h
    cases hcreate : files.create path with
    | error e => simp [hcreate, Except.isOk, Except.toBool] at hwritable
    | ok created =>
      obtain ⟨loc, made⟩ := created
      obtain ⟨hl, hn, -⟩ := FileSystem.create_eq_ok hcreate
      refine ⟨fault, files.erase loc, ?_, ht, .removed hl hn⟩
      simp [Reply.taken, read_answered, hs, hcreate, stored_failed hf]

theorem final_of_not_interrupts (h : reply.interrupts url (files.create path).isOk = false) :
    ∀ fault, (reply.taken url path files).1 = .error fault → fault.isTransient = false := by
  intro fault hfault
  cases reply with
  | failed found =>
    cases hfault
    exact h
  | answered response =>
    unfold Reply.taken at hfault
    rw [read_answered] at hfault
    cases hs : response.statusFault? url with
    | some found =>
      simp only [hs, Except.error.injEq] at hfault
      exact hfault ▸ (statusFault?_treated hs).1
    | none =>
      simp only [hs] at hfault
      cases hcreate : files.create path with
      | error e =>
        simp only [hcreate, Except.error.injEq] at hfault
        exact hfault ▸ isTransient_file e
      | ok created =>
        simp only [hcreate] at hfault
        cases hf : response.failure with
        | none => exact stored_unbroken hf hfault
        | some found =>
          rw [stored_failed hf] at hfault
          cases hfault
          simpa [Reply.interrupts, hcreate, hs, hf, Except.isOk, Except.toBool] using h

-- ---------------------------------------------------------------------------
-- Files that an earlier attempt has left
-- ---------------------------------------------------------------------------

/-- A whole body is stored alike whether or not an earlier attempt removed the file. -/
theorem stored_of_cleared (h : made.Cleared path left) (hl : made.locate path = .ok loc)
    (response : Response) : response.stored url loc left = response.stored url loc made := by
  simp only [Response.stored, h.set_eq hl, h.erase_eq hl]

theorem attempted_of_makes (h : files.makeDirectories path.parent = (.ok (), left))
    (reply : Reply) : reply.attempted url path files = reply.taken url path left := by
  rw [Reply.attempted, h]

/-- Which attempt is the last: the first that is not interrupted, or the one after the last
wait. It finds the files as they were but for the one that it writes. -/
theorem lastAttempt_spec (url : String) (reply : Reply) (rest : List Reply)
    (hmake : files.makeDirectories path.parent = (.ok (), found)) (hdirectory : made.isDirectory path.parent)
    (hcleared : made.Cleared path found) :
    (lastAttempt url path reply rest files).earlier =
        min rest.length ((reply :: rest).takeWhile
          (Reply.interrupts url (made.create path).isOk)).length ∧
      (reply :: rest)[(lastAttempt url path reply rest files).earlier]? =
        some (lastAttempt url path reply rest files).reply ∧
      ∃ left, made.Cleared path left ∧ (lastAttempt url path reply rest files).result url path =
        (lastAttempt url path reply rest files).reply.taken url path left := by
  induction rest generalizing reply files found with
  | nil =>
    exact ⟨by simp [lastAttempt], rfl, found, hcleared, attempted_of_makes hmake reply⟩
  | cons next rest ih =>
    have hwritable := hcleared.isOk_create
    by_cases hi : reply.interrupts url (made.create path).isOk
    · obtain ⟨fault, left, htaken, ht, hleft⟩ := taken_of_interrupts (hwritable ▸ hi)
      have hattempted := (attempted_of_makes hmake reply).trans htaken
      have hcleared' : made.Cleared path left := hcleared.trans hleft
      have hmake' := FileSystem.makeDirectories_of_isDirectory
        (hcleared'.keeps.isDirectory hdirectory)
      obtain ⟨hearlier, hreply, hresult⟩ := ih next hmake' hcleared'
      rw [lastAttempt_of_transient hattempted ht]
      refine ⟨?_, hreply, hresult⟩
      simp only [Attempt.later, hearlier, List.takeWhile_cons_of_pos hi, List.length_cons]
      omega
    · have hfinal : ∀ fault, (reply.taken url path found).1 = .error fault →
          fault.isTransient = false :=
        final_of_not_interrupts (by rw [hwritable]; simpa using hi)
      rw [lastAttempt_of_final (by rwa [attempted_of_makes hmake])]
      refine ⟨?_, rfl, found, hcleared, attempted_of_makes hmake reply⟩
      simp [List.takeWhile_cons_of_neg hi]

/-- What is concluded from a transfer does not tell whether an earlier attempt removed the
file: if it fails, the file is removed in the end. -/
theorem concluded_of_cleared (h : made.Cleared path left) (hos : ∀ fault ∈ reply.fault?, fault.isOS) :
    concluded url path (reply.taken url path left) =
      concluded url path (reply.taken url path made) := by
  unfold Reply.taken
  cases hread : reply.read url with
  | error fault =>
    rcases h.unlink_eq with rfl | ⟨gone, hunlink, hunlink'⟩
    · rfl
    · simp [concluded, isOS_of_read hos hread, hunlink, hunlink']
  | ok response =>
    cases hcreate : made.create path with
    | error e => rw [h.eq_of_create_error hcreate, hcreate]
    | ok created =>
      obtain ⟨loc, _⟩ := created
      simp only [h.create_eq_ok hcreate,
        stored_of_cleared h (FileSystem.create_eq_ok hcreate).1 response]

end

namespace Fetcher

variable {s : Fetcher × World} {path : Path}

-- ---------------------------------------------------------------------------
-- A whole fetch
-- ---------------------------------------------------------------------------

theorem length_upcoming (world : World) (channel : Channel) (n : Nat) :
    (world.upcoming channel n).length = n := by
  simp [World.upcoming]

theorem exists_upcoming (world : World) (channel : Channel) (n : Nat) :
    ∃ reply rest, world.upcoming channel (n + 1) = reply :: rest ∧ rest.length = n :=
  ⟨_, _, World.upcoming_succ .., length_upcoming ..⟩

theorem isOS_of_mem_upcoming {world : World} {channel : Channel} {n : Nat} {reply : Reply}
    (h : ∀ reply ∈ world.replies channel, ∀ fault ∈ reply.fault?, fault.isOS)
    (hreply : reply ∈ world.upcoming channel n) : ∀ fault ∈ reply.fault?, fault.isOS := by
  rcases List.mem_append.mp (List.mem_of_mem_take hreply) with hmem | hmem
  · exact h reply hmem
  · rw [List.eq_of_mem_replicate hmem]
    rintro fault ⟨⟩
    rfl

/-- How many attempts at a path in a row the next replies interrupt. -/
def interruptions (fetcher : Fetcher) (world : World) (path : Path) : Nat :=
  let writable := ((world.files.makeDirectories path.parent).2.create path).isOk
  ((world.upcoming fetcher.channel 3).takeWhile
    (Reply.interrupts (fetcher.describe path.name) writable)).length

def lastReply? (fetcher : Fetcher) (world : World) (path : Path) : Option Reply :=
  (world.upcoming fetcher.channel 3)[min 2 (fetcher.interruptions world path)]?

/-- A fetch comes to what its last reply does where no attempt went before it. -/
theorem run_fetch (path : Path) (hmake : (s.2.files.makeDirectories path.parent).1 = .ok ())
    (hos : ∀ reply ∈ s.2.replies s.1.channel, ∀ fault ∈ reply.fault?, fault.isOS) :
    let url := s.1.describe path.name
    ∃ last t, s.1.lastReply? s.2 path = some last ∧ (∀ fault ∈ last.fault?, fault.isOS) ∧
      (fetch path).run s =
        ((concluded url path (last.attempted url path s.2.files)).1, s.1.opened, t) ∧
      t.files = (concluded url path (last.attempted url path s.2.files)).2 ∧
      s.2.exchange t = s.1.opening ++
        (timeline url waits).take (2 * min 2 (s.1.interruptions s.2 path) + 1) := by
  intro url
  obtain ⟨reply, rest, hreplies, hlength⟩ := exists_upcoming s.2 s.1.channel 2
  have hmade : s.2.files.makeDirectories path.parent =
      (.ok (), (s.2.files.makeDirectories path.parent).2) := Prod.ext hmake rfl
  obtain ⟨hearlier, hlast, left, hcleared, hresult⟩ :=
    lastAttempt_spec url reply rest hmade
      (FileSystem.isDirectory_makeDirectories hmake) .same
  obtain ⟨t, hrun, hfiles, hexchange⟩ := run_fetchWith waits path rfl hreplies
  generalize lastAttempt url path reply rest s.2.files = last at *
  rw [hlength, ← hreplies] at hearlier
  rw [← hreplies] at hlast
  have hcount : last.earlier = min 2 (s.1.interruptions s.2 path) := hearlier
  have hos' := isOS_of_mem_upcoming hos (List.mem_of_getElem? hlast)
  have hsame : concluded url path (last.result url path) =
      concluded url path (last.reply.attempted url path s.2.files) := by
    rw [hresult, attempted_of_makes hmade, concluded_of_cleared hcleared hos']
  have hlast' : s.1.lastReply? s.2 path = some last.reply := by
    rw [lastReply?, ← hcount]
    exact hlast
  rw [hsame] at hrun hfiles
  exact ⟨last.reply, t, hlast', hos', hrun, hfiles, hcount ▸ hexchange hmake⟩

theorem run_fetchWith_nil (path : Path) (s : Fetcher × World) (reply : Reply) :
    let url := s.1.describe path.name
    ∃ t, (fetchWith [] path).run (s.1, s.2.withReply s.1.channel reply) =
        ((concluded url path (reply.attempted url path s.2.files)).1, s.1.opened, t) ∧
      t.files = (concluded url path (reply.attempted url path s.2.files)).2 := by
  have hupcoming : (s.2.withReply s.1.channel reply).upcoming s.1.channel 1 = [reply] := by
    simp [World.upcoming, World.withReply, World.update]
  obtain ⟨t, hrun, hfiles, -⟩ :=
    run_fetchWith [] path (s := (s.1, s.2.withReply s.1.channel reply)) rfl hupcoming
  exact ⟨t, hrun, hfiles⟩

/-- Attempts are repeated as long as they are interrupted, up to three in all, after a
second and then after two more, on one session. The outcome and the files are those of the
last attempt alone. -/
theorem fetch_repeats (path : Path)
    (hmake : (s.2.files.makeDirectories path.parent).1 = .ok ())
    (hos : ∀ reply ∈ s.2.replies s.1.channel, ∀ fault ∈ reply.fault?, fault.isOS) :
    let get : Event := .httpRequested (s.1.describe path.name) sixtySeconds
    let ended := (fetch path).run s
    s.2.exchange ended.2.2 = s.1.opening ++ [get, .slept 1, get, .slept 2, get].take
      (2 * min 3 (s.1.interruptions s.2 path + 1) - 1) ∧
    ∃ last, s.1.lastReply? s.2 path = some last ∧
      let alone := (fetchWith [] path).run (s.1, s.2.withReply s.1.channel last)
      ended.1 = alone.1 ∧ ended.2.2.files = alone.2.2.files := by
  intro get ended
  obtain ⟨last, t, hlast, -, hrun, hfiles, hexchange⟩ := run_fetch path hmake hos
  obtain ⟨u, halone, hleft⟩ := run_fetchWith_nil path s last
  have hended : ended = _ := hrun
  have htimes : 2 * min 3 (s.1.interruptions s.2 path + 1) - 1 =
      2 * min 2 (s.1.interruptions s.2 path) + 1 := by omega
  rw [hended, htimes]
  refine ⟨hexchange, last, hlast, ?_⟩
  rw [halone]
  exact ⟨rfl, hfiles.trans hleft.symm⟩

/-- The waits double from one second on, up to ten. -/
example : waits = (List.range 2).map fun n => max 1 (min (2 ^ n) 10) := by decide

def idle : Fetcher := { base := "http://host", channel := 0 }

def place : Path := ⟨.root, ["dem", "t.zip"]⟩

def answering (replies : List Reply) : World where
  files := .empty
  decoder := .scripted [] (.ok none)
  replies _ := replies

def url : String := idle.describe place.name

def flaky : World := answering [.failed noRoute,
  .answered { chunks := [[97]], failure := some (.reported { kind := .http .readTimeout }) },
  .answered { chunks := [[97], [98]] }]

theorem fetch_repeats_flaky :
    (flaky.files.makeDirectories place.parent).1 = .ok () ∧
      (∀ reply ∈ flaky.replies idle.channel, ∀ fault ∈ reply.fault?, fault.isOS) ∧
      let ended := (fetch place).run (idle, flaky)
      flaky.exchange ended.2.2 = [.httpOpened, .httpRequested url sixtySeconds, .slept 1,
        .httpRequested url sixtySeconds, .slept 2, .httpRequested url sixtySeconds] ∧
      ended.2.2.files.content? place = some [97, 98] := by
  have hmake : (flaky.files.makeDirectories place.parent).1 = .ok () := rfl
  have hos : ∀ reply ∈ flaky.replies idle.channel, ∀ fault ∈ reply.fault?, fault.isOS := by
    decide +kernel
  have htwice : idle.interruptions flaky place = 2 := by decide +kernel
  obtain ⟨hexchange, -⟩ := fetch_repeats (s := (idle, flaky)) place hmake hos
  refine ⟨hmake, hos, hexchange.trans ?_, by decide +kernel⟩
  dsimp only
  rw [htwice]
  rfl

end Fetcher

end Http

end TerrainTiles
