import TerrainTiles.Proofs.Http.Repetition

/-!
# How a fetch over HTTP ends

A fetch whose transfer fails with faults of the operating system ends with success or
with an absent archive, and an absent archive leaves nothing at the path. It fails itself
in two cases only (`fetch_raises_iff`): nothing may be removed from the path, so nothing
could be written there; or the last body came whole with a declared length that is no
number. That length is read when the file has been written, and the file stays.
-/

namespace TerrainTiles.Http

structure Response.Illegible (response : Response) (url : String) (error : Text.IntegerError) :
    Prop where
  accepted : response.statusFault? url = none
  unbroken : response.failure = none
  plain : response.Unencoded
  declared : ∃ text, response.header? "Content-Length" = some text ∧
    Text.readInteger text = .error error

section

variable {url : String} {path : Path} {files made left : FileSystem} {reply : Reply}
  {response : Response} {loc : Location} {fault : Fault}

-- ---------------------------------------------------------------------------
-- What is concluded from the last reply
-- ---------------------------------------------------------------------------

theorem concluded_ok {outcome : Outcome Path} {result : Except Fault Nat × FileSystem}
    (h : concluded url path result = (.ok outcome, left)) :
    outcome = .success path ∨
      (∃ message cause, outcome = .absent message cause) ∧ left.at? path = none := by
  obtain ⟨fault | n, files⟩ := result
  · simp only [concluded] at h
    split at h
    · split at h
      · next hunlink =>
        cases h
        exact .inr ⟨⟨_, _, rfl⟩, FileSystem.at?_unlink hunlink⟩
      · cases h
    · cases h
  · cases h
    exact .inl rfl

/-- Where nothing may be removed nothing can be written, so nothing arrives. -/
theorem concluded_of_unlink_error {e : FileError} (hos : ∀ fault ∈ reply.fault?, fault.isOS)
    (h : files.unlink path = .error e) :
    concluded url path (reply.taken url path files) = (.error (.file e), files) := by
  have hcreate := FileSystem.create_of_unlink_error h
  unfold Reply.taken
  cases hread : reply.read url with
  | error fault => simp [concluded, isOS_of_read hos hread, h]
  | ok response => simp [concluded, hcreate, h]

theorem concluded_of_illegible {error : Text.IntegerError} (hi : response.Illegible url error)
    (hcreate : files.create path = .ok (loc, made)) :
    concluded url path ((Reply.answered response).taken url path files) =
      (.error (.integer error), files.set loc (.file response.chunks.flatten)) := by
  obtain ⟨text, hlength, hread⟩ := hi.declared
  have hdeclared := (response.declaredLength?_eq_some_iff text).mpr ⟨hlength, hi.plain⟩
  have hvalue : (Fault.integer error).isOS = false := rfl
  simp [Reply.taken, Response.stored, read_answered, hi.accepted, hcreate, hi.unbroken, hdeclared,
    hread, concluded, hvalue]

theorem read_eq_ok (h : reply.read url = .ok response) :
    reply = .answered response ∧ response.statusFault? url = none := by
  cases reply with
  | failed fault => cases h
  | answered found =>
    rw [read_answered] at h
    cases hs : found.statusFault? url with
    | some fault => simp [hs] at h
    | none =>
      obtain rfl : found = response := by simpa [hs] using h
      exact ⟨rfl, hs⟩

/-- Nothing else that a transfer fails with passes through, where the file can be removed. -/
theorem illegible_of_concluded_error (hos : ∀ fault ∈ reply.fault?, fault.isOS)
    (hunlink : files.unlink path = .ok left)
    (h : (concluded url path (reply.taken url path files)).1 = .error fault) :
    ∃ response error, reply = .answered response ∧ (files.create path).isOk ∧
      response.Illegible url error ∧ fault = .integer error := by
  unfold Reply.taken at h
  cases hread : reply.read url with
  | error found => simp [hread, concluded, isOS_of_read hos hread, hunlink] at h
  | ok response =>
    obtain ⟨rfl, hstatus⟩ := read_eq_ok hread
    simp only [hread] at h
    cases hcreate : files.create path with
    | error e =>
      rcases FileSystem.unlink_of_create_error hcreate with hrefused | ⟨hcode, -⟩
      · simp [hunlink] at hrefused
      · simp [hcreate, concluded, Fault.isOS, Fault.kind, hcode, Kind.isOS, hunlink] at h
    | ok created =>
      obtain ⟨loc, made⟩ := created
      obtain ⟨hl, hn, -⟩ := FileSystem.create_eq_ok hcreate
      have hgone := FileSystem.unlink_erase hl hn
      simp only [hcreate, Response.stored] at h
      cases hbroken : response.failure with
      | some found => simp [hbroken, concluded, hos found hbroken, hgone] at h
      | none =>
        simp only [hbroken] at h
        cases hdeclared : response.declaredLength? with
        | none => simp [hdeclared, concluded] at h
        | some text =>
          simp only [hdeclared] at h
          cases hlength : Text.readInteger text with
          | error error =>
            have hvalue : (Fault.integer error).isOS = false := rfl
            obtain ⟨hheader, hplain⟩ := (response.declaredLength?_eq_some_iff text).mp hdeclared
            refine ⟨response, error, rfl, by rfl,
              ⟨hstatus, hbroken, hplain, text, hheader, hlength⟩, ?_⟩
            simpa [hlength, concluded, hvalue, eq_comm] using h
          | ok declared =>
            have hsize : (Fault.sizeMismatch url text response.chunks.flatten.length).isOS = true := rfl
            by_cases hequal : declared = response.chunks.flatten.length
            · simp [hlength, hequal, concluded] at h
            · simp only [hlength, if_neg hequal, concluded, hsize, hgone, if_true] at h
              cases h

end

namespace Fetcher

variable {s : Fetcher × World} {path : Path} {response : Response} {error : Text.IntegerError}

structure MeetsIllegible (f : Fetcher) (world : World) (path : Path) (response : Response)
    (error : Text.IntegerError) : Prop where
  writable : ((world.files.makeDirectories path.parent).2.create path).isOk
  last : f.lastReply? world path = some (.answered response)
  illegible : response.Illegible (f.describe path.name) error

/-- A fetch fails exactly if nothing may be removed from the path, or if the last body came
whole with a declared length that is no number; then the body stays. Otherwise it ends with
success or with an absent archive, and an absent archive leaves nothing at the path. -/
theorem fetch_raises_iff (path : Path)
    (hmake : (s.2.files.makeDirectories path.parent).1 = .ok ())
    (hos : ∀ reply ∈ s.2.replies s.1.channel, ∀ fault ∈ reply.fault?, fault.isOS) :
    let made := (s.2.files.makeDirectories path.parent).2
    let ended := (fetch path).run s
    (∀ fault, ended.1 = .error fault ↔ (∃ e, made.unlink path = .error e ∧ fault = .file e) ∨
      ∃ response error, s.1.MeetsIllegible s.2 path response error ∧ fault = .integer error) ∧
    (∀ outcome, ended.1 = .ok outcome → outcome = .success path ∨
      (∃ message cause, outcome = .absent message cause) ∧ ended.2.2.files.at? path = none) ∧
    ∀ response error, s.1.MeetsIllegible s.2 path response error →
      ended.2.2.files.content? path = some response.chunks.flatten := by
  intro made ended
  obtain ⟨last, t, hlast, hos', hrun, hfiles, -⟩ := run_fetch path hmake hos
  have hended : ended = _ := hrun
  rw [attempted_of_makes (Prod.ext hmake rfl)] at hended hfiles
  have hillegible : ∀ {response error}, s.1.MeetsIllegible s.2 path response error →
      ∃ loc, made.locate path = .ok loc ∧ made.node? loc ≠ some .directory ∧
        concluded (s.1.describe path.name) path (last.taken (s.1.describe path.name) path made) =
          (.error (.integer error), made.set loc (.file response.chunks.flatten)) := by
    intro response error hmeets
    obtain rfl := Option.some.inj (hlast.symm.trans hmeets.last)
    have hwritable := hmeets.writable
    cases hcreate : made.create path with
    | error e => simp [made, hcreate, Except.isOk, Except.toBool] at hwritable
    | ok created =>
      obtain ⟨loc, _⟩ := created
      obtain ⟨hl, hn, -⟩ := FileSystem.create_eq_ok hcreate
      exact ⟨loc, hl, hn, concluded_of_illegible hmeets.illegible hcreate⟩
  rw [hended]
  refine ⟨fun fault => ⟨fun h => ?_, ?_⟩, fun outcome h => ?_, fun response error hmeets => ?_⟩
  · cases hunlink : made.unlink path with
    | error e =>
      rw [concluded_of_unlink_error hos' hunlink] at h
      exact .inl ⟨e, rfl, (Except.error.inj h).symm⟩
    | ok left =>
      obtain ⟨response, error, rfl, hwritable, hi, hfault⟩ :=
        illegible_of_concluded_error hos' hunlink h
      exact .inr ⟨response, error, ⟨hwritable, hlast, hi⟩, hfault⟩
  · rintro (⟨e, hunlink, rfl⟩ | ⟨response, error, hmeets, rfl⟩)
    · rw [concluded_of_unlink_error hos' hunlink]
    · obtain ⟨loc, -, -, hconcluded⟩ := hillegible hmeets
      rw [hconcluded]
  · have hconcluded : concluded _ path _ = (.ok outcome, t.files) := Prod.ext h hfiles.symm
    exact concluded_ok hconcluded
  · obtain ⟨loc, hl, hn, hconcluded⟩ := hillegible hmeets
    rw [hconcluded] at hfiles
    rw [hfiles]
    exact (FileSystem.holds_set hl hn _).content?

def misdeclared : World := answering
  [.answered { headers := [("Content-Length", "abc")], chunks := [[120]] }]

theorem fetch_raises_iff_misdeclared :
    (misdeclared.files.makeDirectories place.parent).1 = .ok () ∧
      (∀ reply ∈ misdeclared.replies idle.channel, ∀ fault ∈ reply.fault?, fault.isOS) ∧
      let ended := (fetch place).run (idle, misdeclared)
      ended.1 = .error (.integer (.malformed "abc")) ∧
        ended.2.2.files.content? place = some [120] := by
  have hmake : (misdeclared.files.makeDirectories place.parent).1 = .ok () := rfl
  have hos : ∀ reply ∈ misdeclared.replies idle.channel, ∀ fault ∈ reply.fault?, fault.isOS := by
    decide +kernel
  obtain ⟨hraises, -, hstays⟩ := fetch_raises_iff (s := (idle, misdeclared)) place hmake hos
  have hmeets : idle.MeetsIllegible misdeclared place
      { headers := [("Content-Length", "abc")], chunks := [[120]] } (.malformed "abc") :=
    ⟨rfl, rfl, rfl, rfl, nofun, "abc", by decide +kernel, rfl⟩
  exact ⟨hmake, hos, (hraises _).mpr (.inr ⟨_, _, hmeets, rfl⟩), hstays _ _ hmeets⟩

/-- A fetch can fail although a file can be written at the path and nothing went wrong with
the transfer, and what was transferred stays. -/
theorem fetch_raises_misdeclared :
    misdeclared.files.Receptive place ∧
      (∀ reply ∈ misdeclared.replies idle.channel, reply.fault? = none) ∧
      ((fetch place).run (idle, misdeclared)).1.isOk = false ∧
      ((fetch place).run (idle, misdeclared)).2.2.files.content? place = some [120] := by
  refine ⟨⟨rfl, _, rfl⟩, ?_, by decide +kernel, by decide +kernel⟩
  rintro reply (_ | ⟨_, ⟨⟩⟩)
  rfl

end Fetcher

end TerrainTiles.Http
