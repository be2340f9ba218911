import TerrainTiles.Proofs.Descriptor.Work

/-!
# Callers at the same time

A caller of `getTile` reads the cached tile and then the state, once for each of
its final values, all without the lock. If none of that settles the answer, it
waits for the lock and takes `acquireOnce` as one step. In a `Crowd` any number of
callers share a descriptor, and between two steps of one there may be steps of
others. A caller that is alone does what `getTile` does (`run_eq_afterTurns`).

What the reads find may be out of date by the next step, and a mixture of old and
new. It does not matter: whoever holds the lock looks again, so to the descriptor
a run of a crowd is a history of calls (`shared_after`), and as long as nobody
disposes of it there is one tile at most (`shared_acquisition`).
-/

namespace TerrainTiles.Descriptor

open Act

inductive Caller where
  | arrived
  /-- It found no tile. -/
  | unserved
  /-- It found a state other than absent. -/
  | hopeful
  /-- It found a state other than fatal, and is to take the lock. -/
  | waiting
  | answered (answer : Except Fault (Option Loan))

/-- The next step of a caller, and what it does to the descriptor and the world. -/
def Caller.next (s : Descriptor × World) : Caller → Caller × (Descriptor × World)
  | arrived =>
    match s.1.cached with
    | some loan => (answered (.ok (some loan)), s)
    | none => (unserved, s)
  | unserved => (if s.1.state = .absent then answered (.ok none) else hopeful, s)
  | hopeful => (if s.1.state = .fatal then answered (.error (s.1.unreachable none)) else waiting, s)
  | waiting =>
    let ended := acquireOnce.run s
    (answered ended.1, ended.2)
  | answered answer => (answered answer, s)

structure Crowd where
  shared : Descriptor × World
  callers : List Caller := []

inductive Turn where
  | arrive
  /-- A caller takes its next step. -/
  | go (caller : Nat)
  | disableRemote
  | outside (change : FileSystem → FileSystem)

def Turn.after : Turn → Crowd → Crowd
  | arrive, c => { c with callers := c.callers ++ [.arrived] }
  | go i, c =>
    match c.callers[i]? with
    | some caller =>
      let (caller, shared) := caller.next c.shared
      { shared, callers := c.callers.set i caller }
    | none => c
  | disableRemote, c => { c with shared := (Step.call .disableRemote).after c.shared }
  | outside change, c => { c with shared := (Step.outside change).after c.shared }

def afterTurns (turns : List Turn) (c : Crowd) : Crowd :=
  turns.foldl (fun c turn => turn.after c) c

def Turn.work (turn : Turn) (c : Crowd) : List Event := c.shared.2.work (turn.after c).shared.2

/-- The turn decodes, and that yields the tile its caller is given. -/
def Turn.YieldsTile (turn : Turn) (c : Crowd) : Prop :=
  (∃ event ∈ turn.work c, event.isDecode) ∧
    ∃ i loan, turn = .go i ∧ (turn.after c).callers[i]? = some (.answered (.ok (some loan)))

theorem afterTurns_append (before later : List Turn) (c : Crowd) :
    afterTurns (before ++ later) c = afterTurns later (afterTurns before c) := List.foldl_append

theorem invariant_afterTurns {P : Crowd → Prop} (hturn : ∀ c turn, P c → P (Turn.after turn c))
    {c : Crowd} (h : P c) (turns : List Turn) : P (afterTurns turns c) := by
  induction turns generalizing c with
  | nil => exact h
  | cons turn rest ih => exact ih (hturn c turn h)

variable {c : Crowd} {turn : Turn} {turns : List Turn} {s : Descriptor × World} {i : Nat}
  {caller : Caller} {loan : Loan} {step : Step} {answer : Except Fault (Option Loan)}

-- ---------------------------------------------------------------------------
-- One caller
-- ---------------------------------------------------------------------------

theorem run_acquireOnce (s : Descriptor × World) : acquireOnce.run s = getTile.run s := by
  obtain ⟨d, world⟩ := s
  unfold getTile
  rw [run_bind, run_own]
  dsimp only
  cases hs : d.settled? with
  | none => rfl
  | some answer =>
    unfold acquireOnce
    rw [run_bind, run_own]
    simp only [hs]

theorem after_go (h : c.callers[i]? = some caller) :
    (Turn.go i).after c =
      ⟨(caller.next c.shared).2, c.callers.set i (caller.next c.shared).1⟩ := by
  simp only [Turn.after, h]

theorem after_go_missing (h : c.callers[i]? = none) : (Turn.go i).after c = c := by
  simp only [Turn.after, h]

theorem settled_of_unserved (hc : s.1.cached = none) (ha : s.1.state ≠ .absent)
    (hf : s.1.state ≠ .fatal) : s.1.settled? = none := by
  simp [settled?, hc, ha, hf]

theorem run_eq_afterTurns (c : Crowd) :
    let n := c.callers.length
    let t := afterTurns [.arrive, .go n, .go n, .go n, .go n] c
    t.shared = (getTile.run c.shared).2 ∧
      t.callers[n]? = some (.answered (getTile.run c.shared).1) := by
  obtain ⟨⟨d, world⟩, callers⟩ := c
  dsimp only
  cases hc : d.cached with
  | some loan =>
    rw [run_getTile_settled (settled_of_cached hc)]
    simp [afterTurns, Turn.after, Caller.next, hc]
  | none =>
    by_cases ha : d.state = .absent
    · have hs : d.settled? = some (.ok none) := by simp [settled?, hc, ha]
      rw [run_getTile_settled hs]
      simp [afterTurns, Turn.after, Caller.next, hc, ha]
    · by_cases hf : d.state = .fatal
      · have hs : d.settled? = some (.error (d.unreachable none)) := by simp [settled?, hc, hf]
        rw [run_getTile_settled hs]
        simp [afterTurns, Turn.after, Caller.next, hc, hf]
      · simp [afterTurns, Turn.after, Caller.next, hc, ha, hf, run_acquireOnce]

theorem caller_after (h : (turn.after c).callers[i]? = some caller) :
    c.callers[i]? = some caller ∨ caller = .arrived ∨
      ∃ before, turn = .go i ∧ c.callers[i]? = some before ∧
        caller = (before.next c.shared).1 := by
  cases turn with
  | arrive =>
    simp only [Turn.after, List.getElem?_append, List.getElem?_singleton] at h
    split at h
    · exact .inl h
    · split at h
      · exact .inr (.inl (Option.some.inj h).symm)
      · cases h
  | go j =>
    cases hj : c.callers[j]? with
    | none => exact .inl (by rwa [after_go_missing hj] at h)
    | some before =>
      rw [after_go hj, List.getElem?_set] at h
      split at h
      · next heq =>
        subst heq
        split at h
        · exact .inr (.inr ⟨before, rfl, hj, (Option.some.inj h).symm⟩)
        · cases h
      · exact .inl h
  | disableRemote => exact .inl h
  | outside change => exact .inl h

-- ---------------------------------------------------------------------------
-- A crowd's history
-- ---------------------------------------------------------------------------

/-- A turn is a step of a history, and never that of disposing, or changes nothing. -/
theorem shared_after (c : Crowd) (turn : Turn) :
    (turn.after c).shared = c.shared ∨
      ∃ step : Step, step ≠ .call .dispose ∧ (turn.after c).shared = step.after c.shared := by
  cases turn with
  | arrive => exact .inl rfl
  | go i =>
    cases hi : c.callers[i]? with
    | none => exact .inl (by rw [after_go_missing hi])
    | some caller =>
      rw [after_go hi]
      cases caller with
      | arrived =>
        refine .inl ?_
        cases hc : c.shared.1.cached <;> simp [Caller.next, hc]
      | waiting =>
        refine .inr ⟨.call .getTile, by simp, ?_⟩
        simp only [Caller.next, run_acquireOnce]
        rfl
      | _ => exact .inl rfl
  | disableRemote => exact .inr ⟨.call .disableRemote, by simp, rfl⟩
  | outside change => exact .inr ⟨.outside change, by simp, rfl⟩

theorem invariant_shared {P : Descriptor × World → Prop}
    (hstep : ∀ s step, step ≠ .call .dispose → P s → P (Step.after step s)) (c : Crowd) (turn : Turn)
    (h : P c.shared) : P (turn.after c).shared := by
  rcases shared_after c turn with heq | ⟨step, hne, heq⟩
  · rwa [heq]
  · rw [heq]
    exact hstep c.shared step hne h

theorem sound_afterTurns (h : Sound c.shared.1) (turns : List Turn) :
    Sound (afterTurns turns c).shared.1 :=
  invariant_afterTurns (P := fun c => Sound c.shared.1)
    (invariant_shared fun s step _ => sound_step s step) h turns

-- ---------------------------------------------------------------------------
-- Settled descriptors
-- ---------------------------------------------------------------------------

theorem settled_step (s : Descriptor × World) (step : Step) (hne : step ≠ .call .dispose)
    (h : s.1.settled? = some answer) : (step.after s).1.settled? = some answer := by
  obtain ⟨d, world⟩ := s
  rcases step with (_ | _ | _) | change
  · change (getTile.run (d, world)).2.1.settled? = some answer
    rw [run_getTile_settled h]
    exact h
  · exact absurd rfl hne
  · exact h
  · exact h

theorem settled_after (c : Crowd) (turn : Turn) (h : c.shared.1.settled? = some answer) :
    (turn.after c).shared.1.settled? = some answer :=
  invariant_shared (P := fun s => s.1.settled? = some answer) settled_step c turn h

theorem cached_of_settled (h : s.1.settled? = some (.ok (some loan))) :
    s.1.cached = some loan := by
  unfold settled? at h
  split at h
  · next hc =>
    rw [hc]
    simpa using h
  · split at h
    · simp at h
    · split at h <;> simp at h

theorem next_of_settled (h : s.1.settled? = some answer) (caller : Caller) (world : World) :
    caller.next (s.1, world) = ((caller.next s).1, s.1, world) := by
  cases caller with
  | arrived => cases hc : s.1.cached <;> simp [Caller.next, hc]
  | waiting =>
    obtain ⟨d, world'⟩ := s
    simp only [Caller.next, run_acquireOnce, run_getTile_settled h]
  | _ => rfl

theorem work_of_settled (h : c.shared.1.settled? = some answer) (turn : Turn) :
    (turn.after c).shared.2.events = c.shared.2.events := by
  cases turn with
  | go i =>
    cases hi : c.callers[i]? with
    | none => rw [after_go_missing hi]
    | some caller =>
      rw [after_go hi, show caller.next c.shared = _ from next_of_settled h caller c.shared.2]
  | _ => rfl

theorem work_afterTurns_of_settled (h : c.shared.1.settled? = some answer) (turns : List Turn) :
    c.shared.2.work (afterTurns turns c).shared.2 = [] := by
  refine World.work_of_events_eq (invariant_afterTurns
    (P := fun t => t.shared.1.settled? = some answer ∧ t.shared.2.events = c.shared.2.events)
    ?_ ⟨h, rfl⟩ turns).2
  rintro t turn ⟨hsettled, hevents⟩
  exact ⟨settled_after t turn hsettled, (work_of_settled hsettled turn).trans hevents⟩

-- ---------------------------------------------------------------------------
-- The tile that callers are given
-- ---------------------------------------------------------------------------

theorem cached_of_lent (h : (getTile.run s).1 = .ok (some loan)) :
    (getTile.run s).2.1.cached = some loan := by
  have ha : Acquired s.1 s.2 (getTile.run s).1 (getTile.run s).2.1 _ := acquired_getTile s.1 s.2
  rw [h] at ha
  revert ha
  generalize (getTile.run s).2.1 = d'
  generalize World.work _ _ = work
  intro ha
  cases ha with
  | settled hs => exact cached_of_settled (s := s) hs
  | unfetched _ _ _ hnone => exact absurd rfl (hnone loan)
  | lent => rfl

def Served (c : Crowd) : Prop :=
  ∀ (i : Nat) loan, c.callers[i]? = some (.answered (.ok (some loan))) →
    c.shared.1.cached = some loan

theorem cached_of_next (h : (caller.next s).1 = .answered (.ok (some loan)))
    (hold : caller = .answered (.ok (some loan)) → s.1.cached = some loan) :
    (caller.next s).2.1.cached = some loan := by
  cases caller with
  | arrived =>
    cases hc : s.1.cached with
    | none => simp [Caller.next, hc] at h
    | some held =>
      simp only [Caller.next, hc, Caller.answered.injEq, Except.ok.injEq] at h ⊢
      exact h
  | unserved =>
    simp only [Caller.next] at h
    split at h <;> simp at h
  | hopeful =>
    simp only [Caller.next] at h
    split at h <;> simp at h
  | waiting =>
    simp only [Caller.next, run_acquireOnce, Caller.answered.injEq] at h ⊢
    exact cached_of_lent h
  | answered answer => exact hold h

theorem served_after (c : Crowd) (turn : Turn) (h : Served c) : Served (turn.after c) := by
  -- A tile that is cached stays so, whoever was given it before the turn.
  have hkept : ∀ (i : Nat) loan, c.callers[i]? = some (.answered (.ok (some loan))) →
      (turn.after c).shared.1.cached = some loan := fun i loan hi =>
    cached_of_settled (settled_after c turn (settled_of_cached (h i loan hi)))
  intro i loan hi
  rcases caller_after hi with hold | hnew | ⟨caller, rfl, hcaller, hnext⟩
  · exact hkept i loan hold
  · cases hnew
  · rw [after_go hcaller]
    refine cached_of_next hnext.symm ?_
    rintro rfl
    exact h i loan hcaller

-- ---------------------------------------------------------------------------
-- Late callers
-- ---------------------------------------------------------------------------

def Caller.Heeds (answer : Except Fault (Option Loan)) (d : Descriptor) : Caller → Prop
  | arrived => True
  | unserved => d.cached = none
  | hopeful => d.cached = none ∧ d.state ≠ .absent
  | waiting => False
  | answered given => given = answer

theorem heeds_next (hs : s.1.settled? = some answer) (h : caller.Heeds answer s.1) :
    (caller.next s).1.Heeds answer s.1 := by
  cases caller with
  | arrived =>
    cases hc : s.1.cached with
    | some loan =>
      have hanswer := hs.symm.trans (settled_of_cached hc)
      simpa [Caller.next, hc, Caller.Heeds] using hanswer.symm
    | none => simp [Caller.next, hc, Caller.Heeds]
  | unserved =>
    have hc : s.1.cached = none := h
    by_cases ha : s.1.state = .absent
    · simpa [Caller.next, Caller.Heeds, ha, settled?, hc] using hs
    · simp [Caller.next, Caller.Heeds, ha, hc]
  | hopeful =>
    obtain ⟨hc, ha⟩ := h
    by_cases hf : s.1.state = .fatal
    · simpa [Caller.next, Caller.Heeds, hf, settled?, hc] using hs
    · rw [settled_of_unserved hc ha hf] at hs
      cases hs
  | waiting => exact h.elim
  | answered => exact h

theorem read_after (hs : c.shared.1.settled? = some answer) (turn : Turn) :
    (turn.after c).shared.1.cached = c.shared.1.cached ∧
      (turn.after c).shared.1.state = c.shared.1.state := by
  cases turn with
  | go i =>
    cases hi : c.callers[i]? with
    | none => rw [after_go_missing hi]; exact ⟨rfl, rfl⟩
    | some caller =>
      rw [after_go hi, show caller.next c.shared = _ from next_of_settled hs caller c.shared.2]
      exact ⟨rfl, rfl⟩
  | _ => exact ⟨rfl, rfl⟩

structure Late (answer : Except Fault (Option Loan)) (n : Nat) (c : Crowd) : Prop where
  settled : c.shared.1.settled? = some answer
  heeds : ∀ (i : Nat) caller, n ≤ i → c.callers[i]? = some caller → caller.Heeds answer c.shared.1

theorem late_after {n : Nat} (c : Crowd) (turn : Turn) (h : Late answer n c) :
    Late answer n (turn.after c) := by
  obtain ⟨hcached, hstate⟩ := read_after h.settled turn
  refine ⟨settled_after c turn h.settled, fun i caller hi hcaller => ?_⟩
  have hheeds : caller.Heeds answer c.shared.1 := by
    rcases caller_after hcaller with hold | rfl | ⟨before, -, hbefore, rfl⟩
    · exact h.heeds i caller hi hold
    · trivial
    · exact heeds_next h.settled (h.heeds i before hi hbefore)
  cases caller with
  | unserved => exact hcached.trans hheeds
  | hopeful => exact ⟨hcached.trans hheeds.1, hstate ▸ hheeds.2⟩
  | _ => exact hheeds

-- ---------------------------------------------------------------------------
-- Every caller is answered
-- ---------------------------------------------------------------------------

def Caller.rank : Caller → Nat
  | arrived => 0
  | unserved => 1
  | hopeful => 2
  | waiting => 3
  | answered _ => 4

theorem rank_next (caller : Caller) (s : Descriptor × World) :
    min 4 (caller.rank + 1) ≤ (caller.next s).1.rank := by
  cases caller with
  | arrived => cases hc : s.1.cached <;> simp [Caller.next, hc, Caller.rank]
  | unserved => by_cases ha : s.1.state = .absent <;> simp [Caller.next, ha, Caller.rank]
  | hopeful => by_cases hf : s.1.state = .fatal <;> simp [Caller.next, hf, Caller.rank]
  | waiting => simp [Caller.next, Caller.rank]
  | answered => simp [Caller.next, Caller.rank]

theorem rank_after (h : c.callers[i]? = some caller) (turn : Turn) :
    ∃ after, (turn.after c).callers[i]? = some after ∧ caller.rank ≤ after.rank ∧
      (turn = .go i → min 4 (caller.rank + 1) ≤ after.rank) := by
  obtain ⟨hlt, -⟩ := List.getElem?_eq_some_iff.mp h
  cases turn with
  | arrive =>
    refine ⟨caller, ?_, Nat.le_refl _, by simp⟩
    simp only [Turn.after, List.getElem?_append_left hlt, h]
  | go j =>
    by_cases heq : j = i
    · subst heq
      have hnext := rank_next caller c.shared
      refine ⟨(caller.next c.shared).1, by simp [after_go h, hlt], ?_, fun _ => hnext⟩
      have hle : caller.rank ≤ 4 := by cases caller <;> simp [Caller.rank]
      omega
    · refine ⟨caller, ?_, Nat.le_refl _, by simp [heq]⟩
      cases hj : c.callers[j]? with
      | none => rw [after_go_missing hj, h]
      | some other => simp [after_go hj, heq, h]
  | disableRemote => exact ⟨caller, h, Nat.le_refl _, by simp⟩
  | outside change => exact ⟨caller, h, Nat.le_refl _, by simp⟩

/-- Each of its turns brings a caller on, whatever happens in between. -/
theorem rank_afterTurns {k : Nat} (h : c.callers[i]? = some caller)
    (hturns : (List.replicate k (Turn.go i)).Sublist turns) :
    ∃ after, (afterTurns turns c).callers[i]? = some after ∧
      min 4 (caller.rank + k) ≤ after.rank := by
  induction turns generalizing c caller k with
  | nil =>
    obtain rfl : k = 0 := by simpa using hturns
    exact ⟨caller, h, Nat.min_le_right 4 caller.rank⟩
  | cons turn rest ih =>
    obtain ⟨next, hnext, hle, hown⟩ := rank_after h turn
    rcases List.sublist_cons_iff.mp hturns with hrest | ⟨own, heq, hrest⟩
    · obtain ⟨after, hafter, hrank⟩ := ih hnext hrest
      exact ⟨after, hafter, by omega⟩
    · obtain ⟨k, rfl⟩ : ∃ n, k = n + 1 := Nat.exists_eq_succ_of_ne_zero (by rintro rfl; simp at heq)
      obtain ⟨rfl, rfl⟩ := List.cons.inj heq
      obtain ⟨after, hafter, hrank⟩ := ih hnext hrest
      have hstep := hown rfl
      exact ⟨after, hafter, by omega⟩

/-- A caller that comes after the answer was settled gets it by reading alone. -/
theorem answered_of_late (hs : c.shared.1.settled? = some answer) (middle later : List Turn)
    (hturns : (List.replicate 3 (.go (afterTurns middle c).callers.length)).Sublist later) :
    (afterTurns (middle ++ .arrive :: later) c).callers[(afterTurns middle c).callers.length]? =
      some (.answered answer) := by
  let t := afterTurns middle c
  have hsettled : t.shared.1.settled? = some answer :=
    invariant_afterTurns (P := fun c => c.shared.1.settled? = some answer) settled_after hs middle
  have harrived : (Turn.arrive.after t).callers[t.callers.length]? = some .arrived := by
    simp [Turn.after]
  have hlate : Late answer t.callers.length (Turn.arrive.after t) := by
    refine ⟨hsettled, fun i caller hi hcaller => ?_⟩
    rcases caller_after hcaller with hold | rfl | ⟨before, hgo, -⟩
    · simp [List.getElem?_eq_none hi] at hold
    · trivial
    · cases hgo
  rw [afterTurns_append]
  obtain ⟨after, hafter, hrank⟩ := rank_afterTurns harrived hturns
  have hheeds := (invariant_afterTurns (P := Late answer t.callers.length) late_after hlate
    later).heeds _ after (Nat.le_refl _) hafter
  -- Three steps bring it to the lock at least, and a late caller does not wait there.
  cases after with
  | waiting => exact hheeds.elim
  | answered given => exact (show given = answer from hheeds) ▸ hafter
  | _ => simp [Caller.rank] at hrank

-- ---------------------------------------------------------------------------
-- One acquisition for all
-- ---------------------------------------------------------------------------

theorem work_turn (c : Crowd) (turn : Turn) :
    ∃ fetch decode : Option Event, turn.work c = fetch.toList ++ decode.toList ∧
      (∀ event ∈ fetch, event.isFetch) ∧ ∀ event ∈ decode, event.isDecode := by
  have hquiet : (turn.after c).shared.2.events = c.shared.2.events →
      ∃ fetch decode : Option Event, turn.work c = fetch.toList ++ decode.toList ∧
        (∀ event ∈ fetch, event.isFetch) ∧ ∀ event ∈ decode, event.isDecode := fun h =>
    ⟨none, none, World.work_of_events_eq h, by simp, by simp⟩
  rcases shared_after c turn with heq | ⟨step, hne, heq⟩
  · exact hquiet (by rw [heq])
  · rcases step with (_ | _ | _) | change
    · obtain ⟨fetch, decode, hwork, hfetch, hdecode⟩ := work_getTile c.shared
      refine ⟨fetch, decode, ?_, fun event he => (hfetch event he).1, hdecode⟩
      rw [Turn.work, heq]
      exact hwork
    · exact absurd rfl hne
    · exact hquiet (by rw [heq]; rfl)
    · exact hquiet (by rw [heq]; rfl)

theorem cached_of_yieldsTile (h : turn.YieldsTile c) (hserved : Served c) :
    ∃ loan, (turn.after c).shared.1.cached = some loan := by
  obtain ⟨-, i, loan, -, hcaller⟩ := h
  exact ⟨loan, served_after c turn hserved i loan hcaller⟩

theorem not_yieldsTile_of_settled (h : c.shared.1.settled? = some answer) (turn : Turn) :
    ¬ turn.YieldsTile c := by
  rintro ⟨⟨event, hevent, -⟩, -⟩
  rw [show turn.work c = [] from World.work_of_events_eq (work_of_settled h turn)] at hevent
  cases hevent

/-- Whatever was done with a descriptor before, and however the steps of any number
of callers, disabled fetches and changes of the files come after each other, as long
as nobody disposes of it: a step fetches and decodes once at most, and one of the
decodes at most yields a tile; callers that are given a tile are given the same one;
once the state is ready, absent or fatal nothing is fetched or decoded any more, and
what a caller does next is the same in any world and leaves it alone; and who comes
then is given the tile, none or the fault. -/
theorem shared_acquisition (copy : LocalCopy) (fetcher : Option Fetcher) (world : World)
    (history : List Step) (turns : List Turn) :
    let c := afterTurns turns { shared := afterSteps history (fresh copy fetcher, world) }
    let d := c.shared.1
    (∀ turn : Turn, ∃ fetch decode : Option Event,
      turn.work c = fetch.toList ++ decode.toList ∧
        (∀ event ∈ fetch, event.isFetch) ∧ ∀ event ∈ decode, event.isDecode) ∧
    (∀ (turn : Turn) middle (turn' : Turn), turn.YieldsTile c →
      ¬ turn'.YieldsTile (afterTurns (turn :: middle) c)) ∧
    (∀ (i j : Nat) loan loan', c.callers[i]? = some (.answered (.ok (some loan))) →
      c.callers[j]? = some (.answered (.ok (some loan'))) → loan' = loan) ∧
    (d.state = .ready ∨ d.state = .absent ∨ d.state = .fatal → ∀ later,
      let t := afterTurns later c
      c.shared.2.work t.shared.2 = [] ∧ ∀ (caller : Caller) world',
        caller.next (t.shared.1, world') = ((caller.next t.shared).1, t.shared.1, world')) ∧
    ∀ middle later, let n := (afterTurns middle c).callers.length
      (List.replicate 3 (.go n)).Sublist later →
        let caller := (afterTurns (middle ++ .arrive :: later) c).callers[n]?
        (d.state = .ready → ∃ loan, d.cached = some loan ∧
          caller = some (.answered (.ok (some loan)))) ∧
        (d.state = .absent → caller = some (.answered (.ok none))) ∧
        (d.state = .fatal → caller = some (.answered (.error (d.unreachable none)))) := by
  intro c d
  have hsound : Sound d :=
    sound_afterTurns (sound_afterSteps (sound_fresh copy fetcher) history) turns
  have hserved : Served c := invariant_afterTurns served_after (by simp [Served]) turns
  have hready : d.state = .ready → ∃ loan, d.cached = some loan := fun hs =>
    Option.isSome_iff_exists.mp (hsound.cached.mpr hs)
  refine ⟨work_turn c, ?_, ?_, ?_, ?_⟩
  · intro turn middle turn' hyields
    obtain ⟨loan, hloan⟩ := cached_of_yieldsTile hyields hserved
    exact not_yieldsTile_of_settled (invariant_afterTurns
      (P := fun c => c.shared.1.settled? = some (.ok (some loan))) settled_after
      (settled_of_cached hloan) middle) turn'
  · intro i j loan loan' hi hj
    exact Option.some.inj ((hserved j loan' hj).symm.trans (hserved i loan hi))
  · intro hstate later t
    obtain ⟨answer, hs⟩ : ∃ answer, d.settled? = some answer := by
      rcases hstate with hs | hs | hs
      · obtain ⟨loan, hloan⟩ := hready hs
        exact ⟨_, settled_of_cached hloan⟩
      · exact ⟨_, settled_of_absent hsound hs⟩
      · exact ⟨_, settled_of_fatal hsound hs⟩
    exact ⟨work_afterTurns_of_settled hs later, next_of_settled (invariant_afterTurns
      (P := fun c => c.shared.1.settled? = some answer) settled_after hs later)⟩
  · intro middle later n hturns caller
    refine ⟨fun hs => ?_, fun hs => ?_, fun hs => ?_⟩
    · obtain ⟨loan, hloan⟩ := hready hs
      exact ⟨loan, hloan, answered_of_late (settled_of_cached hloan) middle later hturns⟩
    · exact answered_of_late (settled_of_absent hsound hs) middle later hturns
    · exact answered_of_late (settled_of_fatal hsound hs) middle later hturns

end TerrainTiles.Descriptor
