/-!
# Cutting text at a character

`splitAt` cuts text at every occurrence of a character, `splitFirst?` at the first
one and `splitLast?` at the last one. All recur on the text.
-/

namespace TerrainTiles.Text

/-- The pieces between the occurrences of `mark`; always at least one. -/
def splitAt (mark : Char) : List Char → List (List Char)
  | [] => [[]]
  | c :: rest =>
    if c = mark then [] :: splitAt mark rest
    else match splitAt mark rest with
      | [] => [[c]]
      | piece :: pieces => (c :: piece) :: pieces

/-- What stands before and after the first occurrence of `mark`. -/
def splitFirst? (mark : Char) : List Char → Option (List Char × List Char)
  | [] => none
  | c :: rest =>
    if c = mark then some ([], rest)
    else (splitFirst? mark rest).map fun (before, after) => (c :: before, after)

/-- What stands before and after the last occurrence of `mark`. -/
def splitLast? (mark : Char) : List Char → Option (List Char × List Char)
  | [] => none
  | c :: rest =>
    match splitLast? mark rest with
    | some (before, after) => some (c :: before, after)
    | none => if c = mark then some ([], rest) else none

/-- The last piece: everything, if the mark does not occur. -/
def lastPiece (mark : Char) (cs : List Char) : List Char :=
  match splitLast? mark cs with
  | some (_, after) => after
  | none => cs

theorem splitFirst?_eq_some {mark : Char} {cs before after : List Char}
    (h : splitFirst? mark cs = some (before, after)) :
    cs = before ++ mark :: after ∧ mark ∉ before := by
  induction cs generalizing before with
  | nil => simp [splitFirst?] at h
  | cons c rest ih =>
    simp only [splitFirst?] at h
    split at h
    case isTrue hc =>
      cases h
      exact ⟨by simp [hc], by simp⟩
    case isFalse hc =>
      obtain ⟨⟨b, a⟩, hs, he⟩ := Option.map_eq_some_iff.mp h
      cases he
      obtain ⟨hr, hn⟩ := ih hs
      exact ⟨by simp [hr], by simp [hn, Ne.symm hc]⟩

theorem splitFirst?_eq_none_iff (mark : Char) (cs : List Char) :
    splitFirst? mark cs = none ↔ mark ∉ cs := by
  induction cs with
  | nil => simp [splitFirst?]
  | cons c rest ih =>
    by_cases hc : c = mark
    · simp [splitFirst?, hc]
    · simp [splitFirst?, hc, Ne.symm hc, ih]

theorem splitLast?_eq_some {mark : Char} {cs before after : List Char}
    (h : splitLast? mark cs = some (before, after)) :
    cs = before ++ mark :: after ∧ mark ∉ after := by
  induction cs generalizing before with
  | nil => simp [splitLast?] at h
  | cons c rest ih =>
    simp only [splitLast?] at h
    split at h
    case h_1 b a he =>
      obtain ⟨rfl, rfl⟩ := by simpa using h
      obtain ⟨hr, hn⟩ := ih he
      exact ⟨by simp [hr], hn⟩
    case h_2 he =>
      split at h
      case isTrue hc =>
        obtain ⟨rfl, rfl⟩ := by simpa using h
        exact ⟨by simp [hc], not_mem_of_splitLast? he⟩
      case isFalse => simp at h
where
  not_mem_of_splitLast? {mark : Char} {cs : List Char} (h : splitLast? mark cs = none) :
      mark ∉ cs := by
    induction cs with
    | nil => simp
    | cons c rest ih =>
      simp only [splitLast?] at h
      split at h
      · simp at h
      · next he =>
        split at h
        · simp at h
        · next hc => simp [ih he, Ne.symm hc]

end TerrainTiles.Text
