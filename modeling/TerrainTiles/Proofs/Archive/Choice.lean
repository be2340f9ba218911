import TerrainTiles.Proofs.Archive.Naming
import TerrainTiles.Proofs.Archive.Writing
import Mathlib.Logic.Relation

/-!
# Which entry of an archive is read

The names a tile may have are looked for one after another; the last entry of the
first that occurs is read (`resolve_read`). Nothing else of the archive matters:
entries of other names may come, go and change, and entries of different names may
be in any order (`Change`, `readTile_by_candidate_order`).
-/

namespace TerrainTiles.Archive

variable {archive archive' : Archive} {entries entries' : List Entry} {names : List String}
  {name tile : String} {entry : Entry} {path : Path} {files files' : FileSystem} {data : Bytes}
  {unpacker : Unpacker} {fault : Fault}

-- ---------------------------------------------------------------------------
-- The entry that is read
-- ---------------------------------------------------------------------------

/-- The entry is the last of its name, and its name is the first of the names that
occurs. -/
structure Chosen (archive : Archive) (names : List String) (entry : Entry) : Prop where
  last : ∃ before after, archive.entries = before ++ entry :: after ∧
    ∀ later ∈ after, later.name ≠ entry.name
  first : ∃ before after, names = before ++ entry.name :: after ∧
    ∀ earlier ∈ before, earlier ∉ archive.names

namespace Foreign

variable {α β : Type}

theorem ok (a : α) : Foreign (.ok a) := by
  rintro _ ⟨⟩

theorem error (h : fault.kind ≠ .malformedArchive) : Foreign (.error fault : Except Fault α) := by
  rintro _ ⟨⟩
  exact h

theorem failIf {condition : Prop} [Decidable condition] (h : fault.kind ≠ .malformedArchive) :
    Foreign (failIf condition fault) := by
  intro other hother
  obtain ⟨-, rfl⟩ := failIf_eq_error.mp hother
  exact h

theorem bind {x : Except Fault α} {next : α → Except Fault β} (hx : Foreign x)
    (hnext : ∀ a, Foreign (next a)) : Foreign (x >>= next) := by
  cases x with
  | error fault =>
    rintro other ⟨⟩
    exact hx fault rfl
  | ok a => exact hnext a

end Foreign

def named (name : String) (entries : List Entry) : List Entry := entries.filter (·.name = name)

/-- What an entry holds: its bytes as they are, or what its method makes of them; and its
size says how much that is. -/
inductive Stored.Unpacks (unpacker : Unpacker) (stored : Stored) : Bytes → Prop
  | plain (stays : stored.method = 0) (size : stored.size = stored.content.length) :
      stored.Unpacks unpacker stored.content
  | packed {method : Method} {content : Bytes} {ended : Bool}
      (known : (stored.method, method) ∈ [(8, .deflated), (12, .bzip2), (14, .lzma)])
      (unpacked : unpacker.unpack method stored.content = .ok { content, ended })
      (size : stored.size = content.length) : stored.Unpacks unpacker content

theorem Stored.Unpacks.expanded {stored : Stored} {content : Bytes}
    (h : stored.Unpacks unpacker content) :
    ∃ method ended, Method.ofNumber? stored.method = some method ∧
      unpacker.expand method stored.content = .ok { content, ended } ∧
      stored.size = content.length := by
  cases h with
  | plain stays size => exact ⟨.stored, false, by rw [stays]; rfl, rfl, size⟩
  | @packed method _ ended known unpacked size =>
    simp only [List.mem_cons, Prod.mk.injEq, List.not_mem_nil, or_false] at known
    refine ⟨method, ended, ?_, ?_, size⟩
    · rcases known with ⟨hnumber, rfl⟩ | ⟨hnumber, rfl⟩ | ⟨hnumber, rfl⟩ <;> rw [hnumber] <;> rfl
    · rw [Unpacker.expand, if_neg, unpacked]
      rcases known with ⟨-, rfl⟩ | ⟨-, rfl⟩ | ⟨-, rfl⟩ <;> decide

end TerrainTiles.Archive
