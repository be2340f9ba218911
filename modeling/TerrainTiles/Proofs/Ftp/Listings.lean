import TerrainTiles.Proofs.Archive.Naming
import TerrainTiles.Proofs.Ftp.Course
import TerrainTiles.Proofs.Text.Numeral

/-!
# The two ways of listing

A directory is told of in two ways: with facts, or name by name, where a server has
a size for what is a file and refuses one for the rest. Both tell the same
(`Session.listSizes_agree`): the plain files of the directory, each with its size.
What the server gave before it refused the facts is dropped.

Sizes among the facts are numerals, and have to be short enough to be read. An
overlong one fails the listing even where its entry would be dropped
(`Session.listSizes_overlong`).
-/

namespace TerrainTiles.Ftp

-- ---------------------------------------------------------------------------
-- Directories and what servers tell of them
-- ---------------------------------------------------------------------------

structure Item where
  name : String
  size : Option Nat

def plainFiles (content : List Item) : Listing :=
  content.filterMap fun item => item.size.map fun size : Nat => (item.name, some (size : Int))

/-- No two names are alike, and none has a slash. -/
structure Named (content : List Item) : Prop where
  nodup : (content.map Item.name).Nodup
  flat : ∀ item ∈ content, '/' ∉ item.name.toList

def Facts.Tell (facts : Facts) : Option Nat → Prop
  | some size => facts.lookup "type" = some "file" ∧
      ∃ text, facts.lookup "size" = some text ∧ Text.Numeral text size
  | none => ∃ type, facts.lookup "type" = some type ∧ type ≠ "file"

/-- A size among the facts is not too long to be read. -/
def Facts.Short (facts : Facts) : Prop :=
  ∀ text, facts.lookup "size" = some text → text.length ≤ Text.maxDigits

namespace Catalogue

structure Reports (catalogue : Catalogue) (content : List Item) : Prop where
  entries : List.Forall₂ (fun item entry => entry.1 = item.name ∧ entry.2.Tell item.size)
    content catalogue.entries
  complete : catalogue.failure = none

/-- The facts are refused, maybe after some entries, which can be of anywhere. -/
structure Refused (catalogue : Catalogue) : Prop where
  sizes : ∀ entry ∈ catalogue.entries, ∀ text, entry.2.lookup "size" = some text →
    ∃ size, Text.Numeral text size
  failure : ∃ fault, catalogue.failure = some fault ∧ fault.kind = .ftpPermanent

def Short (catalogue : Catalogue) : Prop := ∀ entry ∈ catalogue.entries, entry.2.Short

end Catalogue

def Leads (entry name : String) : Prop :=
  ∃ before : List Char, (before = [] ∨ before.getLast? = some '/') ∧
    entry.toList = before ++ name.toList

def Server.Sizes (server : Server) (path : String) : Option Nat → Prop
  | some size => server.size path = .ok (some (size : Int))
  | none => ∃ fault, server.size path = .error fault ∧ fault.kind = .ftpPermanent

/-- The server names what the directory holds, in any order, and gives the sizes. -/
structure Server.Tells (server : Server) (directory : String) (content : List Item) : Prop where
  names : ∃ entries order, server.names = .ok entries ∧ order.Perm content ∧
    List.Forall₂ (fun item entry => Leads entry item.name) order entries
  sizes : ∀ item ∈ content, server.Sizes (joinRemote directory item.name) item.size

-- ---------------------------------------------------------------------------
-- Listings as maps
-- ---------------------------------------------------------------------------

namespace Listing

variable {listing other : Listing} {name : String} {size : Option Int}

theorem insert_of_not_mem (h : name ∉ listing.map Prod.fst) :
    listing.insert name size = listing ++ [(name, size)] := by
  induction listing with
  | nil => rfl
  | cons entry rest ih =>
    obtain ⟨hne, hrest⟩ : name ≠ entry.1 ∧ name ∉ rest.map Prod.fst := by simpa using h
    simp [insert, hne.symm, ih hrest]

def insertAll (listing : Listing) (files : Listing) : Listing :=
  files.foldl (fun listing file => listing.insert file.1 file.2) listing

theorem insertAll_of_nodup {files : Listing} (h : ((listing ++ files).map Prod.fst).Nodup) :
    listing.insertAll files = listing ++ files := by
  induction files generalizing listing with
  | nil => simp [insertAll]
  | cons file rest ih =>
    have hnew : file.1 ∉ listing.map Prod.fst := by
      rw [List.map_append, List.map_cons] at h
      exact fun hmem => (List.nodup_append.mp h).2.2 _ hmem _ List.mem_cons_self rfl
    have hrest : (((listing ++ [file]) ++ rest).map Prod.fst).Nodup := by simpa using h
    change (listing.insert file.1 file.2).insertAll rest = _
    rw [insert_of_not_mem hnew, ih hrest, List.append_assoc]
    rfl

theorem lookup_eq_some_iff (h : (listing.map Prod.fst).Nodup) :
    listing.lookup name = some size ↔ (name, size) ∈ listing := by
  induction listing with
  | nil => simp
  | cons entry rest ih =>
    obtain ⟨key, held⟩ := entry
    obtain ⟨hkey, hrest⟩ := List.nodup_cons.mp h
    by_cases hname : name = key
    · subst hname
      have hout : (name, size) ∉ rest := fun hmem => hkey (List.mem_map.mpr ⟨_, hmem, rfl⟩)
      simp [hout, eq_comm]
    · have hkey : (name == key) = false := by simpa using hname
      simp [List.lookup_cons, hname, hkey, ih hrest]

theorem lookup_eq_of_perm (h : (listing.map Prod.fst).Nodup) (hperm : other.Perm listing)
    (name : String) : other.lookup name = listing.lookup name := by
  have hother : (other.map Prod.fst).Nodup := (hperm.map Prod.fst).nodup_iff.mpr h
  ext size
  rw [lookup_eq_some_iff h, lookup_eq_some_iff hother, hperm.mem_iff]

end Listing

variable {content order : List Item} {item : Item} {catalogue : Catalogue} {server : Server}
  {facts : Facts} {directory entry name : String} {entries : List (String × Facts)}

theorem map_fst_plainFiles (content : List Item) :
    ((plainFiles content).map Prod.fst).Sublist (content.map Item.name) := by
  induction content with
  | nil => exact .slnil
  | cons item rest ih =>
    obtain ⟨name, size⟩ := item
    cases size with
    | none => exact ih.cons name
    | some size => exact ih.cons_cons name

theorem mem_plainFiles {size : Option Int} : (name, size) ∈ plainFiles content ↔
    ∃ n : Nat, { name, size := some n } ∈ content ∧ size = some (n : Int) := by
  simp only [plainFiles, List.mem_filterMap, Option.map_eq_some_iff, Prod.mk.injEq]
  constructor
  · rintro ⟨⟨_, _⟩, hmem, n, rfl, rfl, rfl⟩
    exact ⟨n, hmem, rfl⟩
  · rintro ⟨n, hmem, rfl⟩
    exact ⟨_, hmem, n, rfl, rfl, rfl⟩

theorem Named.nodup_plainFiles (h : Named content) :
    ((plainFiles content).map Prod.fst).Nodup :=
  h.nodup.sublist (map_fst_plainFiles content)

-- ---------------------------------------------------------------------------
-- With facts
-- ---------------------------------------------------------------------------

theorem sizeFact_of_tell {size : Option Nat} (h : facts.Tell size) (hshort : facts.Short) :
    sizeFact facts = .ok (size.map fun size : Nat => some (size : Int)) := by
  cases size with
  | none =>
    obtain ⟨type, htype, hne⟩ := h
    simp [sizeFact, htype, hne]
  | some size =>
    obtain ⟨htype, text, htext, hnumeral⟩ := h
    simp [sizeFact, htype, htext, Text.readInteger_numeral hnumeral (hshort text htext)]
    rfl

theorem listEntries_of_tell (listing : Listing)
    (htell : List.Forall₂ (fun item entry => entry.1 = item.name ∧ entry.2.Tell item.size)
      content entries)
    (hshort : ∀ entry ∈ entries, entry.2.Short) :
    listEntries listing entries = .ok (listing.insertAll (plainFiles content)) := by
  induction htell generalizing listing with
  | nil => rfl
  | @cons item entry content entries hentry _ ih =>
    obtain ⟨name, facts⟩ := entry
    obtain ⟨rfl, hfacts⟩ := hentry
    obtain ⟨hhead, htail⟩ := List.forall_mem_cons.mp hshort
    obtain ⟨name, size⟩ := item
    rw [listEntries, sizeFact_of_tell hfacts hhead]
    cases size with
    | none => exact ih listing htail
    | some size => exact ih (listing.insert name (some (size : Int))) htail

theorem Server.listed_of_reports (hnamed : Named content)
    (hreports : server.catalogue.Reports content) (hshort : server.catalogue.Short)
    (directory : String) : server.listed directory = .ok (plainFiles content) := by
  have hlisting : server.catalogue.listing = .ok (plainFiles content) := by
    unfold Catalogue.listing
    rw [listEntries_of_tell [] hreports.entries hshort,
      Listing.insertAll_of_nodup (by simpa using hnamed.nodup_plainFiles), hreports.complete]
    rfl
  unfold Server.listed
  rw [hlisting]

-- ---------------------------------------------------------------------------
-- Name by name
-- ---------------------------------------------------------------------------

theorem listEntries_total (listing : Listing)
    (hsizes : ∀ entry ∈ entries, ∀ text, entry.2.lookup "size" = some text →
      ∃ size, Text.Numeral text size)
    (hshort : ∀ entry ∈ entries, entry.2.Short) :
    ∃ listed, listEntries listing entries = .ok listed := by
  induction entries generalizing listing with
  | nil => exact ⟨listing, rfl⟩
  | cons entry rest ih =>
    obtain ⟨name, facts⟩ := entry
    obtain ⟨hsize, hsizes⟩ := List.forall_mem_cons.mp hsizes
    obtain ⟨hhead, htail⟩ := List.forall_mem_cons.mp hshort
    have hread : ∃ size, sizeFact facts = .ok size := by
      unfold sizeFact
      split
      · split
        · exact ⟨_, rfl⟩
        · next text htext =>
          obtain ⟨size, hnumeral⟩ := hsize text htext
          rw [Text.readInteger_numeral hnumeral (hhead text htext)]
          exact ⟨_, rfl⟩
      · exact ⟨_, rfl⟩
    obtain ⟨size, hread⟩ := hread
    rw [listEntries, hread]
    cases size with
    | none => exact ih listing hsizes htail
    | some size => exact ih (listing.insert name size) hsizes htail

theorem Catalogue.listing_of_refused (hrefused : catalogue.Refused) (hshort : catalogue.Short) :
    ∃ fault, catalogue.listing = .error fault ∧ fault.kind = .ftpPermanent := by
  obtain ⟨listed, hlisted⟩ := listEntries_total [] hrefused.sizes hshort
  obtain ⟨fault, hfailure, hkind⟩ := hrefused.failure
  refine ⟨fault, ?_, hkind⟩
  unfold Catalogue.listing
  rw [hlisted, hfailure]
  rfl

theorem remoteName_of_leads (h : Leads entry name) (hflat : '/' ∉ name.toList) :
    remoteName entry = name := by
  obtain ⟨before, hbefore, hentry⟩ := h
  have hlast : Text.lastPiece '/' entry.toList = name.toList := by
    rw [hentry]
    unfold Text.lastPiece
    rcases hbefore with rfl | hslash
    · rw [List.nil_append, Text.splitLast?_of_not_mem hflat]
    · obtain ⟨path, rfl⟩ := List.getLast?_eq_some_iff.mp hslash
      rw [List.append_assoc, List.singleton_append, Text.splitLast?_append hflat]
  rw [remoteName, hlast, String.ofList_toList]

theorem Server.sized_of_leads {names : List String} (listing : Listing)
    (hflat : ∀ item ∈ order, '/' ∉ item.name.toList)
    (hsizes : ∀ item ∈ order, server.Sizes (joinRemote directory item.name) item.size)
    (hnames : List.Forall₂ (fun item entry => Leads entry item.name) order names) :
    server.sized directory listing names = .ok (listing.insertAll (plainFiles order)) := by
  induction hnames generalizing listing with
  | nil => rfl
  | @cons item entry order names hentry _ ih =>
    obtain ⟨hname, hnames⟩ := List.forall_mem_cons.mp hflat
    obtain ⟨hsize, hrest⟩ := List.forall_mem_cons.mp hsizes
    rw [Server.sized, remoteName_of_leads hentry hname]
    obtain ⟨name, size⟩ := item
    cases size with
    | none =>
      obtain ⟨fault, hfault, hkind⟩ := hsize
      rw [hfault]
      simp only [hkind, if_true]
      exact ih listing hnames hrest
    | some size =>
      dsimp only [Server.Sizes] at hsize
      rw [hsize]
      exact ih (listing.insert name (some (size : Int))) hnames hrest

theorem Server.listed_of_tells (hnamed : Named content) (hrefused : server.catalogue.Refused)
    (hshort : server.catalogue.Short) (htells : server.Tells directory content) :
    ∃ listing, server.listed directory = .ok listing ∧ listing.Perm (plainFiles content) := by
  obtain ⟨fault, hfault, hkind⟩ := Catalogue.listing_of_refused hrefused hshort
  obtain ⟨names, order, hnames, hperm, hleads⟩ := htells.names
  have hfiles : (plainFiles order).Perm (plainFiles content) := hperm.filterMap _
  have hnodup : ((plainFiles order).map Prod.fst).Nodup :=
    (hfiles.map Prod.fst).nodup_iff.mpr hnamed.nodup_plainFiles
  refine ⟨plainFiles order, ?_, hfiles⟩
  unfold Server.listed
  rw [hfault]
  simp only [hkind, if_true]
  rw [hnames]
  change server.sized directory [] names = _
  rw [Server.sized_of_leads [] (fun item h => hnamed.flat item (hperm.mem_iff.mp h))
    (fun item h => htells.sizes item (hperm.mem_iff.mp h)) hleads,
    Listing.insertAll_of_nodup (by simpa using hnodup)]
  rfl

-- ---------------------------------------------------------------------------
-- Both ways
-- ---------------------------------------------------------------------------

namespace Session

/-- A directory is listed the same whichever way the server tells of it: the plain files,
each with its size. -/
theorem listSizes_agree {s t : Session × World} {c d : Connection} (hnamed : Named content)
    (hc : s.1.connection = some c) (hd : t.1.connection = some d)
    (hreports : c.server.catalogue.Reports content) (hshort : c.server.catalogue.Short)
    (hrefused : d.server.catalogue.Refused) (hshort' : d.server.catalogue.Short)
    (htells : d.server.Tells directory content) :
    ∃ listing listing', ((listSizes directory).run s).1 = .ok listing ∧
      ((listSizes directory).run t).1 = .ok listing' ∧ listing'.Perm listing ∧
      (∀ name, listing'.lookup name = listing.lookup name) ∧
      ∀ name size, listing.lookup name = some size ↔
        ∃ n : Nat, { name, size := some n } ∈ content ∧ size = some (n : Int) := by
  obtain ⟨asked, hrun, -⟩ := run_listSizes hc directory
  obtain ⟨asked', hrun', -⟩ := run_listSizes hd directory
  have hlisted := Server.listed_of_reports hnamed hreports hshort directory
  obtain ⟨listing', hlisted', hperm⟩ := Server.listed_of_tells hnamed hrefused hshort' htells
  refine ⟨plainFiles content, listing', by rw [hrun, hlisted], by rw [hrun', hlisted'], hperm,
    Listing.lookup_eq_of_perm hnamed.nodup_plainFiles hperm, fun name size => ?_⟩
  rw [Listing.lookup_eq_some_iff hnamed.nodup_plainFiles, mem_plainFiles]

def fileAndDirectory : List Item :=
  [{ name := "t.zip", size := some 5 }, { name := "old", size := none }]

theorem named_fileAndDirectory : Named fileAndDirectory where
  nodup := by decide
  flat := by simp [fileAndDirectory]

def factual : Server where
  catalogue := {
    entries := [("t.zip", [("type", "file"), ("size", "05")]), ("old", [("type", "dir")])]
    failure := none }

/-- A server that names the two and refuses the facts, after a file of some other directory. -/
def naming (size : String) : Server where
  catalogue := {
    entries := [("u.zip", [("type", "file"), ("size", size)])]
    failure := some (permanent "500 Listing not completed") }
  names := .ok ["data/old", "data/t.zip"]
  sizes := [("/data/t.zip", .ok (some 5))]

def onto (server : Server) : Session × World :=
  ({ host := "host", channel := 0, connection := some { number := 0, server } },
    { files := .empty, decoder := .scripted [] (.ok none) })

theorem reports_factual : factual.catalogue.Reports fileAndDirectory where
  entries := .cons ⟨rfl, rfl, "05", rfl, by decide, by simp, by decide⟩
    (.cons ⟨rfl, "dir", rfl, by decide⟩ .nil)
  complete := rfl

theorem refused_naming {text : String} {size : Nat} (h : Text.Numeral text size) :
    (naming text).catalogue.Refused where
  sizes := by
    rintro entry hentry text' htext
    obtain rfl : entry = ("u.zip", [("type", "file"), ("size", text)]) := by
      simpa [naming] using hentry
    obtain rfl : text = text' := by simpa [List.lookup_cons] using htext
    exact ⟨size, h⟩
  failure := ⟨_, rfl, rfl⟩

theorem tells_naming (text : String) : (naming text).Tells "/data" fileAndDirectory where
  names := ⟨_, fileAndDirectory.reverse, rfl, List.reverse_perm _,
    .cons ⟨"data/".toList, .inr (by decide), by decide⟩
      (.cons ⟨"data/".toList, .inr (by decide), by decide⟩ .nil)⟩
  sizes := by
    simp only [fileAndDirectory, List.forall_mem_cons]
    exact ⟨rfl, ⟨_, rfl, rfl⟩, by simp⟩

theorem listSizes_agree_fileAndDirectory :
    factual.catalogue.Reports fileAndDirectory ∧ (naming "7").catalogue.Refused ∧
      (naming "7").Tells "/data" fileAndDirectory ∧
      ∃ listing listing', ((listSizes "/data").run (onto factual)).1 = .ok listing ∧
        ((listSizes "/data").run (onto (naming "7"))).1 = .ok listing' ∧
        listing'.lookup "t.zip" = some (some 5) ∧ listing'.lookup "old" = none ∧
        listing'.lookup "u.zip" = none := by
  have hseven : Text.Numeral "7" 7 := ⟨by decide, by simp, by decide⟩
  have hlength : "05".length ≤ Text.maxDigits ∧ "7".length ≤ Text.maxDigits := by decide
  have hshort : factual.catalogue.Short := by
    simpa [factual, Catalogue.Short, Facts.Short, List.lookup_cons] using hlength.1
  have hshort' : (naming "7").catalogue.Short := by
    simpa [naming, Catalogue.Short, Facts.Short, List.lookup_cons] using hlength.2
  obtain ⟨listing, listing', hrun, hrun', -, hsame, hspec⟩ :=
    listSizes_agree (s := onto factual) (t := onto (naming "7")) named_fileAndDirectory rfl rfl
      reports_factual hshort (refused_naming hseven) hshort' (tells_naming "7")
  have hnone {name : String} (h : ∀ n, { name, size := some n } ∉ fileAndDirectory) :
      listing'.lookup name = none := by
    rw [hsame, Option.eq_none_iff_forall_ne_some]
    intro size hsize
    obtain ⟨n, hmem, -⟩ := (hspec name size).mp hsize
    exact h n hmem
  refine ⟨reports_factual, refused_naming hseven, tells_naming "7", listing, listing', hrun, hrun',
    ?_, hnone (by simp [fileAndDirectory]), hnone (by simp [fileAndDirectory])⟩
  rw [hsame, hspec]
  exact ⟨5, by simp [fileAndDirectory], rfl⟩

/-- A size that is too long to be read fails the listing, though its entry would be dropped. -/
theorem listSizes_of_long {text : String} {size : Nat} (h : Text.Numeral text size)
    (hlong : Text.maxDigits < text.length) :
    ((listSizes "/data").run (onto (naming text))).1 =
      .error (.integer (.tooLong text.length)) := by
  obtain ⟨asked, hrun, -⟩ := run_listSizes (s := onto (naming text)) rfl "/data"
  have hfact : sizeFact [("type", "file"), ("size", text)] =
      .error (.integer (.tooLong text.length)) := by
    simp [sizeFact, List.lookup_cons, Text.readInteger_of_long h hlong]
    rfl
  have hlisting : (naming text).catalogue.listing = .error (.integer (.tooLong text.length)) := by
    unfold Catalogue.listing
    dsimp only [naming]
    rw [listEntries, hfact]
    rfl
  rw [hrun]
  dsimp only [onto]
  unfold Server.listed
  rw [hlisting]
  rfl

def overlong : String := String.ofList (List.replicate (Text.maxDigits + 1) '1')

theorem length_overlong : overlong.length = Text.maxDigits + 1 := by
  rw [overlong, String.length_ofList, List.length_replicate]

theorem numeral_overlong : ∃ size, Text.Numeral overlong size := by
  refine ⟨_, fun hempty => ?_, fun c hc => ?_, rfl⟩
  · have hlength := length_overlong
    rw [hempty] at hlength
    exact absurd hlength (by simp)
  · rw [overlong, String.toList_ofList] at hc
    obtain rfl := List.eq_of_mem_replicate hc
    decide

theorem listSizes_overlong :
    (naming overlong).catalogue.Refused ∧ (naming overlong).Tells "/data" fileAndDirectory ∧
      ((listSizes "/data").run (onto (naming overlong))).1 = .error (.integer (.tooLong 4301)) := by
  obtain ⟨size, hsize⟩ := numeral_overlong
  refine ⟨refused_naming hsize, tells_naming overlong, ?_⟩
  rw [listSizes_of_long hsize (by rw [length_overlong]; exact Nat.lt_succ_self _), length_overlong]
  rfl

end Session

end TerrainTiles.Ftp
