import Docloom.Proofs.File.Writing
import Docloom.Proofs.Json.RoundTrip
import Docloom.Version.File

/-!
# Version tables that are read back

The file of a version table holds the table: what is read from its text is the table that was
written.
-/

namespace Docloom

/-!
# Catalogs
-/

namespace Catalog

variable {α : Type}

/-- A name that comes after all others is put at the end. -/
theorem put_of_forall_lt {name : String} {entries : List (String × α)}
    (h : forall entry, entry ∈ entries -> entry.1 < name) (value : α) :
    put name value entries = entries ++ [(name, value)] := by
  induction entries with
  | nil =>
      rfl
  | cons entry rest ih =>
      have hlt : entry.1 < name := h entry List.mem_cons_self
      have hle : ¬ name < entry.1 := fun hback => String.lt_irrefl _ (String.lt_trans hlt hback)
      have hne : name ≠ entry.1 := by
        intro heq
        rw [heq] at hlt
        exact String.lt_irrefl _ hlt
      rw [put, if_neg hle, if_neg hne,
        ih (fun other hother => h other (List.mem_cons_of_mem _ hother))]
      rfl

theorem foldl_insert {catalog : Catalog α} {entries : List (String × α)}
    (h : (catalog.entries ++ entries).Pairwise fun a b => a.1 < b.1) :
    (entries.foldl (fun catalog entry => catalog.insert entry.1 entry.2) catalog).entries =
      catalog.entries ++ entries := by
  induction entries generalizing catalog with
  | nil =>
      rw [List.append_nil]
      rfl
  | cons entry rest ih =>
      have hinsert : (catalog.insert entry.1 entry.2).entries = catalog.entries ++ [entry] := by
        apply put_of_forall_lt
        intro other hother
        exact (List.pairwise_append.mp h).2.2 other hother entry List.mem_cons_self
      rw [List.foldl_cons, ih]
      · rw [hinsert, List.append_assoc]
        rfl
      · rw [hinsert, List.append_assoc]
        exact h

/-- A catalog is the catalog of its entries. -/
theorem ofList_entries (catalog : Catalog α) : ofList catalog.entries = catalog := by
  apply ext_entries
  have h := @foldl_insert α empty catalog.entries
  exact h catalog.ordered

end Catalog

namespace VersionTable

/-!
# Tables
-/

theorem plain_toJson (table : VersionTable) : (toJson table).Plain := by
  apply Json.Plain.object
  intro member hmember
  rcases List.mem_map.mp hmember with ⟨entry, _, rfl⟩
  apply Json.Plain.array
  intro item hitem
  rcases List.mem_map.mp hitem with ⟨version, _, rfl⟩
  apply Json.Plain.object
  intro field hfield
  simp only [List.mem_cons, List.not_mem_nil, or_false] at hfield
  rcases hfield with rfl | rfl | rfl
  · exact .string _
  · exact .string _
  · exact .bool _

theorem entriesOfJson?_toJson (entries : List VersionEntry) :
    entriesOfJson? (.array (entries.map VersionEntry.toJson)) = some entries := by
  simp only [entriesOfJson?, Json.items?, bind, Option.bind]
  induction entries with
  | nil =>
      rfl
  | cons entry rest ih =>
      rw [List.map_cons, List.mapM_cons, VersionEntry.ofJson?_toJson, ih]
      rfl

theorem ofJson?_toJson (table : VersionTable) : ofJson? (toJson table) = some table := by
  have hmembers : (table.entries.map fun entry =>
      (entry.1, Json.array (entry.2.map VersionEntry.toJson))).mapM (fun member => do
        pure (member.1, ← entriesOfJson? member.2)) = some table.entries := by
    induction table.entries with
    | nil =>
        rfl
    | cons entry rest ih =>
        rw [List.map_cons, List.mapM_cons, ih, entriesOfJson?_toJson]
        rfl
  rw [ofJson?, toJson]
  show (List.mapM _ _ >>= fun entries => pure (Catalog.ofList entries)) = some table
  rw [hmembers]
  exact congrArg some (Catalog.ofList_entries table)

/-- What is read from the text of a table is the table. -/
theorem ofText?_fileText (table : VersionTable) : ofText? (fileText table) = some table := by
  rw [ofText?, fileText, Json.parse_pretty (plain_toJson table) 0 (by rfl)]
  exact ofJson?_toJson table

theorem load_of_readText {table : VersionTable} {files : FileSystem} {path : Path}
    (h : files.readText path = .ok (fileText table)) : load files path = .ok table := by
  rw [load, h]
  dsimp only
  rw [ofText?_fileText]

theorem write_eq {table : VersionTable} {files after : FileSystem} {path : Path}
    (h : write table files path = (after, .ok ())) :
    files.writeBelow path (fileText table) = (after, .ok ()) := by
  unfold write at h
  rcases hwrite : files.writeBelow path (fileText table) with ⟨written, fault | done⟩
  · rw [hwrite] at h
    cases h
  · rw [hwrite] at h
    cases h
    rfl

/-- A table that was written is read back. -/
theorem load_of_write {table : VersionTable} {files after : FileSystem} {path : Path}
    (h : write table files path = (after, .ok ())) : load after path = .ok table :=
  load_of_readText (FileSystem.readText_of_writeBelow (write_eq h))

theorem exists_write {files : FileSystem} {path : Path} (h : files.Writable path)
    (table : VersionTable) : exists after, write table files path = (after, .ok ()) := by
  rcases h.exists_writeBelow (fileText table) with ⟨after, hafter⟩
  refine ⟨after, ?_⟩
  rw [write, hafter]
  rfl

/-- A table is written wherever a text can be written, and the table that is read back from there
is the same and gives the same answers. -/
theorem reload_exact (table : VersionTable) {files : FileSystem} {path : Path}
    (h : files.Writable path) :
    exists after, write table files path = (after, .ok ()) ∧
      exists loaded, load after path = .ok loaded ∧ loaded = table ∧
        forall product, latest? loaded product = latest? table product ∧
          forall version, isLatest loaded product version = isLatest table product version := by
  rcases exists_write h table with ⟨after, hafter⟩
  refine ⟨after, hafter, table, load_of_write hafter, rfl, ?_⟩
  intro product
  exact ⟨rfl, fun version => rfl⟩

/-- A table with a quote, a backslash, a line break, a control character and an accent in its
names, and with a product that has no versions. -/
def oddTable : VersionTable :=
  Catalog.ofList
    [("va\"u\\lt\n", [⟨"v1.2.x\u0001", .stable, true⟩, ⟨"é", .beta, false⟩]), ("", [])]

/-- The odd table is read back from a directory that is made for it. -/
theorem reload_exact_odd :
    FileSystem.Writable ⟨[], []⟩ ⟨"/notes/versions.json"⟩ ∧
      exists after, write oddTable ⟨[], []⟩ ⟨"/notes/versions.json"⟩ = (after, .ok ()) ∧
        exists loaded, load after ⟨"/notes/versions.json"⟩ = .ok loaded ∧ loaded = oddTable ∧
          forall product, latest? loaded product = latest? oddTable product ∧
            forall version,
              isLatest loaded product version = isLatest oddTable product version := by
  have h : FileSystem.Writable ⟨[], []⟩ ⟨"/notes/versions.json"⟩ := by
    constructor
    · decide +kernel
    · decide +kernel
    · decide +kernel
    · decide +kernel
  exact ⟨h, reload_exact oddTable h⟩

end VersionTable
end Docloom
