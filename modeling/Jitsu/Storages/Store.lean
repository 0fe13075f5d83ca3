import Jitsu.Storages.Snowflake

/-! # The Snowflake storage's `Store`: one batch file through the stage

`(*Snowflake).Store` hands the objects of one batch file to the processor, which splits them into
processed files, one per table, and the events it failed on or skipped. `Store` then ranges over
the processed files and, for each, maps its header to a table, stores it with `storeTable` (ensure
the table, upload the file to the stage, copy it into the table, delete it from the stage), files
the result under the table's name and gives every event of the file its verdict in the events
cache:

* **`Backend`** holds the answers of the table helper and of the adapters, as functions of their
  arguments; **`Processed`** is the answer of `ProcessEvents`.
* **`Snowflake.storeTable`** and **`Snowflake.store`** follow the source. `UploadBytes` on a `nil`
  stage adapter panics, which the model answers with `none`.
* The processed files come in a Go map, so the loop visits them in an order the runtime picks
  (`RangeOrder`). The result filed under a table is that of the file visited last among those
  mapped to it (`store_table_result_of_last_visited`); when the files map to distinct tables,
  every order gives the same output, up to the order of the cache and stage calls
  (`store_range_order_independent`). Failed events are passed on exactly when every file was
  stored (`store_forwards_failed_events_iff`), and a storage `NewSnowflake` built in batch mode
  never panics in `Store` (`newSnowflake_batch_store_never_panics`). -/

namespace Jitsu.Storages

open Jitsu.Destinations (GoMap RangeOrder)

/-! ## (1) Processed files and the answers of the backend -/

/-- A processed event, seen through the value `uniqueIDField.Extract` reads from it. -/
structure Object where
  /-- `uniqueIDField.Extract(object)`. -/
  eventID : String
  deriving DecidableEq, Repr

/-- A `schema.BatchHeader`, through the table name it carries. -/
structure BatchHeader where
  /-- `TableName`. -/
  tableName : String
  deriving DecidableEq, Repr

/-- The fields of `schema.ProcessedFile` that `Store` reads. -/
structure ProcessedFile where
  /-- `FileName`. -/
  fileName : String
  /-- `BatchHeader`. -/
  batchHeader : BatchHeader
  /-- `GetPayload()`. -/
  payload : List Object
  deriving DecidableEq, Repr

/-- An `adapters.Table`, through its name. -/
structure Table where
  /-- `Name`. -/
  name : String
  deriving DecidableEq, Repr

/-- One event of `events.FailedEvents` or of `events.SkippedEvents`. -/
structure EventError where
  /-- `EventID`. -/
  eventID : String
  /-- `Error`. -/
  error : String
  deriving DecidableEq, Repr

/-- What `processor.ProcessEvents` returns when it succeeds. -/
structure Processed where
  /-- The processed files, in a Go map. -/
  flatData : GoMap ProcessedFile
  /-- `failedEvents.Events`. -/
  failedEvents : List EventError
  /-- `skippedEvents.Events`. -/
  skippedEvents : List EventError

/-- The answers of the table helper and the adapters that `Store` calls, as functions of their
arguments. None of these functions is in the source we have. -/
structure Backend where
  /-- `tableHelper.MapTableSchema(batchHeader)`. -/
  mapTableSchema : BatchHeader → Table
  /-- `tableHelper.EnsureTableWithoutCaching(s.ID(), table)`. -/
  ensureTableWithoutCaching : Table → Except String Table
  /-- `s.stageAdapter.UploadBytes(fileName, b)`. -/
  uploadBytes : String → Option String
  /-- `s.snowflakeAdapter.Copy(fileName, tableName, header)`. -/
  copy : String → String → Option String
  /-- `s.stageAdapter.DeleteObject(fileName)`. -/
  deleteObject : String → Option String

/-- A call `Store` makes to the events cache. -/
inductive CacheCall
  /-- `eventsCache.Error(.., eventID, err)`. -/
  | error (eventID err : String)
  /-- `eventsCache.Skip(.., eventID, err)`. -/
  | skip (eventID err : String)
  /-- `eventsCache.Succeed(&adapters.EventContext{..})`. -/
  | succeed (object : Object) (table : Table)
  deriving DecidableEq, Repr

/-- A call to the stage adapter that succeeded. -/
inductive StageCall
  /-- `UploadBytes(fileName, ..)`. -/
  | upload (fileName : String)
  /-- `DeleteObject(fileName)`. -/
  | delete (fileName : String)
  deriving DecidableEq, Repr

/-- The fields of a `StoreResult` that `Store` fills from `storeTable`. -/
structure StoreResult where
  /-- `Err`. -/
  err : Option String
  /-- `RowsCount`, `fdata.GetPayloadLen()`. -/
  rowsCount : Nat
  deriving DecidableEq, Repr

/-! ## (2) `storeTable` and `Store` -/

/-- **`(*Snowflake).storeTable`**: the error it returns and the stage calls that succeeded, or
`none` when it calls `UploadBytes` on a `nil` stage adapter. A failed `DeleteObject` is only
logged. -/
def Snowflake.storeTable (s : Snowflake) (b : Backend) (fdata : ProcessedFile) (table : Table) :
    Option (Option String × List StageCall) :=
  match b.ensureTableWithoutCaching table with
  | .error err => some (some err, [])
  | .ok dbTable =>
    if s.stageAdapter.isNone then none
    else
      match b.uploadBytes fdata.fileName with
      | some err => some (some err, [])
      | none =>
        match b.copy fdata.fileName dbTable.name with
        | some err =>
          some (some ("Error copying file [" ++ fdata.fileName ++ "] from stage to snowflake: " ++
            err), [.upload fdata.fileName])
        | none =>
          some (none, .upload fdata.fileName ::
            if (b.deleteObject fdata.fileName).isNone then [.delete fdata.fileName] else [])

/-- The verdict `Store` gives an event of a file: an error with the file's error, or a success
into its table. -/
def verdict (err : Option String) (table : Table) (object : Object) : CacheCall :=
  match err with
  | some e => .error object.eventID e
  | none => .succeed object table

/-- The variables of `Store`'s loop, with the calls made so far. -/
structure StoreState where
  /-- `storeFailedEvents`. -/
  storeFailedEvents : Bool
  /-- `tableResults`. -/
  tableResults : GoMap StoreResult
  /-- The calls to the events cache so far. -/
  cache : List CacheCall
  /-- The calls to the stage adapter that succeeded so far. -/
  stage : List StageCall

/-- The rest of one turn of `Store`'s loop, once `storeTable` answered `r` for the file. -/
def StoreState.record (acc : StoreState) (table : Table) (fdata : ProcessedFile)
    (r : Option String × List StageCall) : StoreState where
  storeFailedEvents := acc.storeFailedEvents && r.1.isNone
  tableResults := acc.tableResults.insert table.name ⟨r.1, fdata.payload.length⟩
  cache := acc.cache ++ fdata.payload.map (verdict r.1 table)
  stage := acc.stage ++ r.2

/-- One turn of `Store`'s loop; `none` when `storeTable` panics. -/
def Snowflake.storeFile (s : Snowflake) (b : Backend) (acc : StoreState) (fdata : ProcessedFile) :
    Option StoreState :=
  let table := b.mapTableSchema fdata.batchHeader
  (s.storeTable b fdata table).map (acc.record table fdata)

/-- The state before the loop: the failed and skipped events already reported to the cache. -/
def Processed.initState (p : Processed) : StoreState :=
  ⟨true, ∅, p.failedEvents.map (fun e => .error e.eventID e.error) ++
    p.skippedEvents.map fun e => .skip e.eventID e.error, []⟩

/-- What `Store` returns, with the calls it made. -/
structure StoreOutput where
  /-- `tableResults`. -/
  tableResults : GoMap StoreResult
  /-- The failed events, `nil` unless every table was stored. -/
  failedEvents : Option (List EventError)
  /-- The skipped events. -/
  skippedEvents : List EventError
  /-- The calls to the events cache. -/
  cache : List CacheCall
  /-- The calls to the stage adapter that succeeded. -/
  stage : List StageCall

/-- The return statements of `Store` after its loop. -/
def StoreState.output (acc : StoreState) (p : Processed) : StoreOutput :=
  ⟨acc.tableResults, if acc.storeFailedEvents then some p.failedEvents else none,
    p.skippedEvents, acc.cache, acc.stage⟩

/-- **`(*Snowflake).Store`**, given the answer of `ProcessEvents`, ranging over the processed
files in the order `o`; `none` when it panics. -/
def Snowflake.store (s : Snowflake) (b : Backend) (o : RangeOrder ProcessedFile)
    (processed : Except String Processed) : Option (Except String StoreOutput) :=
  match processed with
  | .error err => some (.error err)
  | .ok p =>
    ((o.arrange p.flatData.entries).foldlM (fun acc e => s.storeFile b acc e.2)
        p.initState).map fun acc => .ok (acc.output p)

/-! ## (3) The loop, file by file -/

section Loop

variable {s : Snowflake} {b : Backend}

/-- What `storeTable` answered for a file, when it did not panic. -/
def Snowflake.outcome (s : Snowflake) (b : Backend) (fdata : ProcessedFile) :
    Option String × List StageCall :=
  (s.storeTable b fdata (b.mapTableSchema fdata.batchHeader)).getD (none, [])

/-- One turn of the loop once `storeTable` did not panic. -/
def Snowflake.recordFile (s : Snowflake) (b : Backend) (acc : StoreState)
    (e : GoMap.Entry ProcessedFile) : StoreState :=
  acc.record (b.mapTableSchema e.2.batchHeader) e.2 (s.outcome b e.2)

/-- With a stage adapter, `storeTable` never panics. -/
theorem storeTable_isSome (hs : s.stageAdapter.isSome) (fdata : ProcessedFile) (table : Table) :
    (s.storeTable b fdata table).isSome := by
  obtain ⟨k, hk⟩ := Option.isSome_iff_exists.1 hs
  unfold Snowflake.storeTable
  split
  · rfl
  · simp only [hk, Option.isNone_some, Bool.false_eq_true, ↓reduceIte]
    split
    · rfl
    · split <;> rfl

/-- When no file panics, the loop is the plain fold of `recordFile`. -/
theorem foldlM_storeFile_of_isSome {l : List (GoMap.Entry ProcessedFile)} {acc : StoreState}
    (hl : ∀ e ∈ l, (s.storeTable b e.2 (b.mapTableSchema e.2.batchHeader)).isSome) :
    l.foldlM (fun acc e => s.storeFile b acc e.2) acc = some (l.foldl (s.recordFile b) acc) := by
  induction l generalizing acc with
  | nil => rfl
  | cons e l ih =>
    obtain ⟨r, hr⟩ := Option.isSome_iff_exists.1 (hl e (List.mem_cons_self e l))
    simp only [List.foldlM_cons, List.foldl_cons, Snowflake.storeFile, hr, Option.map_some',
      Snowflake.recordFile, Snowflake.outcome, Option.getD_some]
    exact ih fun e' he' => hl e' (List.mem_cons_of_mem e he')

/-- A file that panics makes the whole loop panic. -/
theorem foldlM_storeFile_of_panic {l : List (GoMap.Entry ProcessedFile)} {acc : StoreState}
    (hl : ∃ e ∈ l, s.storeTable b e.2 (b.mapTableSchema e.2.batchHeader) = none) :
    l.foldlM (fun acc e => s.storeFile b acc e.2) acc = none := by
  induction l generalizing acc with
  | nil => obtain ⟨e, he, -⟩ := hl; cases he
  | cons e l ih =>
    rw [List.foldlM_cons]
    cases hr : s.storeTable b e.2 (b.mapTableSchema e.2.batchHeader) with
    | none => simp only [Snowflake.storeFile, hr, Option.map_none']; rfl
    | some r =>
      obtain ⟨e', he', hn⟩ := hl
      have he'l : e' ∈ l := by
        rcases List.mem_cons.1 he' with rfl | h
        · rw [hr] at hn; cases hn
        · exact h
      simp only [Snowflake.storeFile, hr, Option.map_some']
      exact ih ⟨e', he'l, hn⟩

/-- **What `Store` returns when it does not panic**: no file panicked, and the output is that of
the fold of `recordFile` over the files in the order visited. -/
theorem store_ok {o : RangeOrder ProcessedFile} {p : Processed} {out : StoreOutput}
    (h : s.store b o (.ok p) = some (.ok out)) :
    (∀ e ∈ o.arrange p.flatData.entries,
        (s.storeTable b e.2 (b.mapTableSchema e.2.batchHeader)).isSome) ∧
      out = ((o.arrange p.flatData.entries).foldl (s.recordFile b) p.initState).output p := by
  have hall : ∀ e ∈ o.arrange p.flatData.entries,
      (s.storeTable b e.2 (b.mapTableSchema e.2.batchHeader)).isSome := by
    intro e he
    cases hn : s.storeTable b e.2 (b.mapTableSchema e.2.batchHeader) with
    | none =>
      simp only [Snowflake.store, foldlM_storeFile_of_panic ⟨e, he, hn⟩, Option.map_none'] at h
      cases h
    | some => rfl
  refine ⟨hall, ?_⟩
  simp only [Snowflake.store, foldlM_storeFile_of_isSome hall, Option.map_some',
    Option.some.injEq, Except.ok.injEq] at h
  exact h.symm

@[simp] theorem foldl_recordFile_storeFailedEvents (l : List (GoMap.Entry ProcessedFile))
    (acc : StoreState) : (l.foldl (s.recordFile b) acc).storeFailedEvents =
      (acc.storeFailedEvents && l.all fun e => (s.outcome b e.2).1.isNone) := by
  induction l generalizing acc with
  | nil => simp
  | cons e l ih => simp [ih, Snowflake.recordFile, StoreState.record, Bool.and_assoc]

@[simp] theorem foldl_recordFile_cache (l : List (GoMap.Entry ProcessedFile)) (acc : StoreState) :
    (l.foldl (s.recordFile b) acc).cache = acc.cache ++ l.flatMap fun e =>
      e.2.payload.map (verdict (s.outcome b e.2).1 (b.mapTableSchema e.2.batchHeader)) := by
  induction l generalizing acc with
  | nil => simp
  | cons e l ih => simp [ih, Snowflake.recordFile, StoreState.record]

@[simp] theorem foldl_recordFile_stage (l : List (GoMap.Entry ProcessedFile)) (acc : StoreState) :
    (l.foldl (s.recordFile b) acc).stage = acc.stage ++ l.flatMap fun e => (s.outcome b e.2).2 := by
  induction l generalizing acc with
  | nil => simp
  | cons e l ih => simp [ih, Snowflake.recordFile, StoreState.record]

/-- A file that did not panic was stored exactly when `storeTable` answered no error. -/
theorem outcome_fst_isNone_iff {fdata : ProcessedFile}
    (hs : (s.storeTable b fdata (b.mapTableSchema fdata.batchHeader)).isSome) :
    (s.outcome b fdata).1.isNone ↔
      ∃ calls, s.storeTable b fdata (b.mapTableSchema fdata.batchHeader) = some (none, calls) := by
  obtain ⟨⟨err, calls⟩, hr⟩ := Option.isSome_iff_exists.1 hs
  cases err <;> simp [Snowflake.outcome, hr]

/-- The result filed under a table name after the loop: that of the last file visited whose
table has that name, or what was filed before. -/
theorem lookup_foldl_recordFile (l : List (GoMap.Entry ProcessedFile)) (acc : StoreState)
    (n : String) : (l.foldl (s.recordFile b) acc).tableResults.lookup n =
      ((l.reverse.find? fun e => (b.mapTableSchema e.2.batchHeader).name = n).map
        fun e => (⟨(s.outcome b e.2).1, e.2.payload.length⟩ : StoreResult)).or
        (acc.tableResults.lookup n) := by
  induction l generalizing acc with
  | nil => simp
  | cons e l ih =>
    rw [List.foldl_cons, ih, List.reverse_cons, List.find?_append]
    by_cases hn : (b.mapTableSchema e.2.batchHeader).name = n
    · cases l.reverse.find? fun e => (b.mapTableSchema e.2.batchHeader).name = n <;>
        simp [Snowflake.recordFile, StoreState.record, hn]
    · simp [Snowflake.recordFile, StoreState.record, hn, AList.lookup_insert_ne (Ne.symm hn)]

end Loop

/-! ## (4) Which result a table keeps, and the order of the loop -/

/-- With distinct keys, `find?` by key picks the one member with that key. -/
theorem find?_key_eq_some_iff {α κ : Type} [DecidableEq κ] (key : α → κ) {l : List α}
    (hn : (l.map key).Nodup) (k : κ) (x : α) :
    l.find? (fun y => key y = k) = some x ↔ x ∈ l ∧ key x = k := by
  refine ⟨fun h => ⟨List.mem_of_find?_eq_some h, by simpa using List.find?_some h⟩, ?_⟩
  rintro ⟨hx, rfl⟩
  cases h : l.find? (fun y => key y = key x) with
  | none => exact absurd hx (by simpa using List.find?_eq_none.1 h x)
  | some y =>
    have hk : key y = key x := by simpa using List.find?_some h
    rw [List.inj_on_of_nodup_map hn (List.mem_of_find?_eq_some h) hx hk]

/-- With distinct keys, `find?` by key does not depend on the order of the list. -/
theorem find?_key_perm {α κ : Type} [DecidableEq κ] (key : α → κ) {l₁ l₂ : List α}
    (hp : l₁.Perm l₂) (hn : (l₁.map key).Nodup) (k : κ) :
    l₁.find? (fun y => key y = k) = l₂.find? (fun y => key y = k) :=
  Option.ext fun x => by
    rw [Option.mem_def, Option.mem_def, find?_key_eq_some_iff key hn,
      find?_key_eq_some_iff key ((hp.map key).nodup_iff.1 hn), hp.mem_iff]

/-- **The result `Store` files under a table is that of the file it visited last** among the
files mapped to that table: the result of an earlier one, an error included, is overwritten, and
which file is last is up to the order of the `range` loop. -/
theorem store_table_result_of_last_visited {s : Snowflake} {b : Backend}
    {o : RangeOrder ProcessedFile} {p : Processed} {out : StoreOutput}
    (h : s.store b o (.ok p) = some (.ok out)) (n : String) :
    out.tableResults.lookup n =
      ((o.arrange p.flatData.entries).reverse.find? fun e =>
        (b.mapTableSchema e.2.batchHeader).name = n).map fun e =>
          (⟨(s.outcome b e.2).1, e.2.payload.length⟩ : StoreResult) := by
  rw [(store_ok h).2]
  simp only [StoreState.output, lookup_foldl_recordFile, Processed.initState, AList.lookup_empty,
    Option.or_none]

/-- A stored Snowflake storage, as `NewSnowflake` builds it in batch mode on S3. -/
def sampleStorage : Snowflake := ⟨"snowflake", some .s3, "PUBLIC", true⟩

/-- Two processed files of one batch, for the tables `events` and `Events`. -/
def sampleProcessed : Processed where
  flatData := ((∅ : GoMap ProcessedFile).insert "events" ⟨"a.log", ⟨"events"⟩, [⟨"e1"⟩]⟩).insert
    "Events" ⟨"b.log", ⟨"Events"⟩, [⟨"e2"⟩, ⟨"e3"⟩]⟩
  failedEvents := [⟨"e0", "malformed"⟩]
  skippedEvents := []

/-- A backend on which the upload of `a.log` times out; it maps every header to the table of its
name or, when `collide`, every header to the table `EVENTS`. -/
def sampleBackend (collide : Bool) : Backend where
  mapTableSchema := fun h => if collide then ⟨"EVENTS"⟩ else ⟨h.tableName⟩
  ensureTableWithoutCaching := .ok
  uploadBytes := fun f => if f = "a.log" then some "timeout" else none
  copy := fun _ _ => none
  deleteObject := fun _ => none

theorem sample_store_last_visited :
    (∃ out, sampleStorage.store (sampleBackend true) .listed (.ok sampleProcessed) =
        some (.ok out) ∧ out.tableResults.lookup "EVENTS" = some ⟨some "timeout", 1⟩) ∧
    ∃ out, sampleStorage.store (sampleBackend true) .reversed (.ok sampleProcessed) =
        some (.ok out) ∧ out.tableResults.lookup "EVENTS" = some ⟨none, 2⟩ :=
  ⟨⟨_, rfl, (@store_table_result_of_last_visited sampleStorage (sampleBackend true) .listed
      sampleProcessed _ rfl "EVENTS").trans rfl⟩,
    ⟨_, rfl, (@store_table_result_of_last_visited sampleStorage (sampleBackend true) .reversed
      sampleProcessed _ rfl "EVENTS").trans rfl⟩⟩

/-- Two outputs of `Store` that differ at most in the order of the calls made. -/
def StoreOutput.Equiv (a a' : StoreOutput) : Prop :=
  (∀ n, a.tableResults.lookup n = a'.tableResults.lookup n) ∧
    a.failedEvents = a'.failedEvents ∧ a.skippedEvents = a'.skippedEvents ∧
    a.cache.Perm a'.cache ∧ a.stage.Perm a'.stage

/-- **When the processed files map to distinct tables, `Store` does not depend on the order of
its `range` loop**: if it stores under one order, it stores under every other, with the same
results per table, the same failed and skipped events, and the same calls to the events cache
and the stage, up to their order. -/
theorem store_range_order_independent {s : Snowflake} {b : Backend} {p : Processed}
    {out₁ : StoreOutput}
    (hn : (p.flatData.entries.map fun e => (b.mapTableSchema e.2.batchHeader).name).Nodup)
    (o₁ o₂ : RangeOrder ProcessedFile) (h : s.store b o₁ (.ok p) = some (.ok out₁)) :
    ∃ out₂, s.store b o₂ (.ok p) = some (.ok out₂) ∧ out₁.Equiv out₂ := by
  obtain ⟨hall, rfl⟩ := store_ok h
  have hp : (o₁.arrange p.flatData.entries).Perm (o₂.arrange p.flatData.entries) :=
    (o₁.perm _).trans (o₂.perm _).symm
  have hall₂ : ∀ e ∈ o₂.arrange p.flatData.entries,
      (s.storeTable b e.2 (b.mapTableSchema e.2.batchHeader)).isSome :=
    fun e he => hall e (hp.mem_iff.2 he)
  refine ⟨((o₂.arrange p.flatData.entries).foldl (s.recordFile b) p.initState).output p,
    by simp only [Snowflake.store, foldlM_storeFile_of_isSome hall₂, Option.map_some'],
    fun n => ?_, ?_, rfl, ?_, ?_⟩
  · have hn₁ := (((List.reverse_perm _).trans (o₁.perm _)).map
      fun e : GoMap.Entry ProcessedFile => (b.mapTableSchema e.2.batchHeader).name).nodup_iff.2 hn
    simp only [StoreState.output, lookup_foldl_recordFile]
    exact congrArg (fun x => (Option.map _ x).or _) (find?_key_perm _
      (((List.reverse_perm _).trans hp).trans (List.reverse_perm _).symm) hn₁ n)
  · have hall : ∀ f : GoMap.Entry ProcessedFile → Bool,
        (o₁.arrange p.flatData.entries).all f = (o₂.arrange p.flatData.entries).all f :=
      fun f => Bool.eq_iff_iff.2 (by simp only [List.all_eq_true, hp.mem_iff])
    simp only [StoreState.output, foldl_recordFile_storeFailedEvents, hall]
  · simp only [StoreState.output, foldl_recordFile_cache]
    exact (hp.flatMap_right _).append_left _
  · simp only [StoreState.output, foldl_recordFile_stage]
    exact (hp.flatMap_right _).append_left _

theorem sample_store_order_independent :
    ∃ out₁, sampleStorage.store (sampleBackend false) .listed (.ok sampleProcessed) =
      some (.ok out₁) ∧ ∃ out₂, sampleStorage.store (sampleBackend false) .reversed
        (.ok sampleProcessed) = some (.ok out₂) ∧ out₁.Equiv out₂ :=
  ⟨_, rfl, @store_range_order_independent sampleStorage (sampleBackend false) sampleProcessed _
    (by decide) .listed .reversed rfl⟩

/-! ## (5) Failed events, and panics -/

/-- **`Store` passes the failed events on exactly when every processed file was stored**: when
`storeTable` answered without an error for each file; otherwise it returns `nil` for them. -/
theorem store_forwards_failed_events_iff {s : Snowflake} {b : Backend}
    {o : RangeOrder ProcessedFile} {p : Processed} {out : StoreOutput}
    (h : s.store b o (.ok p) = some (.ok out)) :
    out.failedEvents = some p.failedEvents ↔ ∀ k f, p.flatData.lookup k = some f →
      ∃ calls, s.storeTable b f (b.mapTableSchema f.batchHeader) = some (none, calls) := by
  obtain ⟨hall, rfl⟩ := store_ok h
  have hstored : ((o.arrange p.flatData.entries).all fun e => (s.outcome b e.2).1.isNone) ↔
      ∀ k f, p.flatData.lookup k = some f →
        ∃ calls, s.storeTable b f (b.mapTableSchema f.batchHeader) = some (none, calls) := by
    simp only [List.all_eq_true, Sigma.forall, GoMap.mem_arrange]
    exact forall₂_congr fun k f => imp_congr_right fun hf =>
      outcome_fst_isNone_iff (hall _ ((GoMap.mem_arrange o _ k f).2 hf))
  rw [← hstored]
  simp only [StoreState.output, foldl_recordFile_storeFailedEvents, Processed.initState,
    Bool.true_and]
  split
  · exact iff_of_true rfl ‹_›
  · exact iff_of_false (fun h => nomatch h) ‹_›

theorem sample_store_withholds_failed_events :
    ∃ out, sampleStorage.store (sampleBackend false) .listed (.ok sampleProcessed) =
      some (.ok out) ∧ out.failedEvents = none ∧
      ¬ ∀ k f, sampleProcessed.flatData.lookup k = some f →
        ∃ calls, sampleStorage.storeTable (sampleBackend false) f
          ((sampleBackend false).mapTableSchema f.batchHeader) = some (none, calls) :=
  ⟨_, rfl, rfl, fun hall => by
    have h := (@store_forwards_failed_events_iff sampleStorage (sampleBackend false) .listed
      sampleProcessed _ rfl).2 hall
    cases h⟩

/-- With a stage adapter, `Store` never panics. -/
theorem store_ne_none_of_stage {s : Snowflake} (hs : s.stageAdapter.isSome) (b : Backend)
    (o : RangeOrder ProcessedFile) (processed : Except String Processed) :
    s.store b o processed ≠ none := by
  cases processed with
  | error => simp [Snowflake.store]
  | ok p => simp [Snowflake.store, foldlM_storeFile_of_isSome fun e _ => storeTable_isSome hs _ _]

/-- **A storage `NewSnowflake` built in batch mode never panics in `Store`**: batch mode is
exactly when it opens a stage adapter, and only a `nil` stage adapter makes `storeTable`
panic. -/
theorem newSnowflake_batch_store_never_panics {config : Config} {c : Collaborators}
    {s : Snowflake} {log : List Event} (h : newSnowflake config c = (.ok s, log))
    (hb : config.streamMode = false) (b : Backend) (o : RangeOrder ProcessedFile)
    (processed : Except String Processed) : s.store b o processed ≠ none := by
  rcases newSnowflake_cases h with ⟨e, he, -⟩ | ⟨sc, stage, -, hst, ⟨e, -, -, he, -⟩ |
    ⟨a, -, -, ⟨e, -, he, -⟩ | ⟨-, hs, -⟩⟩⟩ <;> try cases he
  cases hs
  exact store_ne_none_of_stage (by simpa [hb] using newStageAdapter_isSome hst) b o processed

theorem sample_build_then_store :
    newSnowflake ⟨"snowflake", false⟩ sampleCollaborators =
      (.ok sampleStorage, sampleBuildLog) ∧
      sampleStorage.store (sampleBackend false) .listed (.ok sampleProcessed) ≠ none :=
  ⟨rfl, @newSnowflake_batch_store_never_panics ⟨"snowflake", false⟩ sampleCollaborators _ _
    rfl rfl _ _ _⟩

end Jitsu.Storages
