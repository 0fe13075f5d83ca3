import Jitsu.Storages.Store

/-! # The Snowflake storage's `Update`: one object, table by table

`(*Snowflake).Update` updates the row of one object in every table the processor maps it to.
`ProcessEvent` turns the object into envelopes, each with a batch header and a processed event;
for each envelope in turn, `Update` maps the header to a table, ensures the table (with caching)
and calls the adapter's `Update` with the processed event and the key of the *incoming* object.
It returns at the first error:

* **`UpdateBackend`** holds the answers of the processor, the table helper and the adapter, as
  functions of their arguments; **`UpdateCall`** is one call to `snowflakeAdapter.Update`.
* **`Snowflake.updateEnvelops`** is the loop and **`Snowflake.update`** the whole method: the
  error it returns and the calls it made to the adapter.
* `Update` returns `nil` exactly when every envelope's table was ensured and its row updated
  (`update_eq_ok_iff`). It is not atomic: the calls it made are one per envelope, in order, each
  with the table ensured for that envelope and keyed by the incoming object; they cover every
  envelope when it returns `nil`, and otherwise the envelopes up to the failing one, whose call,
  if it made one, is the last and the only one that failed (`update_calls_one_per_envelope`); an
  error in a later table leaves the rows of the earlier tables updated. -/

namespace Jitsu.Storages

/-! ## (1) Envelopes and the answers of the backend -/

/-- One `events.Envelope` that `ProcessEvent` returns. -/
structure Envelope where
  /-- `Header`. -/
  header : BatchHeader
  /-- `Event`, the processed object. -/
  event : Object
  deriving DecidableEq, Repr

/-- A call `s.snowflakeAdapter.Update(dbSchema, processedObject, fieldName, id)`. -/
structure UpdateCall where
  /-- The table `EnsureTableWithCaching` returned. -/
  dbSchema : Table
  /-- The envelope's `Event`. -/
  processedObject : Object
  /-- `s.uniqueIDField.GetFlatFieldName()`. -/
  fieldName : String
  /-- `s.uniqueIDField.Extract(object)`, for the object given to `Update`. -/
  id : String
  deriving DecidableEq, Repr

/-- The answers of the processor, the table helper and the adapter that `Update` calls, as
functions of their arguments. None of these functions is in the source we have. -/
structure UpdateBackend where
  /-- `s.processor.ProcessEvent(object)`. -/
  processEvent : Object → Except String (List Envelope)
  /-- `tableHelper.MapTableSchema(batchHeader)`. -/
  mapTableSchema : BatchHeader → Table
  /-- `tableHelper.EnsureTableWithCaching(s.ID(), table)`. -/
  ensureTableWithCaching : String → Table → Except String Table
  /-- `s.uniqueIDField.GetFlatFieldName()`. -/
  flatFieldName : String
  /-- `s.snowflakeAdapter.Update(..)`. -/
  update : UpdateCall → Option String

/-! ## (2) `Update` -/

/-- The `for _, envelop := range envelops` loop of **`(*Snowflake).Update`** for the incoming
`object`: the error it returns and the calls it made to the adapter. -/
def Snowflake.updateEnvelops (s : Snowflake) (b : UpdateBackend) (object : Object) :
    List Envelope → Option String × List UpdateCall
  | [] => (none, [])
  | envelop :: envelops =>
    match b.ensureTableWithCaching s.destinationID (b.mapTableSchema envelop.header) with
    | .error err => (some err, [])
    | .ok dbSchema =>
      let call : UpdateCall := ⟨dbSchema, envelop.event, b.flatFieldName, object.eventID⟩
      match b.update call with
      | some err => (some err, [call])
      | none =>
        let rest := s.updateEnvelops b object envelops
        (rest.1, call :: rest.2)

/-- **`(*Snowflake).Update`**: the error it returns and the calls it made to the adapter. -/
def Snowflake.update (s : Snowflake) (b : UpdateBackend) (object : Object) :
    Option String × List UpdateCall :=
  match b.processEvent object with
  | .error err => (some err, [])
  | .ok envelops => s.updateEnvelops b object envelops

/-- The envelope's table is ensured and its row updated without an error. -/
def Snowflake.Updated (s : Snowflake) (b : UpdateBackend) (object : Object)
    (envelop : Envelope) : Prop :=
  ∃ dbSchema, b.ensureTableWithCaching s.destinationID (b.mapTableSchema envelop.header) =
      .ok dbSchema ∧ b.update ⟨dbSchema, envelop.event, b.flatFieldName, object.eventID⟩ = none

/-- The call made for an envelope: with the table ensured for it, its processed event and the
key of the incoming object. -/
def Snowflake.CallFor (s : Snowflake) (b : UpdateBackend) (object : Object) (call : UpdateCall)
    (envelop : Envelope) : Prop :=
  b.ensureTableWithCaching s.destinationID (b.mapTableSchema envelop.header) = .ok call.dbSchema ∧
    call = ⟨call.dbSchema, envelop.event, b.flatFieldName, object.eventID⟩

/-- The call made for an envelope, and the adapter updated the row without an error. -/
def Snowflake.UpdatedBy (s : Snowflake) (b : UpdateBackend) (object : Object) (call : UpdateCall)
    (envelop : Envelope) : Prop :=
  s.CallFor b object call envelop ∧ b.update call = none

/-! ## (3) The loop, envelope by envelope -/

section Loop

variable {s : Snowflake} {b : UpdateBackend} {object : Object}

/-- **One turn of the loop**: the table cannot be ensured, or the adapter fails on the row, or it
updates the row and the loop goes on with the next envelope. -/
theorem updateEnvelops_cons_cases (e : Envelope) (envelops : List Envelope) :
    (∃ err, b.ensureTableWithCaching s.destinationID (b.mapTableSchema e.header) = .error err ∧
        s.updateEnvelops b object (e :: envelops) = (some err, [])) ∨
      (∃ dbSchema err,
        b.ensureTableWithCaching s.destinationID (b.mapTableSchema e.header) = .ok dbSchema ∧
        b.update ⟨dbSchema, e.event, b.flatFieldName, object.eventID⟩ = some err ∧
        s.updateEnvelops b object (e :: envelops) =
          (some err, [⟨dbSchema, e.event, b.flatFieldName, object.eventID⟩])) ∨
      (∃ dbSchema,
        b.ensureTableWithCaching s.destinationID (b.mapTableSchema e.header) = .ok dbSchema ∧
        b.update ⟨dbSchema, e.event, b.flatFieldName, object.eventID⟩ = none ∧
        s.updateEnvelops b object (e :: envelops) =
          ((s.updateEnvelops b object envelops).1,
            ⟨dbSchema, e.event, b.flatFieldName, object.eventID⟩ ::
              (s.updateEnvelops b object envelops).2)) := by
  rw [Snowflake.updateEnvelops]
  cases he : b.ensureTableWithCaching s.destinationID (b.mapTableSchema e.header) with
  | error err => exact .inl ⟨err, rfl, rfl⟩
  | ok dbSchema =>
    dsimp only
    cases hu : b.update ⟨dbSchema, e.event, b.flatFieldName, object.eventID⟩ with
    | some err => exact .inr (.inl ⟨dbSchema, err, rfl, hu, rfl⟩)
    | none => exact .inr (.inr ⟨dbSchema, rfl, hu, rfl⟩)

/-- The loop returns no error exactly when every envelope was updated. -/
theorem updateEnvelops_fst_eq_none_iff (envelops : List Envelope) :
    (s.updateEnvelops b object envelops).1 = none ↔ ∀ e ∈ envelops, s.Updated b object e := by
  induction envelops with
  | nil => simp [Snowflake.updateEnvelops]
  | cons e envelops ih =>
    rw [List.forall_mem_cons]
    rcases updateEnvelops_cons_cases e envelops with
      ⟨err, he, h⟩ | ⟨dbSchema, err, he, hu, h⟩ | ⟨dbSchema, he, hu, h⟩ <;> rw [h]
    · exact iff_of_false (Option.some_ne_none err) fun ⟨⟨_, hd, _⟩, _⟩ => nomatch he.symm.trans hd
    · refine iff_of_false (Option.some_ne_none err) fun ⟨⟨_, hd, hu'⟩, _⟩ => ?_
      cases he.symm.trans hd
      exact nomatch hu.symm.trans hu'
    · rw [ih]
      exact (and_iff_right ⟨dbSchema, he, hu⟩).symm

/-- **The calls of the loop, pinned down**: with no error, one call per envelope, each of which
updated its row; with an error, the envelopes before the failing one were each updated by their
own call, and the failing one made no call (its table could not be ensured) or made the last
call, which failed. -/
theorem updateEnvelops_calls (envelops : List Envelope) :
    ((s.updateEnvelops b object envelops).1 = none →
        List.Forall₂ (s.UpdatedBy b object) (s.updateEnvelops b object envelops).2 envelops) ∧
      ∀ err, (s.updateEnvelops b object envelops).1 = some err →
        ∃ pre e post, envelops = pre ++ e :: post ∧
          ((b.ensureTableWithCaching s.destinationID (b.mapTableSchema e.header) = .error err ∧
              List.Forall₂ (s.UpdatedBy b object) (s.updateEnvelops b object envelops).2 pre) ∨
            ∃ calls call, (s.updateEnvelops b object envelops).2 = calls ++ [call] ∧
              List.Forall₂ (s.UpdatedBy b object) calls pre ∧
              s.CallFor b object call e ∧ b.update call = some err) := by
  induction envelops with
  | nil => exact ⟨fun _ => .nil, fun _ h => (nomatch h)⟩
  | cons e envelops ih =>
    rcases updateEnvelops_cons_cases e envelops with
      ⟨err, he, h⟩ | ⟨dbSchema, err, he, hu, h⟩ | ⟨dbSchema, he, hu, h⟩ <;> rw [h]
    · refine ⟨fun h => (nomatch h), fun _ h => ?_⟩
      cases h
      exact ⟨[], e, envelops, rfl, .inl ⟨he, .nil⟩⟩
    · refine ⟨fun h => (nomatch h), fun _ h => ?_⟩
      cases h
      exact ⟨[], e, envelops, rfl, .inr ⟨[], _, rfl, .nil, ⟨he, rfl⟩, hu⟩⟩
    · have hd : s.UpdatedBy b object ⟨dbSchema, e.event, b.flatFieldName, object.eventID⟩ e :=
        ⟨⟨he, rfl⟩, hu⟩
      refine ⟨fun h => .cons hd (ih.1 h), fun err h => ?_⟩
      obtain ⟨pre, e', post, rfl, hf | ⟨calls, call, hc, hp, hcall, hu'⟩⟩ := ih.2 err h
      · exact ⟨e :: pre, e', post, rfl, .inl ⟨hf.1, .cons hd hf.2⟩⟩
      · exact ⟨e :: pre, e', post, rfl, .inr ⟨_ :: calls, call, by rw [hc]; rfl, .cons hd hp,
          hcall, hu'⟩⟩

end Loop

/-! ## (4) What `Update` does -/

/-- **`Update` returns `nil` exactly when every table of the object was updated**: the processor
accepted the object, and for each of its envelopes the table was ensured and the adapter updated
the row without an error. -/
theorem update_eq_ok_iff (s : Snowflake) (b : UpdateBackend) (object : Object) :
    (s.update b object).1 = none ↔
      ∃ envelops, b.processEvent object = .ok envelops ∧ ∀ e ∈ envelops, s.Updated b object e := by
  unfold Snowflake.update
  cases hp : b.processEvent object with
  | error err => exact iff_of_false (Option.some_ne_none err) fun ⟨_, h, _⟩ => nomatch h
  | ok envelops =>
    rw [updateEnvelops_fst_eq_none_iff]
    exact ⟨fun h => ⟨_, rfl, h⟩, fun ⟨_, h, h'⟩ => by cases h; exact h'⟩

/-- **`Update` is not atomic**: the calls it makes to the adapter follow the envelopes in order,
one each, each with the table ensured for its envelope, the envelope's processed event and the
key of the incoming object. When it returns `nil` there is one call per envelope and each
updated its row; when it returns an error, the envelopes before the failing one were each
updated by their own call, so an error in a later table leaves the rows of the earlier tables
updated, and the failing envelope made no call (its table could not be ensured) or the last
call, which failed with that error. -/
theorem update_calls_one_per_envelope {s : Snowflake} {b : UpdateBackend} {object : Object}
    {envelops : List Envelope} (h : b.processEvent object = .ok envelops) :
    ((s.update b object).1 = none →
        List.Forall₂ (s.UpdatedBy b object) (s.update b object).2 envelops) ∧
      ∀ err, (s.update b object).1 = some err →
        ∃ pre e post, envelops = pre ++ e :: post ∧
          ((b.ensureTableWithCaching s.destinationID (b.mapTableSchema e.header) = .error err ∧
              List.Forall₂ (s.UpdatedBy b object) (s.update b object).2 pre) ∨
            ∃ calls call, (s.update b object).2 = calls ++ [call] ∧
              List.Forall₂ (s.UpdatedBy b object) calls pre ∧
              s.CallFor b object call e ∧ b.update call = some err) := by
  unfold Snowflake.update
  rw [h]
  exact updateEnvelops_calls envelops

/-- An object that the processor maps to the tables `events` and `users`. -/
def sampleObject : Object := ⟨"e1"⟩

/-- A backend that splits `sampleObject` into two envelopes and cannot ensure the table
`users`. -/
def sampleUpdateBackend : UpdateBackend where
  processEvent := fun o => .ok [⟨⟨"events"⟩, o⟩, ⟨⟨"users"⟩, ⟨"u1"⟩⟩]
  mapTableSchema := fun h => ⟨h.tableName⟩
  ensureTableWithCaching := fun _ t => if t.name = "users" then .error "no privileges" else .ok t
  flatFieldName := "eventn_ctx_event_id"
  update := fun _ => none

theorem sample_update_partial :
    sampleStorage.update sampleUpdateBackend sampleObject =
      (some "no privileges", [⟨⟨"events"⟩, ⟨"e1"⟩, "eventn_ctx_event_id", "e1"⟩]) ∧
    ((sampleStorage.update sampleUpdateBackend sampleObject).1 = none →
        List.Forall₂ (sampleStorage.UpdatedBy sampleUpdateBackend sampleObject)
          (sampleStorage.update sampleUpdateBackend sampleObject).2
          [⟨⟨"events"⟩, sampleObject⟩, ⟨⟨"users"⟩, ⟨"u1"⟩⟩]) ∧
      ∀ err, (sampleStorage.update sampleUpdateBackend sampleObject).1 = some err →
        ∃ pre e post, [⟨⟨"events"⟩, sampleObject⟩, ⟨⟨"users"⟩, ⟨"u1"⟩⟩] = pre ++ e :: post ∧
          ((sampleUpdateBackend.ensureTableWithCaching sampleStorage.destinationID
                (sampleUpdateBackend.mapTableSchema e.header) = .error err ∧
              List.Forall₂ (sampleStorage.UpdatedBy sampleUpdateBackend sampleObject)
                (sampleStorage.update sampleUpdateBackend sampleObject).2 pre) ∨
            ∃ calls call, (sampleStorage.update sampleUpdateBackend sampleObject).2 = calls ++ [call] ∧
              List.Forall₂ (sampleStorage.UpdatedBy sampleUpdateBackend sampleObject) calls pre ∧
              sampleStorage.CallFor sampleUpdateBackend sampleObject call e ∧
              sampleUpdateBackend.update call = some err) :=
  ⟨rfl, update_calls_one_per_envelope rfl⟩

end Jitsu.Storages
