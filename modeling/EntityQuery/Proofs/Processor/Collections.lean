import EntityQuery.Proofs.Processor.Reception
import EntityQuery.Proofs.Service.Collection
import EntityQuery.Proofs.Service.Results
import EntityQuery.Proofs.Store.Copies

/-!
# Collections at once and one by one

A collection is read at once and sent as a document, or opened as a stream and sent one entity at a
time.  What is sent of a stream makes up the same document, byte for byte.  Errors are the same as
long as they come before the head of a stream; an error that the predicate of a stream makes on a
row comes after it, unless the rows have been counted before.
-/

set_option autoImplicit false

namespace EntityQuery

open Connection (Attentive Flows)
open Processing (Sent streamOpening)
open Exchange (Silent HeadOf)

section Framing

variable (entities : List Entity)

theorem Collection.toJson_counted (total : Nat) :
    Collection.toJson ⟨entities, some total⟩ = .object
      [(totalField, .integer total), ("value", .array (entities.map Entity.toJson))] := by
  have notBefore : ¬ "value" < totalField := by decide
  have apart : "value" ≠ totalField := by decide
  change Json.ofFields
    [(totalField, .integer total), ("value", .array (entities.map Entity.toJson))] = _
  rw [Json.ofFields, Fields.ofList, List.foldl_cons, List.foldl_cons, List.foldl_nil]
  dsimp only [Fields.insert]
  rw [if_neg notBefore, if_neg apart]

theorem join_itemChunks_later (entity : Entity) :
    (String.join (itemChunks "," (entity :: entities))).toList =
      ',' :: Json.writeItems ((entity :: entities).map Entity.toJson) := by
  induction entities generalizing entity with
  | nil => simp [itemChunks, Json.render, Json.writeItems]
  | cons next rest inductionHypothesis =>
      rw [itemChunks, String.join_cons, String.toList_append, inductionHypothesis]
      simp [Json.render, Json.writeItems]

theorem join_itemChunks :
    (String.join (itemChunks "" entities)).toList =
      Json.writeItems (entities.map Entity.toJson) := by
  cases entities with
  | nil => rfl
  | cons entity rest =>
      cases rest with
      | nil => simp [itemChunks, Json.render, Json.writeItems]
      | cons next rest =>
          rw [itemChunks, String.join_cons, String.toList_append, join_itemChunks_later]
          simp [Json.render, Json.writeItems]

theorem join_streamed (total : Option Nat) :
    String.join (streamOpening total :: itemChunks "" entities ++ [streamClosing]) =
      (Collection.toJson ⟨entities, total⟩).render := by
  apply String.toList_inj.mp
  rw [List.cons_append, String.join_cons, String.join_append, String.toList_append,
    String.toList_append, join_itemChunks]
  cases total with
  | none =>
      have uncounted : Collection.toJson ⟨entities, none⟩ =
          .object [("value", .array (entities.map Entity.toJson))] := rfl
      rw [uncounted]
      simp [Json.render, Json.write, Json.writeFields, Json.writeString, Json.escapeCharacter,
        streamOpening, streamClosing]
  | some total =>
      have number : toString (total : Int) = toString total := rfl
      rw [Collection.toJson_counted]
      simp [Json.render, Json.write, Json.writeFields, Json.writeString, Json.escapeCharacter,
        streamOpening, streamClosing, totalField, number]

end Framing

section Buffered

variable {services : Services} {request : Request} {store : Store} (isGet : request.method = .get)
  (whole : request.resource.key = none)
  (noHooks : ∀ set, services.registry.findSet request.resource.set = .ok set →
    services.registry.hooks set.type.name .afterLoad = [])

namespace Processing

include isGet whole noHooks in
/-- A collection that is read at once is a document, and an error comes before anything is sent. -/
theorem process_buffered (capacity : Nat) :
    Triple (Silent (Session.Fresh store)) (process services ⟨false, capacity⟩ request)
      (fun _ exchange => exchange.HeadOf 200 ∧
        ∃ collection, services.collectionIn request store = .ok collection ∧
          Flows [.ok collection.toJson.render] exchange.transport)
      (fun error exchange =>
        (services.collectionIn request store = .error error ∧ exchange.Silent fun _ => True) ∨
        (∃ collection, services.collectionIn request store = .ok collection) ∧
          exchange.HeadOf 200 ∧ exchange.Started) := by
  rw [process]
  have carriedOut := onSession_silent
    (services.carryOutRequest_buffered isGet whole capacity store noHooks)
  refine Triple.bind (carriedOut.onFailure fun error exchange silent =>
    Or.inl ⟨silent.session, silent.weaken fun _ _ => trivial⟩) fun outcome => ?_
  rintro exchange silent
  obtain ⟨collection, isCollection, rfl, reads⟩ := silent.session
  -- The read has succeeded, so whatever fails from here on, the error is the reader's doing.
  have committed := onSession_silent SessionM.commit_browses
  refine Triple.bind (committed.onFailure fun _ _ failed => failed.session.elim) (fun _ => ?_)
    exchange ⟨reads, silent.flows, silent.unwritten, silent.received⟩
  refine Triple.onResult (Triple.onFailure (document_triple 200 collection.toJson.render) ?_) ?_
  · exact fun _ _ failed => Or.inr ⟨⟨collection, isCollection⟩, failed.1⟩
  · exact fun _ _ sent => ⟨sent.1, collection, isCollection, sent.2⟩

end Processing

namespace Exchange

variable {exchange : Exchange Connection} (silent : exchange.Silent (Session.Fresh store))
  (capacity : Nat)

include isGet whole noHooks silent

/-- A collection that a reader gets as a whole is what there is to read. -/
theorem collection_of_buffered {status : Nat} {body : String}
    (completed : (execute services ⟨false, capacity⟩ request exchange).state = .completed)
    (answers : (execute services ⟨false, capacity⟩ request exchange).Answers status [.ok body]) :
    ∃ collection, services.collectionIn request store = .ok collection ∧
      body = collection.toJson.render := by
  rcases execute_ends (Processing.process_buffered isGet whole noHooks capacity) silent with
    ⟨reached, ⟨-, collection, isCollection, flows⟩, ended⟩ | ⟨error, reached, -, ended⟩
  · refine ⟨collection, isCollection, ?_⟩
    have received := flows.finish.deliveries_prefix
    have got : (Transport.finish reached.transport).2.deliveries = [.ok body] := by
      rw [ended] at answers
      exact answers.body
    rw [got] at received
    cases received.eq_of_length rfl
    rfl
  · rw [ended] at completed
    cases completed

/-- An error that a reader gets as a document is that of the read. -/
theorem error_of_buffered {status : Nat} {body : String} (high : 400 ≤ status)
    (known : exchange.transport.HeadKnown)
    (answers : (execute services ⟨false, capacity⟩ request exchange).Answers status [.ok body]) :
    ∃ error, services.collectionIn request store = .error error ∧ status = error.status ∧
      body = error.body.render := by
  have final := transport_execute Connection.keeps_headKnown services ⟨false, capacity⟩ request
    known
  -- With the head of a success no reader has got the status of an error.
  have notOk : ∀ {other : Exchange Connection}, other.HeadOf 200 → other.transport.HeadKnown →
      ¬ other.Answers status [.ok body] := by
    intro other headed known answers
    have same : status = 200 :=
      congrArg ResponseHead.status (headed.finalHead known answers.head)
    omega
  rcases execute_ends (Processing.process_buffered isGet whole noHooks capacity) silent with
    ⟨reached, ⟨headed, -⟩, ended⟩ | ⟨error, reached, ⟨refused, quiet⟩ | ⟨-, headed, started⟩, ended⟩
  · rw [ended] at final answers
    have completed : HeadOf 200 { reached with state := .completed } := headed
    exact absurd answers (notOk completed.release final)
  · rw [ended] at final answers
    exact ⟨error, refused, quiet.refused final answers⟩
  · rw [ended] at final answers
    have told : (Exchange.fail error reached).HeadOf 200 := by
      rw [HeadOf, headWritten_fail started error]
      exact headed
    exact absurd answers (notOk told.release final)

end Exchange

end Buffered

/-! ## Streaming -/

section Streamed

variable {services : Services} {request : Request} {store : Store}

namespace Processing

/-- The commit of a session that has only read goes through, also after the head. -/
theorem commit_sent (head : ResponseHead) (chunks : List String) :
    Triple (fun exchange =>
        Sent (fun session => ∃ unit name table, session.Browses unit name table) chunks exchange ∧
          Attentive (some head) exchange.transport)
      (onSession SessionM.commit)
      (fun _ exchange => Sent (fun _ => True) chunks exchange ∧
        Attentive (some head) exchange.transport)
      (fun _ _ => False) := by
  have committed := onSession_triple SessionM.commit_browses fun connection state =>
    (Flows (chunks.map .ok) connection ∧ state ≠ .received) ∧ Attentive (some head) connection
  refine Triple.consequence committed ?_ ?_ ?_
  · exact fun _ before => ⟨before.1.session, ⟨before.1.flows, before.1.started⟩, before.2⟩
  · exact fun _ _ after => ⟨⟨trivial, after.2.1.1, after.2.1.2⟩, after.2.2⟩
  · exact fun _ _ failed => failed.1

section Rows

variable {type : EntityType} {unit : Nat} {name : String} {table : Table} {plan : Query.Plan}
  (noHooks : services.registry.hooks type.name .afterLoad = []) (head : ResponseHead)

include noHooks

theorem nextItem_row {row : Nat × Record} (found : table.row? row.1 = some row.2)
    (later : List Nat) (chunks : List String) :
    Triple (fun exchange => Sent (Session.Browsed unit name table) chunks exchange ∧
        Attentive (some head) exchange.transport)
      (nextItem services ⟨type, .rows unit name plan (row.1 :: later)⟩)
      (fun item exchange =>
        item = some (.ok (plan.entityOf type row), ⟨type, .rows unit name plan later⟩) ∧
          Sent (Session.Browsed unit name table) chunks exchange ∧
          Attentive (some head) exchange.transport)
      (fun _ _ => False) := by
  rintro exchange ⟨sent, attentive⟩
  obtain ⟨after, advanced, browsed⟩ :=
    Services.advance_row noHooks sent.session found later
  change EndsIn _ _ (.ok (services.advance _ exchange.session).1,
    { exchange with session := (services.advance _ exchange.session).2 })
  rw [advanced]
  exact ⟨rfl, ⟨browsed, sent.flows, sent.started⟩, attentive⟩

/-- A patient reader gets the entities of all rows of a stream. -/
theorem sendEntities_rows {rows : List (Nat × Record)}
    (found : ∀ row ∈ rows, table.row? row.1 = some row.2) (separator : String)
    (chunks : List String) :
    Triple (fun exchange => Sent (Session.Browsed unit name table) chunks exchange ∧
        Attentive (some head) exchange.transport)
      (sendEntities services separator rows.length
        ⟨type, .rows unit name plan (rows.map Prod.fst)⟩)
      (fun _ exchange => Sent (Session.Browsed unit name table)
          (chunks ++ itemChunks separator (rows.map (plan.entityOf type))) exchange ∧
        Attentive (some head) exchange.transport)
      (fun _ _ => False) := by
  -- From entity to entity the session stays as it is; the separator and the chunks change.
  induction rows generalizing separator chunks with
  | nil =>
      simp only [List.map_nil, itemChunks, List.append_nil]
      exact Triple.pure fun _ sent => sent
  | cons row rest inductionHypothesis =>
      obtain ⟨isFirst, isLater⟩ := List.forall_mem_cons.mp found
      rw [List.length_cons, List.map_cons, sendEntities]
      refine Triple.bind (nextItem_row noHooks head isFirst _ chunks) fun item => ?_
      refine Triple.known ?_
      rintro rfl
      refine Triple.bind (send_patient _ head chunks _) fun _ => ?_
      have others := inductionHypothesis isLater ","
        (chunks ++ [separator ++ (plan.entityOf type row).toJson.render])
      rw [List.append_assoc, List.singleton_append] at others
      exact others

end Rows

theorem nextItem_failed {type : EntityType} {unit : Nat} {name : String} {table : Table}
    (error : ServiceError) (head : ResponseHead) (chunks : List String) :
    Triple (fun exchange => Sent (Session.Browsed unit name table) chunks exchange ∧
        Attentive (some head) exchange.transport)
      (nextItem services ⟨type, .failed error⟩)
      (fun item exchange =>
        item = some (.error error, ⟨type, .rows 0 "" .unfiltered []⟩) ∧
          Sent (fun _ => True) chunks exchange ∧ Attentive (some head) exchange.transport)
      (fun _ _ => False) := by
  rintro exchange ⟨sent, attentive⟩
  exact ⟨Services.advance_failed sent.session.quiet error, ⟨trivial, sent.flows, sent.started⟩,
    attentive⟩

theorem sendOpening_patient (holds : Session → Prop) (total : Option Nat)
    {next : Processing Connection Unit}
    {after : Unit → Exchange Connection → Prop} {failed : ServiceError → Exchange Connection → Prop}
    (goesOn : Triple (fun exchange => Sent holds [streamOpening total] exchange ∧
      Attentive (some (.document 200)) exchange.transport) next after failed) :
    Triple (fun exchange => Silent holds exchange ∧ Attentive none exchange.transport)
      (do
        sendHead 200
        send (streamOpening total)
        next) after failed := by
  refine Triple.bindSure (sendHead_patient holds 200) fun _ => ?_
  exact Triple.bindSure (send_patient holds (.document 200) [] _) fun _ => goesOn

variable {opening : Opening} (unit : Nat)

/-- A patient reader gets the whole of a stream whose rows have been selected. -/
theorem sendStream_rows {rows : List (Nat × Record)}
    (selected : opening.plan.select (opening.table store) = .ok rows)
    (noHooks : services.registry.hooks opening.set.type.name .afterLoad = [])
    (consistent : (opening.table store).Consistent) :
    Triple (fun exchange => Silent (Session.Browsed unit opening.set.type.qualifiedTable
          (opening.table store)) exchange ∧ Attentive none exchange.transport)
      (sendStream services (opening.stream store unit) opening.total)
      (fun _ exchange => Sent (fun _ => True) (streamOpening opening.total ::
          itemChunks "" (rows.map (opening.plan.entityOf opening.set.type)) ++ [streamClosing])
          exchange ∧
        Attentive (some (.document 200)) exchange.transport)
      (fun _ _ => False) := by
  have found : ∀ row ∈ rows, (opening.table store).row? row.1 = some row.2 := fun row member =>
    consistent.row?_of_mem (Query.Plan.select_subset selected member)
  have isStream : opening.stream store unit = ⟨opening.set.type,
      .rows unit opening.set.type.qualifiedTable opening.plan (rows.map Prod.fst)⟩ := by
    rw [Opening.stream, Query.Plan.cursorOn, selected]
  have count : (opening.stream store unit).remaining = rows.length := by
    rw [isStream]
    exact List.length_map _
  rw [sendStream, count, isStream]
  refine sendOpening_patient _ opening.total ?_
  refine Triple.bind (sendEntities_rows noHooks (.document 200) found "" _) fun _ => ?_
  have committed := (commit_sent (.document 200) _).onStart fun exchange
    (before : Sent (Session.Browsed unit opening.set.type.qualifiedTable (opening.table store))
      ([streamOpening opening.total] ++
        itemChunks "" (rows.map (opening.plan.entityOf opening.set.type))) exchange ∧ _) =>
    ⟨before.1.weaken fun _ browsed => ⟨_, _, _, browsed.browses⟩, before.2⟩
  refine Triple.bind committed fun _ => ?_
  exact send_patient _ _ _ _

/-- A stream whose cursor has failed is cut off after its opening. -/
theorem sendStream_failed {error : ServiceError}
    (failed : opening.plan.select (opening.table store) = .error error) :
    Triple (fun exchange => Silent (Session.Browsed unit opening.set.type.qualifiedTable
          (opening.table store)) exchange ∧ Attentive none exchange.transport)
      (sendStream services (opening.stream store unit) opening.total)
      (fun _ _ => False)
      (fun thrown exchange => thrown = error ∧
        Sent (fun _ => True) [streamOpening opening.total] exchange ∧
        Attentive (some (.document 200)) exchange.transport) := by
  have isStream : opening.stream store unit = ⟨opening.set.type, .failed error⟩ := by
    rw [Opening.stream, Query.Plan.cursorOn, failed]
  rw [sendStream, isStream]
  refine sendOpening_patient _ opening.total ?_
  refine Triple.bind ?_ fun _ => (fun _ => False.elim : Triple (fun _ => False) _ _ _)
  change Triple _ (sendEntities services "" 1 ⟨opening.set.type, .failed error⟩) _ _
  rw [sendEntities]
  refine Triple.bindSure (nextItem_failed error (.document 200) _) fun item => Triple.known ?_
  rintro rfl
  exact Triple.throw fun _ failed => ⟨rfl, failed⟩

/-! ## Requests for a stream -/

section Requests

variable (isGet : request.method = .get) (whole : request.resource.key = none) (capacity : Nat)

include isGet whole

theorem process_opened {after : Unit → Exchange Connection → Prop}
    {failed : ServiceError → Exchange Connection → Prop}
    (opens : services.openingIn request store = .ok opening)
    (sends : ∀ unit, Triple (fun exchange => Silent (Session.Browsed unit
          opening.set.type.qualifiedTable (opening.table store)) exchange ∧
        Attentive none exchange.transport)
      (sendStream services (opening.stream store unit) opening.total) after failed) :
    Triple (fun exchange => Silent (Session.Fresh store) exchange ∧
        Attentive none exchange.transport)
      (process services ⟨true, capacity⟩ request) after failed := by
  rw [process]
  have carriedOut := onSession_patient
    (services.carryOutRequest_streamed isGet whole capacity store)
  refine Triple.bind (carriedOut.onFailure ?_) fun outcome => ?_
  · rintro error exchange ⟨silent, -⟩
    cases opens.symm.trans silent.session
  · rintro exchange ⟨silent, attentive⟩
    obtain ⟨found, unit, isFound, rfl, browsed⟩ := silent.session
    cases isFound.symm.trans opens
    exact sends unit exchange
      ⟨⟨browsed, silent.flows, silent.unwritten, silent.received⟩, attentive⟩

/-- A request that opens no stream ends in the error before anything is sent. -/
theorem process_unopened {error : ServiceError}
    (refused : services.openingIn request store = .error error) :
    Triple (fun exchange => Silent (Session.Fresh store) exchange ∧
        Attentive none exchange.transport)
      (process services ⟨true, capacity⟩ request) (fun _ _ => False)
      (fun thrown exchange => thrown = error ∧ Silent (fun _ => True) exchange ∧
        Attentive none exchange.transport) := by
  rw [process]
  have carriedOut := onSession_patient
    (services.carryOutRequest_streamed isGet whole capacity store)
  refine Triple.bind (carriedOut.onFailure ?_) fun outcome => ?_
  · rintro thrown exchange ⟨silent, attentive⟩
    cases silent.session.symm.trans refused
    exact ⟨rfl, silent.weaken fun _ _ => trivial, attentive⟩
  · rintro exchange ⟨silent, -⟩
    obtain ⟨found, -, isFound, -⟩ := silent.session
    cases isFound.symm.trans refused

end Requests

end Processing

namespace Exchange

variable {opening : Opening} {exchange : Exchange Connection} (isGet : request.method = .get)
  (whole : request.resource.key = none) (capacity : Nat)
  (silent : exchange.Silent (Session.Fresh store)) (attentive : Attentive none exchange.transport)

include isGet whole silent attentive

theorem streamed_rows {rows : List (Nat × Record)}
    (opens : services.openingIn request store = .ok opening)
    (selected : opening.plan.select (opening.table store) = .ok rows)
    (noHooks : services.registry.hooks opening.set.type.name .afterLoad = [])
    (consistent : (opening.table store).Consistent) :
    (execute services ⟨true, capacity⟩ request exchange).state = .completed ∧
      (execute services ⟨true, capacity⟩ request exchange).Answers 200
        ((streamOpening opening.total :: itemChunks "" (rows.map
          (opening.plan.entityOf opening.set.type)) ++ [streamClosing]).map .ok) := by
  have processed := Processing.process_opened isGet whole capacity opens fun unit =>
    Processing.sendStream_rows unit selected noHooks consistent
  rcases execute_ends processed ⟨silent, attentive⟩ with
    ⟨reached, ⟨sent, attends⟩, ended⟩ | ⟨error, reached, impossible, -⟩
  · rw [ended]
    exact ⟨rfl, answers_release sent.flows attends⟩
  · exact impossible.elim

theorem streamed_failed {error : ServiceError}
    (late : services.FailsLate request store opening error) :
    (execute services ⟨true, capacity⟩ request exchange).Answers 200
      [.ok (streamOpening none), .error error] := by
  have failed : opening.plan.select (opening.table store) = .error error :=
    bind_eq_error.mpr (Or.inl late.fails)
  have processed := Processing.process_opened isGet whole capacity late.opens fun unit =>
    Processing.sendStream_failed unit failed
  rcases execute_ends processed ⟨silent, attentive⟩ with
    ⟨reached, impossible, -⟩ | ⟨thrown, reached, ⟨rfl, sent, attends⟩, ended⟩
  · exact impossible.elim
  · rw [late.uncounted] at sent
    rw [ended]
    exact answers_cutOff sent attends thrown

theorem streamed_unopened {error : ServiceError}
    (refused : services.openingIn request store = .error error) :
    (execute services ⟨true, capacity⟩ request exchange).Answers error.status
      [.ok error.body.render] := by
  have processed := Processing.process_unopened isGet whole capacity refused
  rcases execute_ends processed ⟨silent, attentive⟩ with
    ⟨reached, impossible, -⟩ | ⟨thrown, reached, ⟨rfl, quiet, attends⟩, ended⟩
  · exact impossible.elim
  · rw [ended]
    exact quiet.answers attends thrown

end Exchange

end Streamed

/-! ## The two ways compared -/

namespace Exchange

/-- A request over a store, answered to its end.  The reader is behind a channel with the capacity
that the options give. -/
def served (registry : Registry) (levels : Nat) (store : Store) (identifier : String)
    (journal : Journal) (options : ProcessorOptions) (request : Request)
    (turns : List (List ReaderStep)) : Exchange Connection :=
  execute (registry.services levels) options request
    (receive ⟨.reliable store, .start identifier, journal⟩
      (Connection.ofCapacity options.channelCapacity turns))

variable (registry : Registry) (levels : Nat) (request : Request) (isGet : request.method = .get)
  (whole : request.resource.key = none)
  (noHooks : ∀ set, registry.findSet request.resource.set = .ok set →
    registry.hooks set.type.name .afterLoad = [])
  (identifiers : Nat → String) (history : List StoreCall) (identifier : String)
  (journal : Journal) (capacity capacity' : Nat) (turns turns' : List (List ReaderStep))
  (patient : Patient turns')

include isGet whole noHooks patient

/-- A collection that is answered as a whole is also streamed to a reader that waits for the end,
and its chunks make up the same document. -/
theorem streamed_matches_buffered (body : String)
    (completed : (served registry levels (Store.after identifiers history) identifier journal
      ⟨false, capacity⟩ request turns).state = .completed)
    (answers : (served registry levels (Store.after identifiers history) identifier journal
      ⟨false, capacity⟩ request turns).Answers 200 [.ok body]) :
    let streamed := served registry levels (Store.after identifiers history) identifier journal
      ⟨true, capacity'⟩ request turns'
    streamed.state = .completed ∧
      ∃ chunks : List String, streamed.Answers 200 (chunks.map .ok) ∧
        String.join chunks = body := by
  intro streamed
  have same : (registry.services levels).registry = registry := registry.services_registry levels
  rw [← same] at noHooks
  have fresh := Session.fresh_start (Store.after identifiers history) identifier journal
  obtain ⟨collection, isCollection, rfl⟩ := collection_of_buffered isGet whole noHooks
    (silent_receive fresh capacity turns) capacity completed answers
  obtain ⟨opening, rows, opens, selected, rfl⟩ := Services.openingIn_of_collectionIn isCollection
  obtain ⟨streamsWhole, streams⟩ := streamed_rows isGet whole capacity'
    (silent_receive fresh capacity' turns') (Connection.attentive_ofCapacity capacity' patient)
    opens selected (noHooks opening.set (Services.findSet_of_openingIn opens))
    (Store.consistent_committedTable history _)
  exact ⟨streamsWhole, _, streams, join_streamed _ opening.total⟩

def openShop : Registry where
  sets := [⟨"Products", .named "products", .table⟩]
  registrations := []
  literalMode := .parameterized

/-- Calls that leave two products behind. -/
def stocking : List StoreCall :=
  [.commit 0, .insert 0 (.named "products") [("name", .string "tea")],
    .insert 0 (.named "products") [("name", .string "rice")], .beginUnit]

def browsing (query : String) : Request := ⟨.get, ⟨"Products", none⟩, some query, none⟩

/-- The products that are asked for with a query, at once or streamed. -/
def browsed (streams : Bool) (query : String) : Exchange Connection :=
  served openShop 1 (Store.after (fun _ => "") stocking) "first" .empty ⟨streams, 1⟩
    (browsing query) []

def stockText : String :=
  "\x7b\"@odata.count\":2,\"value\":[\x7b\"Name\":\"rice\"\x7d,\x7b\"Name\":\"tea\"\x7d]\x7d"

omit isGet whole noHooks patient in
theorem stock_streamed_as_buffered :
    Patient [] ∧ (browsed false "$count=true").state = .completed ∧
      (browsed false "$count=true").Answers 200 [.ok stockText] ∧
      (browsed true "$count=true").state = .completed ∧
      ∃ chunks : List String, (browsed true "$count=true").Answers 200 (chunks.map .ok) ∧
        String.join chunks = stockText := by
  have patient : Patient [] := by simp [Patient]
  have completed : (browsed false "$count=true").state = .completed := by decide +kernel
  have answers : (browsed false "$count=true").Answers 200 [.ok stockText] := by
    refine ⟨by decide +kernel, by decide +kernel⟩
  have noHooks : ∀ set, openShop.findSet "Products" = .ok set →
      openShop.hooks set.type.name .afterLoad = [] := fun _ _ => rfl
  obtain ⟨streamed, chunks⟩ := streamed_matches_buffered openShop 1 (browsing "$count=true") rfl rfl
    noHooks (fun _ => "") stocking "first" .empty 1 1 [] [] patient stockText completed answers
  exact ⟨patient, completed, answers, streamed, chunks⟩

/-- An error that the read at once answers with is also what a stream is answered with, as long as
it comes before the head.  When the predicate fails on a row and nothing is counted, the stream is
opened all the same: its head tells of success, and the error cuts its body off. -/
theorem streamed_error_after_buffered (status : Nat) (body : String) (high : 400 ≤ status)
    (answers : (served registry levels (Store.after identifiers history) identifier journal
      ⟨false, capacity⟩ request turns).Answers status [.ok body]) :
    let store := Store.after identifiers history
    let streamed := served registry levels store identifier journal ⟨true, capacity'⟩ request turns'
    (∀ opening error, (registry.services levels).FailsLate request store opening error →
      status = error.status ∧ body = error.body.render ∧
        streamed.Answers 200 [.ok (streamOpening none), .error error]) ∧
    ((¬ ∃ opening error, (registry.services levels).FailsLate request store opening error) →
      streamed.Answers status [.ok body]) := by
  intro store streamed
  have same : (registry.services levels).registry = registry := registry.services_registry levels
  rw [← same] at noHooks
  have fresh := Session.fresh_start store identifier journal
  obtain ⟨error, refused, rfl, rfl⟩ := error_of_buffered isGet whole noHooks
    (silent_receive fresh capacity turns) capacity high
    (Connection.headKnown_ofCapacity capacity turns) answers
  have silent := silent_receive fresh capacity' turns'
  have attentive := Connection.attentive_ofCapacity capacity' patient
  constructor
  · intro opening other late
    obtain rfl : other = error := by
      rcases Services.openingIn_of_refused refused with unopened | ⟨found, isLate⟩
      · cases late.opens.symm.trans unopened
      · cases late.opens.symm.trans isLate.opens
        exact Except.error.inj (late.fails.symm.trans isLate.fails)
    exact ⟨rfl, rfl, streamed_failed isGet whole capacity' silent attentive late⟩
  · intro early
    rcases Services.openingIn_of_refused refused with unopened | ⟨opening, isLate⟩
    · exact streamed_unopened isGet whole capacity' silent attentive unopened
    · exact absurd ⟨opening, error, isLate⟩ early

/-- A filter that compares names with a number, which shows on a row only. -/
def mistaken : String := "$filter=Name gt 5"

def mistake : ServiceError := .badRequest "Cannot compare string and integer with >"

omit isGet whole noHooks patient in
theorem mistake_streamed_as_success :
    (browsed false mistaken).Answers 400 [.ok mistake.body.render] ∧
      ¬ (browsed true mistaken).Answers 400 [.ok mistake.body.render] ∧
      (browsed true mistaken).transport.finalHead = some (.document 200) := by
  have succeeds : (browsed true mistaken).transport.finalHead = some (.document 200) := by
    decide +kernel
  refine ⟨⟨by decide +kernel, by decide +kernel⟩, fun answers => ?_, succeeds⟩
  have same : 200 = 400 :=
    congrArg ResponseHead.status (Option.some.inj (succeeds.symm.trans answers.head))
  omega

/-- The stream that is opened for it. -/
def mistakenOpening : Opening where
  set := ⟨"Products", .named "products", .table⟩
  plan := { Query.Plan.unfiltered with
    predicateText := some "products.name > ?"
    parameters := [.integer 5]
    predicate := some (.compare .greater (.column "name") (.value (.integer 5))) }
  total := none

omit isGet whole noHooks patient in
theorem mistake_cuts_stream_off :
    Patient [] ∧ 400 ≤ mistake.status ∧
      (browsed false mistaken).Answers mistake.status [.ok mistake.body.render] ∧
      (openShop.services 1).FailsLate (browsing mistaken) (Store.after (fun _ => "") stocking)
        mistakenOpening mistake ∧
      (browsed true mistaken).Answers 200 [.ok (streamOpening none), .error mistake] := by
  have patient : Patient [] := by simp [Patient]
  have high : 400 ≤ mistake.status := by decide
  have answers : (browsed false mistaken).Answers mistake.status [.ok mistake.body.render] :=
    ⟨by decide +kernel, by decide +kernel⟩
  have late : (openShop.services 1).FailsLate (browsing mistaken)
      (Store.after (fun _ => "") stocking) mistakenOpening mistake :=
    ⟨by decide +kernel, rfl, by decide +kernel⟩
  have noHooks : ∀ set, openShop.findSet "Products" = .ok set →
      openShop.hooks set.type.name .afterLoad = [] := fun _ _ => rfl
  obtain ⟨cutOff, -⟩ := streamed_error_after_buffered openShop 1 (browsing mistaken) rfl rfl noHooks
    (fun _ => "") stocking "first" .empty 1 1 [] [] patient mistake.status mistake.body.render high
    answers
  exact ⟨patient, high, answers, late, (cutOff mistakenOpening mistake late).2.2⟩

end Exchange

end EntityQuery
